import Folio.Text.Printable

namespace Folio.Yaml

inductive Scalar where
  | null
  | bool (b : Bool)
  | unsigned (n : Nat)
  | signed (i : Int)
  | float (shown : String)
  | text (s : String)
deriving Repr, BEq, Inhabited

def isNullText (s : String) : Bool := s == "~" || s == "null" || s == "Null" || s == "NULL"

def boolText? (s : String) : Option Bool :=
  if s == "true" || s == "True" || s == "TRUE" then some true
  else if s == "false" || s == "False" || s == "FALSE" then some false
  else none

/-- Leading zeros followed by digits: such a scalar is text. -/
def digitsButNotNumber (s : String) : Bool :=
  let cs := s.toList
  let cs := match cs with
    | '-' :: rest => rest
    | '+' :: rest => rest
    | _ => cs
  cs.length > 1 && cs.head? == some '0' && (cs.drop 1).all Char.isDigit

def digitValue? (radix : Nat) (c : Char) : Option Nat :=
  let v :=
    if c.isDigit then some (c.toNat - '0'.toNat)
    else if 'a' ≤ c && c ≤ 'z' then some (c.toNat - 'a'.toNat + 10)
    else if 'A' ≤ c && c ≤ 'Z' then some (c.toNat - 'A'.toNat + 10)
    else none
  v.filter (· < radix)

def radixDigits? (radix : Nat) (cs : List Char) : Option Nat :=
  if cs.isEmpty then none
  else cs.foldlM (fun acc c => (digitValue? radix c).map (acc * radix + ·)) 0

/-- An integer as a machine reads one: an optional sign, then digits. A minus sign is
allowed only when `signed`. -/
def radixInteger? (signed : Bool) (radix : Nat) (cs : List Char) : Option Int :=
  match cs with
  | '+' :: rest => Int.ofNat <$> radixDigits? radix rest
  | '-' :: rest => if signed then (fun n => -Int.ofNat n) <$> radixDigits? radix rest else none
  | _ => Int.ofNat <$> radixDigits? radix cs

/-- A non-negative integer below `limit`, as written in YAML. -/
def unsignedIn? (limit : Nat) (s : String) : Option Nat :=
  let cs := s.toList
  let cs := match cs with
    | '+' :: rest => rest
    | _ => cs
  let fits (v : Option Int) : Option Nat :=
    match v with
    | some i => if 0 ≤ i && i.toNat < limit then some i.toNat else none
    | none => none
  let prefixed (p : List Char) (radix : Nat) : Option (Option Nat) :=
    if p.isPrefixOf cs then
      let rest := cs.drop p.length
      if rest.head? == some '+' || rest.head? == some '-' then some none
      else (fits (radixInteger? false radix rest)).map some
    else none
  match prefixed ['0', 'x'] 16 with
  | some r => r
  | none =>
  match prefixed ['0', 'o'] 8 with
  | some r => r
  | none =>
  match prefixed ['0', 'b'] 2 with
  | some r => r
  | none =>
    if cs.head? == some '+' || cs.head? == some '-' then none
    else if digitsButNotNumber s then none
    else fits (radixInteger? false 10 cs)

/-- A negative-or-signed integer at least `-limit`, as written in YAML. -/
def signedIn? (limit : Nat) (s : String) : Option Int :=
  let cs := s.toList
  let fits (v : Option Int) : Option Int :=
    match v with
    | some i => if -Int.ofNat limit ≤ i && i < Int.ofNat limit then some i else none
    | none => none
  let prefixed (p : List Char) (radix : Nat) : Option Int :=
    if p.isPrefixOf cs then fits (radixInteger? true radix ('-' :: cs.drop p.length)) else none
  match prefixed ['-', '0', 'x'] 16 with
  | some r => some r
  | none =>
  match prefixed ['-', '0', 'o'] 8 with
  | some r => some r
  | none =>
  match prefixed ['-', '0', 'b'] 2 with
  | some r => some r
  | none => if digitsButNotNumber s then none else fits (radixInteger? true 10 cs)

/-- A decimal `digits × 10^exponent` in positional notation, trailing zeros dropped. -/
def positional (negative : Bool) (digits : List Char) (exponent : Int) : String :=
  let ds := digits.dropWhile (· == '0')
  let sign := if negative then "-" else ""
  if ds.isEmpty then sign ++ "0"
  else
    let trailing := (ds.reverse.takeWhile (· == '0')).length
    let ds := ds.take (ds.length - trailing)
    let e := exponent + Int.ofNat trailing
    if e ≥ 0 then sign ++ String.ofList (ds ++ List.replicate e.toNat '0')
    else
      let k := (-e).toNat
      if k < ds.length then
        sign ++ String.ofList (ds.take (ds.length - k)) ++ "." ++ String.ofList (ds.drop (ds.length - k))
      else sign ++ "0." ++ String.ofList (List.replicate (k - ds.length) '0' ++ ds)

/-- A finite float in decimal notation: digits with at most one point, at least one digit,
then an optional exponent. Gives the printed form, or nothing when the text is no float or
its value is too large for a double. -/
def decimalFloat? (s : String) : Option String :=
  let cs := s.toList
  let (negative, cs) := match cs with
    | '-' :: rest => (true, rest)
    | '+' :: rest => (false, rest)
    | _ => (false, cs)
  let whole := cs.takeWhile Char.isDigit
  let cs := cs.drop whole.length
  let (frac, cs) := match cs with
    | '.' :: rest => (rest.takeWhile Char.isDigit, rest.drop (rest.takeWhile Char.isDigit).length)
    | _ => ([], cs)
  if whole.isEmpty && frac.isEmpty then none
  else
    let expo : Option Int := match cs with
      | [] => some 0
      | c :: rest =>
        if c == 'e' || c == 'E' then
          match rest with
          | '+' :: ds => Int.ofNat <$> radixDigits? 10 ds
          | '-' :: ds => (fun n => -Int.ofNat n) <$> radixDigits? 10 ds
          | ds => Int.ofNat <$> radixDigits? 10 ds
        else none
    match expo with
    | none => none
    | some e =>
      let digits := whole ++ frac
      let e := e - Int.ofNat frac.length
      let significant := digits.dropWhile (· == '0')
      if significant.isEmpty then some (positional negative [] 0)
      else
        -- the magnitude is below 10^(length + e); doubles end near 1.8 × 10^308
        let magnitude := Int.ofNat significant.length + e
        if magnitude > 309 then none
        else if magnitude < -323 then some (positional negative [] 0)
        else some (positional negative significant e)

/-- A float as YAML reads one: the special forms `.inf`, `-.inf`, `.nan`, or a finite
decimal; a second sign after `+` is refused. -/
def floatText? (s : String) : Option String :=
  let unsigned :=
    match s.toList with
    | '+' :: c :: _ => if c == '+' || c == '-' then none else some (String.ofList (s.toList.drop 1))
    | _ => some s
  match unsigned with
  | none => none
  | some u =>
    if u == ".inf" || u == ".Inf" || u == ".INF" then some "inf"
    else if s == "-.inf" || s == "-.Inf" || s == "-.INF" then some "-inf"
    else if s == ".nan" || s == ".NaN" || s == ".NAN" then some "NaN"
    else decimalFloat? u

/-- What an untagged plain scalar means. -/
def Scalar.resolve (s : String) : Scalar :=
  if s.isEmpty || isNullText s then .null
  else match boolText? s with
  | some b => .bool b
  | none =>
  match unsignedIn? (Nat.pow 2 64) s with
  | some n => .unsigned n
  | none =>
  match signedIn? (Nat.pow 2 63) s with
  | some i => .signed i
  | none =>
  match unsignedIn? (Nat.pow 2 128) s with
  | some n => .unsigned n
  | none =>
  match signedIn? (Nat.pow 2 127) s with
  | some i => .signed i
  | none =>
    if digitsButNotNumber s then .text s
    else match floatText? s with
    | some f => .float f
    | none => .text s

def Scalar.unexpected : Scalar → String
  | .null => "unit value"
  | .bool b => "boolean `" ++ toString b ++ "`"
  | .unsigned n =>
    if n < Nat.pow 2 64 then "integer `" ++ toString n ++ "`" else "integer `" ++ toString n ++ "` as u128"
  | .signed i =>
    if -Int.pow 2 63 ≤ i then "integer `" ++ toString i ++ "`" else "integer `" ++ toString i ++ "` as i128"
  | .float f =>
    if f.contains '.' || f == "inf" || f == "-inf" || f == "NaN" then "floating point `" ++ f ++ "`"
    else "floating point `" ++ f ++ ".0`"
  | .text s => "string " ++ Text.quoted s

end Folio.Yaml
