import Folio.Url.Percent
import Folio.Text.Basic

namespace Folio.Url

/-- The value of one IPv4 part: decimal, octal after a leading zero, hexadecimal after `0x`. -/
def ipv4Number? (cs : List Char) : Option Nat :=
  let (radix, digits) :=
    match cs with
    | '0' :: 'x' :: rest => (16, rest)
    | '0' :: 'X' :: rest => (16, rest)
    | '0' :: d :: rest => (8, d :: rest)
    | _ => (10, cs)
  if cs.isEmpty then none
  else
    digits.foldl (fun acc c =>
      acc.bind fun n => (hexValue? c).bind fun d => if d < radix then some (radix * n + d) else none)
      (some 0)

/-- The dot-separated parts of a host, a trailing empty part dropped when there are others. -/
def hostParts (host : String) : List (List Char) :=
  let parts := Text.splitOnChar '.' host.toList
  match parts.getLast? with
  | some [] => if parts.length > 1 then parts.dropLast else parts
  | _ => parts

/-- A host whose last part is a number, so that it must be an IPv4 address. -/
def endsInNumber (host : String) : Bool :=
  match (hostParts host).getLast? with
  | some last => (!last.isEmpty && last.all Char.isDigit) || (ipv4Number? last).isSome
  | none => false

def parseIpv4? (host : String) : Option Nat := do
  let parts := hostParts host
  if parts.length > 4 then none
  let numbers ← parts.mapM ipv4Number?
  let last ← numbers.getLast?
  let front := numbers.dropLast
  if front.any (· > 255) then none
  if last ≥ Nat.pow 256 (5 - numbers.length) then none
  pure (front.zipIdx.foldl (fun acc (n, i) => acc + n * Nat.pow 256 (3 - i)) last)

def showIpv4 (a : Nat) : String :=
  ".".intercalate [toString (a / 16777216 % 256), toString (a / 65536 % 256),
    toString (a / 256 % 256), toString (a % 256)]

/-- IPv6 pieces read so far: those before `::`, whether it was seen, and those after it. -/
structure Pieces where
  before : List Nat := []
  compressed : Bool := false
  after : List Nat := []

def Pieces.used (p : Pieces) : Nat :=
  p.before.length + (if p.compressed then 1 else 0) + p.after.length

def Pieces.push (p : Pieces) (x : Nat) : Pieces :=
  if p.compressed then { p with after := p.after ++ [x] } else { p with before := p.before ++ [x] }

def takeHex : Nat → List Char → List Char × Nat × List Char
  | 0, cs => ([], 0, cs)
  | n + 1, c :: cs =>
    match hexValue? c with
    | some d =>
      let (ds, v, rest) := takeHex n cs
      (c :: ds, d * Nat.pow 16 ds.length + v, rest)
    | none => ([], 0, c :: cs)
  | _ + 1, [] => ([], 0, [])

/-- A decimal number from 0 to 255 without leading zeros, then the rest. -/
def takeOctet (cs : List Char) : Option (Nat × List Char) :=
  let ds := cs.takeWhile Char.isDigit
  let rest := cs.dropWhile Char.isDigit
  if ds.isEmpty || (ds.length > 1 && ds.head? = some '0') then none
  else
    let v := ds.foldl (fun n c => 10 * n + (c.toNat - 48)) 0
    if v > 255 then none else some (v, rest)

def dottedQuad? (cs : List Char) : Option (List Nat) := do
  let (a, r1) ← takeOctet cs
  let r1 ← match r1 with | '.' :: r => some r | _ => none
  let (b, r2) ← takeOctet r1
  let r2 ← match r2 with | '.' :: r => some r | _ => none
  let (c, r3) ← takeOctet r2
  let r3 ← match r3 with | '.' :: r => some r | _ => none
  let (d, r4) ← takeOctet r3
  if r4.isEmpty then some [a, b, c, d] else none

/-- Reads IPv6 pieces from the rest of an address. -/
def ipv6Loop : Nat → List Char → Pieces → Option Pieces
  | 0, _, _ => none
  | _ + 1, [], p => some p
  | fuel + 1, c :: cs, p =>
    if p.used = 8 then none
    else if c = ':' then
      if p.compressed then none else ipv6Loop fuel cs { p with compressed := true }
    else
      let (ds, v, rest) := takeHex 4 (c :: cs)
      match rest with
      | '.' :: _ =>
        if ds.isEmpty || p.used > 6 then none
        else do
          let q ← dottedQuad? (c :: cs)
          match q with
          | [a, b, x, y] => some ((p.push (a * 256 + b)).push (x * 256 + y))
          | _ => none
      | ':' :: rest' =>
        if ds.isEmpty || rest'.isEmpty then none else ipv6Loop fuel rest' (p.push v)
      | [] => if ds.isEmpty then none else some (p.push v)
      | _ => none

def parseIpv6? (s : String) : Option (List Nat) := do
  let cs := s.toList
  let (start, p0) ← match cs with
    | ':' :: ':' :: rest => some (rest, ({ compressed := true } : Pieces))
    | ':' :: _ => none
    | _ => some (cs, ({} : Pieces))
  let p ← ipv6Loop (cs.length + 1) start p0
  if p.compressed then
    some (p.before ++ List.replicate (8 - p.before.length - p.after.length) 0 ++ p.after)
  else if p.before.length = 8 then some p.before
  else none

/-- Where the first longest run of two or more zero pieces starts, and its length. -/
def longestZeroRun (ps : List Nat) : Option (Nat × Nat) :=
  let step (acc : Option (Nat × Nat) × Nat × Nat) (e : Nat × Nat) :=
    let (best, start, len) := acc
    let (x, i) := e
    if x = 0 then
      let start := if len = 0 then i else start
      let len := len + 1
      let best := match best with
        | some (_, l) => if len > l then some (start, len) else best
        | none => some (start, len)
      (best, start, len)
    else (best, start, 0)
  match (ps.zipIdx.foldl step (none, 0, 0)).1 with
  | some (s, l) => if l ≥ 2 then some (s, l) else none
  | none => none

/-- Eight IPv6 pieces written with lower-case hex and `::` for the longest zero run. -/
def showIpv6 (ps : List Nat) : String :=
  let hex (x : Nat) := String.ofList (Nat.toDigits 16 x)
  match longestZeroRun ps with
  | none => ":".intercalate (ps.map hex)
  | some (s, l) =>
    ":".intercalate ((ps.take s).map hex) ++ "::" ++ ":".intercalate ((ps.drop (s + l)).map hex)

end Folio.Url
