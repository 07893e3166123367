import Folio.Text.Lower
import Folio.Text.Basic

namespace Folio.Url.Punycode

/-- The bias adaptation of RFC 3492, section 6.1. -/
def adapt (delta numPoints : Nat) (first : Bool) : Nat :=
  let d := if first then delta / 700 else delta / 2
  let d := d + d / numPoints
  let rec go : Nat → Nat → Nat → Nat
    | 0, d, k => k + 36 * d / (d + 38)
    | fuel + 1, d, k => if d > 455 then go fuel (d / 35) (k + 36) else k + 36 * d / (d + 38)
  go 16 d 0

def threshold (k bias : Nat) : Nat :=
  if k ≤ bias then 1 else if k ≥ bias + 26 then 26 else k - bias

def digitChar (d : Nat) : Char := if d < 26 then Char.ofNat (97 + d) else Char.ofNat (22 + d)

def digitValue? (c : Char) : Option Nat :=
  if 'a' ≤ c && c ≤ 'z' then some (c.toNat - 97)
  else if 'A' ≤ c && c ≤ 'Z' then some (c.toNat - 65)
  else if '0' ≤ c && c ≤ '9' then some (c.toNat - 22)
  else none

theorem threshold_pos (k bias : Nat) : 1 ≤ threshold k bias ∧ threshold k bias ≤ 26 := by
  unfold threshold
  split
  · omega
  · split <;> omega

/-- The digits of a variable-length integer `q` from position `k` on. -/
def encodeInt (q k bias : Nat) : List Char :=
  let t := threshold k bias
  if q < t then [digitChar q]
  else digitChar (t + (q - t) % (36 - t)) :: encodeInt ((q - t) / (36 - t)) (k + 36) bias
termination_by q
decreasing_by
  have := threshold_pos k bias
  apply Nat.div_lt_of_lt_mul
  have : q - threshold k bias < q := by omega
  calc q - threshold k bias < q := this
    _ ≤ (36 - threshold k bias) * q := Nat.le_mul_of_pos_left q (by omega)

/-- One round per remaining code point: the smallest code point not yet handled is inserted
at every place it occurs. -/
def encodeRounds : Nat → List Nat → Nat → Nat → Nat → Nat → Nat → List Char
  | 0, _, _, _, _, _, _ => []
  | fuel + 1, input, n, delta, bias, h, b =>
    if h ≥ input.length then []
    else
      let m := (input.filter (· ≥ n)).foldl min (input.foldl max 0)
      let delta := delta + (m - n) * (h + 1)
      let step (st : List Char × Nat × Nat × Nat) (c : Nat) :=
        let (out, delta, bias, h) := st
        if c < m then (out, delta + 1, bias, h)
        else if c = m then
          (out ++ encodeInt delta 36 bias, 0, adapt delta (h + 1) (h = b), h + 1)
        else (out, delta, bias, h)
      let (out, delta, bias, h) := input.foldl step ([], delta, bias, h)
      out ++ encodeRounds fuel input (m + 1) (delta + 1) bias h b

def encode (input : List Nat) : String :=
  let basic := (input.filter (· < 128)).map Char.ofNat
  let b := basic.length
  let head := if b > 0 then basic ++ ['-'] else []
  String.ofList (head ++ encodeRounds input.length input 128 0 72 b b)

def decodeInt : Nat → List Char → Nat → Nat → Nat → Nat → Option (Nat × List Char)
  | 0, _, _, _, _, _ => none
  | _ + 1, [], _, _, _, _ => none
  | fuel + 1, c :: cs, i, w, k, bias => do
    let d ← digitValue? c
    let i := i + d * w
    let t := threshold k bias
    if d < t then some (i, cs) else decodeInt fuel cs i (w * (36 - t)) (k + 36) bias

/-- Inserts the decoded code points one variable-length integer at a time. -/
def decodeRounds : Nat → List Char → List Nat → Nat → Nat → Nat → Option (List Nat)
  | 0, _, _, _, _, _ => none
  | _ + 1, [], out, _, _, _ => some out
  | fuel + 1, cs, out, n, i, bias => do
    let (i', rest) ← decodeInt 64 cs i 1 36 bias
    let len := out.length + 1
    let bias := adapt (i' - i) len (i = 0)
    let n := n + i' / len
    let pos := i' % len
    if n > 0x10FFFF || (0xD800 ≤ n && n ≤ 0xDFFF) then none
    decodeRounds fuel rest (out.take pos ++ [n] ++ out.drop pos) n (pos + 1) bias

def decode (s : String) : Option (List Nat) :=
  let cs := s.toList
  let (basic, digits) :=
    if cs.contains '-' then
      let rev := cs.reverse
      ((rev.dropWhile (· ≠ '-')).drop 1 |>.reverse, (rev.takeWhile (· ≠ '-')).reverse)
    else ([], cs)
  if basic.any (·.toNat ≥ 128) then none
  else decodeRounds (digits.length + 1) digits (basic.map Char.toNat) 128 0 72

end Folio.Url.Punycode

namespace Folio.Url

/-- ASCII characters that no domain may hold: controls, the space, delete and the host
delimiters. -/
def isForbiddenDomainChar (c : Char) : Bool :=
  c.toNat ≤ 0x20 || c.toNat = 0x7F || "%#/:<>?@[\\]^|".toList.contains c

def mapDomainChar (c : Char) : List Char :=
  let n := c.toNat
  if n < 0x80 then [c.toLower]
  else if 0xFF01 ≤ n && n ≤ 0xFF5E then [(Char.ofNat (n - 0xFEE0)).toLower]
  else if n = 0x3002 || n = 0xFF0E || n = 0xFF61 then ['.']
  else if n = 0xAD || (0x200B ≤ n && n ≤ 0x200D) || n = 0x2060 || n = 0xFEFF then []
  else if n = 0xA0 || n = 0x1680 || (0x2000 ≤ n && n ≤ 0x200A) || n = 0x202F || n = 0x205F ||
      n = 0x3000 then [' ']
  else Text.lowerChar c

/-- A label already in ASCII form must, when it starts with `xn--`, decode to a name that is
not all ASCII. -/
def acePrefixOk (label : List Char) : Bool :=
  match label with
  | 'x' :: 'n' :: '-' :: '-' :: rest =>
    match Punycode.decode (String.ofList rest) with
    | some cps => !cps.isEmpty && cps.any (· ≥ 128)
    | none => false
  | _ => true

def labelToAscii (label : List Char) : Option String :=
  if label.all (·.toNat < 128) then
    if acePrefixOk label then some (String.ofList label) else none
  else some ("xn--" ++ Punycode.encode (label.map Char.toNat))

def domainToAscii (s : String) : Option String := do
  let mapped := s.toList.flatMap mapDomainChar
  if mapped.any isForbiddenDomainChar then none
  let labels ← (Text.splitOnChar '.' mapped).mapM labelToAscii
  pure (".".intercalate labels)

end Folio.Url
