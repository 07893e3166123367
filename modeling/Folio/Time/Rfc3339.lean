import Folio.Time.Instant

namespace Folio.Time

def fixedDigits : Nat → List Char → Option (Nat × List Char)
  | 0, cs => some (0, cs)
  | n + 1, c :: cs =>
    if c.isDigit then
      (fixedDigits n cs).map fun (v, rest) => ((c.toNat - 48) * Nat.pow 10 n + v, rest)
    else none
  | _ + 1, [] => none

def expectChar (c : Char) : List Char → Option (List Char)
  | d :: rest => if d = c then some rest else none
  | [] => none

/-- The nanoseconds of a fraction: its first nine digits scaled, the rest skipped. -/
def fractionNanos (cs : List Char) : Option (Nat × List Char) :=
  let ds := cs.takeWhile Char.isDigit
  if ds.isEmpty then none
  else
    let first := ds.take 9
    let v := first.foldl (fun n c => 10 * n + (c.toNat - 48)) 0
    some (v * Nat.pow 10 (9 - first.length), cs.dropWhile Char.isDigit)

/-- The offset east of UTC in seconds, then the rest. -/
def offsetSeconds : List Char → Option (Int × List Char)
  | 'Z' :: rest => some (0, rest)
  | 'z' :: rest => some (0, rest)
  | c :: rest => do
    let negative ← if c = '+' then some false
      else if c = '-' || c.toNat = 0x2212 then some true else none
    let (h, r1) ← fixedDigits 2 rest
    let r2 ← expectChar ':' r1
    let (m, r3) ← fixedDigits 2 r2
    if m > 59 then none
    let s : Int := h * 3600 + m * 60
    some (if negative then -s else s, r3)
  | [] => none

/-- Reads an RFC 3339 date-time into the UTC instant it names. -/
def parseRfc3339 (s : String) : Option Instant := do
  let cs := s.toList
  let (y, r) ← fixedDigits 4 cs
  let r ← expectChar '-' r
  let (mo, r) ← fixedDigits 2 r
  let r ← expectChar '-' r
  let (d, r) ← fixedDigits 2 r
  let r ← match r with
    | c :: rest => if c = 'T' || c = 't' || c = ' ' then some rest else none
    | [] => none
  let (hh, r) ← fixedDigits 2 r
  let r ← expectChar ':' r
  let (mm, r) ← fixedDigits 2 r
  let r ← expectChar ':' r
  let (ss, r) ← fixedDigits 2 r
  let (nanos, r) ← match r with
    | '.' :: rest => fractionNanos rest
    | _ => some (0, r)
  let (off, r) ← offsetSeconds r
  if !r.isEmpty then none
  if off.natAbs > 23 * 3600 + 59 * 60 then none
  if !isValidDate y mo d || hh > 23 || mm > 59 || ss > 60 then none
  let (ss, nanos) := if ss = 60 then (59, nanos + 1000000000) else (ss, nanos)
  pure ((Instant.ofCivil y mo d hh mm ss nanos).addSeconds (-off))

end Folio.Time
