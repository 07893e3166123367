namespace Folio.Text

def utf8Bytes (c : Char) : List Nat :=
  let n := c.toNat
  if n < 0x80 then [n]
  else if n < 0x800 then [0xC0 + n / 64, 0x80 + n % 64]
  else if n < 0x10000 then [0xE0 + n / 4096, 0x80 + n / 64 % 64, 0x80 + n % 64]
  else [0xF0 + n / 262144, 0x80 + n / 4096 % 64, 0x80 + n / 64 % 64, 0x80 + n % 64]

def utf8Encode (s : String) : List Nat := s.toList.flatMap utf8Bytes

def replacementChar : Char := Char.ofNat 0xFFFD

def isContinuation (b : Nat) : Bool := 0x80 ≤ b && b ≤ 0xBF

/-- For a lead byte: the range its first continuation byte must lie in, and how many
continuation bytes follow it. -/
def leadInfo (b : Nat) : Option (Nat × Nat × Nat) :=
  if 0xC2 ≤ b && b ≤ 0xDF then some (0x80, 0xBF, 1)
  else if b = 0xE0 then some (0xA0, 0xBF, 2)
  else if b = 0xED then some (0x80, 0x9F, 2)
  else if 0xE1 ≤ b && b ≤ 0xEF then some (0x80, 0xBF, 2)
  else if b = 0xF0 then some (0x90, 0xBF, 3)
  else if b = 0xF4 then some (0x80, 0x8F, 3)
  else if 0xF1 ≤ b && b ≤ 0xF3 then some (0x80, 0xBF, 3)
  else none

/-- The character that starts a byte list and how many bytes it takes; an ill-formed start
takes the bytes of its maximal subsequence and reads as U+FFFD. -/
def utf8Head : List Nat → Char × Nat
  | [] => (replacementChar, 1)
  | b :: rest =>
    match leadInfo b with
    | none => (if b < 0x80 then Char.ofNat b else replacementChar, 1)
    | some (lo, hi, k) =>
      match rest with
      | b1 :: b2 :: b3 :: _ =>
        if !(lo ≤ b1 && b1 ≤ hi) then (replacementChar, 1)
        else if k = 1 then (Char.ofNat ((b % 32) * 64 + b1 % 64), 2)
        else if !isContinuation b2 then (replacementChar, 2)
        else if k = 2 then (Char.ofNat ((b % 16) * 4096 + (b1 % 64) * 64 + b2 % 64), 3)
        else if !isContinuation b3 then (replacementChar, 3)
        else (Char.ofNat ((b % 8) * 262144 + (b1 % 64) * 4096 + (b2 % 64) * 64 + b3 % 64), 4)
      | [b1, b2] =>
        if !(lo ≤ b1 && b1 ≤ hi) then (replacementChar, 1)
        else if k = 1 then (Char.ofNat ((b % 32) * 64 + b1 % 64), 2)
        else if !isContinuation b2 then (replacementChar, 2)
        else if k = 2 then (Char.ofNat ((b % 16) * 4096 + (b1 % 64) * 64 + b2 % 64), 3)
        else (replacementChar, 3)
      | [b1] =>
        if !(lo ≤ b1 && b1 ≤ hi) then (replacementChar, 1)
        else if k = 1 then (Char.ofNat ((b % 32) * 64 + b1 % 64), 2)
        else (replacementChar, 2)
      | [] => (replacementChar, 1)

/-- Decodes UTF-8 bytes, each maximal ill-formed subsequence becoming one U+FFFD. -/
def utf8DecodeLossy (bs : List Nat) : List Char :=
  match bs with
  | [] => []
  | b :: rest => (utf8Head (b :: rest)).1 :: utf8DecodeLossy ((b :: rest).drop (max (utf8Head (b :: rest)).2 1))
termination_by bs.length
decreasing_by simp only [List.length_drop, List.length_cons]; omega

end Folio.Text
