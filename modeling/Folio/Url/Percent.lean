import Folio.Text.Utf8

namespace Folio.Url

/-- The ASCII characters a percent-encode set escapes beside the controls and non-ASCII bytes. -/
structure EncodeSet where
  extra : List Char

def EncodeSet.escapes (s : EncodeSet) (b : Nat) : Bool :=
  b < 0x20 || 0x7E < b || s.extra.contains (Char.ofNat b)

def controlSet : EncodeSet := ⟨[]⟩

def fragmentSet : EncodeSet := ⟨[' ', '"', '<', '>', '`']⟩

def pathSet : EncodeSet := ⟨fragmentSet.extra ++ ['#', '?', '\x7b', '\x7d']⟩

def userinfoSet : EncodeSet :=
  ⟨pathSet.extra ++ ['/', ':', ';', '=', '@', '[', '\\', ']', '^', '|']⟩

def querySet : EncodeSet := ⟨[' ', '"', '#', '<', '>']⟩

/-- The query set of special schemes, which also escapes the apostrophe. -/
def specialQuerySet : EncodeSet := ⟨querySet.extra ++ ['\'']⟩

def hexUpper (d : Nat) : Char := if d < 10 then Char.ofNat (48 + d) else Char.ofNat (55 + d)

def percentByte (b : Nat) : List Char := ['%', hexUpper (b / 16), hexUpper (b % 16)]

def encodeChar (s : EncodeSet) (c : Char) : List Char :=
  (Text.utf8Bytes c).flatMap fun b => if s.escapes b then percentByte b else [Char.ofNat b]

def encode (s : EncodeSet) (cs : List Char) : List Char := cs.flatMap (encodeChar s)

def hexValue? (c : Char) : Option Nat :=
  if '0' ≤ c && c ≤ '9' then some (c.toNat - 48)
  else if 'a' ≤ c && c ≤ 'f' then some (c.toNat - 87)
  else if 'A' ≤ c && c ≤ 'F' then some (c.toNat - 55)
  else none

def decodeHead : List Nat → Nat × Nat
  | [] => (0, 1)
  | b :: rest =>
    match rest with
    | h :: l :: _ =>
      match b == 37, hexValue? (Char.ofNat h), hexValue? (Char.ofNat l) with
      | true, some x, some y => (16 * x + y, 3)
      | _, _, _ => (b, 1)
    | _ => (b, 1)

/-- Bytes with every `%XX` of two hex digits replaced by the byte it names. -/
def decodeBytes (bs : List Nat) : List Nat :=
  match bs with
  | [] => []
  | b :: rest =>
    (decodeHead (b :: rest)).1 :: decodeBytes ((b :: rest).drop (max (decodeHead (b :: rest)).2 1))
termination_by bs.length
decreasing_by simp only [List.length_drop, List.length_cons]; omega

def decodeText (s : String) : String :=
  String.ofList (Text.utf8DecodeLossy (decodeBytes (Text.utf8Encode s)))

end Folio.Url
