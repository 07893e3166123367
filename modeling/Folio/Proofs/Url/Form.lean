import Folio.Url.Basic
import Mathlib

namespace Folio.Text

theorem toNat_isValidChar (c : Char) :
    c.toNat < 0xD800 ∨ (0xDFFF < c.toNat ∧ c.toNat < 0x110000) := c.valid

theorem toNat_ofNat_ascii {b : Nat} (h : b < 0x80) : (Char.ofNat b).toNat = b := by
  rw [Char.toNat_ofNat, if_pos (Or.inl (by omega))]

theorem utf8Bytes_ascii {c : Char} (h : c.toNat < 0x80) : utf8Bytes c = [c.toNat] := by
  simp [utf8Bytes, h]

theorem utf8Bytes_ofNat {b : Nat} (h : b < 0x80) : utf8Bytes (Char.ofNat b) = [b] := by
  rw [utf8Bytes_ascii (by rw [toNat_ofNat_ascii h]; exact h), toNat_ofNat_ascii h]

theorem utf8Bytes_ne_nil (c : Char) : utf8Bytes c ≠ [] := by
  unfold utf8Bytes; dsimp only; split_ifs <;> simp

theorem utf8Bytes_lt (c : Char) : ∀ b ∈ utf8Bytes c, b < 256 := by
  have hv := toNat_isValidChar c
  unfold utf8Bytes; dsimp only
  generalize c.toNat = n at hv ⊢
  split_ifs <;> simp <;> omega

theorem leadInfo_ascii {n : Nat} (h : n < 0x80) : leadInfo n = none := by
  rw [leadInfo, if_neg (by simp only [Bool.and_eq_true, decide_eq_true_eq]; omega), if_neg (by omega),
    if_neg (by omega), if_neg (by simp only [Bool.and_eq_true, decide_eq_true_eq]; omega),
    if_neg (by omega), if_neg (by omega), if_neg (by simp only [Bool.and_eq_true, decide_eq_true_eq]; omega)]

theorem leadInfo_two {b : Nat} (h1 : 0xC2 ≤ b) (h2 : b ≤ 0xDF) :
    leadInfo b = some (0x80, 0xBF, 1) := by
  rw [leadInfo, if_pos (by simp only [Bool.and_eq_true, decide_eq_true_eq]; omega)]

theorem leadInfo_three {b : Nat} (h1 : 0xE1 ≤ b) (h2 : b ≤ 0xEF) (h3 : b ≠ 0xED) :
    leadInfo b = some (0x80, 0xBF, 2) := by
  rw [leadInfo, if_neg (by simp only [Bool.and_eq_true, decide_eq_true_eq]; omega), if_neg (by omega),
    if_neg h3, if_pos (by simp only [Bool.and_eq_true, decide_eq_true_eq]; omega)]

theorem leadInfo_four {b : Nat} (h1 : 0xF1 ≤ b) (h2 : b ≤ 0xF3) :
    leadInfo b = some (0x80, 0xBF, 3) := by
  rw [leadInfo, if_neg (by simp only [Bool.and_eq_true, decide_eq_true_eq]; omega), if_neg (by omega),
    if_neg (by omega), if_neg (by simp only [Bool.and_eq_true, decide_eq_true_eq]; omega),
    if_neg (by omega), if_neg (by omega),
    if_pos (by simp only [Bool.and_eq_true, decide_eq_true_eq]; omega)]

theorem utf8Head_lead2 {b b1 lo hi : Nat} (rest : List Nat) (hb : leadInfo b = some (lo, hi, 1))
    (h1 : lo ≤ b1 ∧ b1 ≤ hi) :
    utf8Head (b :: b1 :: rest) = (Char.ofNat ((b % 32) * 64 + b1 % 64), 2) := by
  have hr : (lo ≤ b1 && b1 ≤ hi) = true := by simpa using h1
  rcases rest with _ | ⟨x, _ | ⟨y, rest⟩⟩ <;> simp only [utf8Head, hb, hr] <;> rfl

theorem utf8Head_lead3 {b b1 b2 lo hi : Nat} (rest : List Nat)
    (hb : leadInfo b = some (lo, hi, 2)) (h1 : lo ≤ b1 ∧ b1 ≤ hi) (h2 : isContinuation b2) :
    utf8Head (b :: b1 :: b2 :: rest) =
      (Char.ofNat ((b % 16) * 4096 + (b1 % 64) * 64 + b2 % 64), 3) := by
  have hr : (lo ≤ b1 && b1 ≤ hi) = true := by simpa using h1
  rcases rest with _ | ⟨x, rest⟩ <;> simp [utf8Head, hb, hr, h2]

theorem utf8Head_lead4 {b b1 b2 b3 lo hi : Nat} (rest : List Nat)
    (hb : leadInfo b = some (lo, hi, 3)) (h1 : lo ≤ b1 ∧ b1 ≤ hi) (h2 : isContinuation b2)
    (h3 : isContinuation b3) :
    utf8Head (b :: b1 :: b2 :: b3 :: rest) =
      (Char.ofNat ((b % 8) * 262144 + (b1 % 64) * 4096 + (b2 % 64) * 64 + b3 % 64), 4) := by
  have hr : (lo ≤ b1 && b1 ≤ hi) = true := by simpa using h1
  simp [utf8Head, hb, hr, h2, h3]

theorem utf8Head_utf8Bytes (c : Char) (rest : List Nat) :
    utf8Head (utf8Bytes c ++ rest) = (c, (utf8Bytes c).length) := by
  have hv := toNat_isValidChar c
  have hc := Char.ofNat_toNat c
  unfold utf8Bytes
  dsimp only
  generalize c.toNat = n at hv hc ⊢
  split_ifs with h1 h2 h3
  · simp [utf8Head, leadInfo_ascii h1, h1, hc]
  · rw [List.cons_append, List.cons_append,
      utf8Head_lead2 _ (leadInfo_two (by omega) (by omega)) (by omega)]
    have hval : (0xC0 + n / 64) % 32 * 64 + (0x80 + n % 64) % 64 = n := by omega
    rw [hval, hc]; rfl
  · -- the lead byte decides the range of the second byte: E0 and ED narrow it
    obtain ⟨lo, hi, hl, hr⟩ : ∃ lo hi, leadInfo (0xE0 + n / 4096) = some (lo, hi, 2) ∧
        lo ≤ 0x80 + n / 64 % 64 ∧ 0x80 + n / 64 % 64 ≤ hi := by
      by_cases e0 : 0xE0 + n / 4096 = 0xE0
      · exact ⟨0xA0, 0xBF, by rw [e0]; rfl, by omega⟩
      by_cases ed : 0xE0 + n / 4096 = 0xED
      · exact ⟨0x80, 0x9F, by rw [ed]; rfl, by omega⟩
      · exact ⟨0x80, 0xBF, leadInfo_three (by omega) (by omega) ed, by omega⟩
    rw [List.cons_append, List.cons_append, List.cons_append,
      utf8Head_lead3 _ hl hr (by simp [isContinuation]; omega)]
    have hval : (0xE0 + n / 4096) % 16 * 4096 + (0x80 + n / 64 % 64) % 64 * 64 +
        (0x80 + n % 64) % 64 = n := by omega
    rw [hval, hc]; rfl
  · obtain ⟨lo, hi, hl, hr⟩ : ∃ lo hi, leadInfo (0xF0 + n / 262144) = some (lo, hi, 3) ∧
        lo ≤ 0x80 + n / 4096 % 64 ∧ 0x80 + n / 4096 % 64 ≤ hi := by
      by_cases f0 : 0xF0 + n / 262144 = 0xF0
      · exact ⟨0x90, 0xBF, by rw [f0]; rfl, by omega⟩
      by_cases f4 : 0xF0 + n / 262144 = 0xF4
      · exact ⟨0x80, 0x8F, by rw [f4]; rfl, by omega⟩
      · exact ⟨0x80, 0xBF, leadInfo_four (by omega) (by omega), by omega⟩
    rw [List.cons_append, List.cons_append, List.cons_append, List.cons_append,
      utf8Head_lead4 _ hl hr (by simp [isContinuation]; omega) (by simp [isContinuation]; omega)]
    have hval : (0xF0 + n / 262144) % 8 * 262144 + (0x80 + n / 4096 % 64) % 64 * 4096 +
        (0x80 + n / 64 % 64) % 64 * 64 + (0x80 + n % 64) % 64 = n := by omega
    rw [hval, hc]; rfl

theorem utf8DecodeLossy_utf8Bytes (c : Char) (rest : List Nat) :
    utf8DecodeLossy (utf8Bytes c ++ rest) = c :: utf8DecodeLossy rest := by
  obtain ⟨b, bs, hb⟩ := List.exists_cons_of_ne_nil (utf8Bytes_ne_nil c)
  have hh := utf8Head_utf8Bytes c rest
  rw [hb] at hh ⊢
  rw [List.cons_append, utf8DecodeLossy, ← List.cons_append, hh, ← hb]
  have hlen : max (utf8Bytes c).length 1 = (utf8Bytes c).length := by
    have := List.length_pos_of_ne_nil (utf8Bytes_ne_nil c); omega
  simp [hlen]

/-- Decoding the UTF-8 of a text gives the text back, with nothing replaced. -/
theorem utf8DecodeLossy_utf8Encode (s : String) : utf8DecodeLossy (utf8Encode s) = s.toList := by
  unfold utf8Encode
  induction s.toList with
  | nil => simp [utf8DecodeLossy]
  | cons c cs ih => rw [List.flatMap_cons, utf8DecodeLossy_utf8Bytes, ih]

theorem utf8Encode_lt (s : String) : ∀ b ∈ utf8Encode s, b < 256 := by
  intro b hb
  obtain ⟨c, -, hc⟩ := List.mem_flatMap.mp hb
  exact utf8Bytes_lt c b hc

theorem splitOnChar_append_sep (sep : Char) (a b : List Char) :
    splitOnChar sep (a ++ sep :: b) = splitOnChar sep a ++ splitOnChar sep b := by
  induction a with
  | nil => simp [splitOnChar]
  | cons c a ih =>
    by_cases hc : c = sep
    · simp [splitOnChar, hc, ih]
    · obtain ⟨p, ps, hp⟩ := List.exists_cons_of_ne_nil (splitOnChar_ne_nil sep a)
      simp [splitOnChar, hc, ih, hp]

theorem splitOnChar_of_not_mem {sep : Char} {a : List Char} (h : sep ∉ a) :
    splitOnChar sep a = [a] := by
  induction a with
  | nil => rfl
  | cons c a ih =>
    have hc : c ≠ sep := fun e => h (e ▸ List.mem_cons_self)
    simp [splitOnChar, hc, ih fun m => h (List.mem_cons_of_mem c m)]

end Folio.Text

namespace Folio.Url

theorem hexValue?_hexUpper : ∀ d < 16, hexValue? (hexUpper d) = some d := by decide

theorem hexUpper_ascii : ∀ d < 16, (hexUpper d).toNat < 0x80 ∧ hexUpper d ≠ '+' := by decide

theorem isKept_hexUpper : ∀ d < 16, Form.isKept (hexUpper d).toNat := by decide

theorem decodeBytes_nil : decodeBytes [] = [] := by rw [decodeBytes]

theorem decodeBytes_cons {b : Nat} (h : b ≠ 37) (rest : List Nat) :
    decodeBytes (b :: rest) = b :: decodeBytes rest := by
  have hd : decodeHead (b :: rest) = (b, 1) := by
    rcases rest with _ | ⟨x, _ | ⟨y, rest⟩⟩ <;> simp [decodeHead, h]
  rw [decodeBytes, hd]
  simp

theorem decodeBytes_percent {b : Nat} (h : b < 256) (rest : List Nat) :
    decodeBytes (37 :: (hexUpper (b / 16)).toNat :: (hexUpper (b % 16)).toNat :: rest) =
      b :: decodeBytes rest := by
  have hd : decodeHead (37 :: (hexUpper (b / 16)).toNat :: (hexUpper (b % 16)).toNat :: rest) =
      (b, 3) := by
    simp only [decodeHead, Char.ofNat_toNat, hexValue?_hexUpper (b / 16) (by omega),
      hexValue?_hexUpper (b % 16) (by omega)]
    simp only [beq_self_eq_true, Prod.mk.injEq, and_true]
    omega
  rw [decodeBytes, hd]
  simp

namespace Form

def byteChars (b : Nat) : List Char :=
  if isKept b then [Char.ofNat b] else if b = 32 then ['+'] else percentByte b

def byteCode (b : Nat) : List Nat :=
  if isKept b then [b] else if b = 32 then [32]
  else [37, (hexUpper (b / 16)).toNat, (hexUpper (b % 16)).toNat]

theorem serialize_toList (s : String) :
    (serialize s).toList = (Text.utf8Encode s).flatMap byteChars := by
  simp only [serialize, String.toList_ofList]; rfl

theorem isKept_lt {b : Nat} (h : isKept b) : b < 0x80 ∧ b ≠ 43 ∧ b ≠ 37 ∧ b ≠ 32 := by
  simp [isKept] at h; omega

theorem byteChars_read {b : Nat} (hb : b < 256) :
    ((byteChars b).map fun c => if c = '+' then ' ' else c).flatMap Text.utf8Bytes = byteCode b := by
  unfold byteChars byteCode
  by_cases hk : isKept b
  · obtain ⟨hlt, hp, -, -⟩ := isKept_lt hk
    have hne : Char.ofNat b ≠ '+' := by
      intro h
      have := congrArg Char.toNat h
      rw [Text.toNat_ofNat_ascii hlt] at this
      exact hp this
    simp [hk, hne, Text.utf8Bytes_ofNat hlt]
  · by_cases hs : b = 32
    · subst hs; simp [hk]; decide
    · obtain ⟨h1, n1⟩ := hexUpper_ascii (b / 16) (by omega)
      obtain ⟨h2, n2⟩ := hexUpper_ascii (b % 16) (by omega)
      have hpct : Text.utf8Bytes '%' = [37] := by decide
      simp [hk, hs, percentByte, n1, n2, Text.utf8Bytes_ascii h1, Text.utf8Bytes_ascii h2, hpct]

theorem decodeBytes_byteCode (L : List Nat) (hL : ∀ b ∈ L, b < 256) (rest : List Nat) :
    decodeBytes (L.flatMap byteCode ++ rest) = L ++ decodeBytes rest := by
  induction L with
  | nil => simp
  | cons b L ih =>
    have hb := hL b (by simp)
    rw [List.flatMap_cons, List.append_assoc, List.cons_append,
      ← ih fun x hx => hL x (by simp [hx])]
    unfold byteCode
    split_ifs with hk hs
    · exact decodeBytes_cons (isKept_lt hk).2.2.1 _
    · subst hs; exact decodeBytes_cons (by decide) _
    · exact decodeBytes_percent hb _

/-- A text written for a form reads back as itself. -/
theorem decodePart_serialize (s : String) : decodePart (serialize s).toList = s := by
  have hread : Text.utf8Encode (String.ofList ((serialize s).toList.map
      fun c => if c = '+' then ' ' else c)) = (Text.utf8Encode s).flatMap byteCode := by
    rw [Text.utf8Encode, String.toList_ofList, serialize_toList, List.map_flatMap,
      List.flatMap_assoc]
    exact List.flatMap_congr fun b hb => byteChars_read (Text.utf8Encode_lt s b hb)
  have hbytes := decodeBytes_byteCode _ (Text.utf8Encode_lt s) []
  rw [List.append_nil, decodeBytes_nil, List.append_nil] at hbytes
  simp only [decodePart, hread, hbytes, Text.utf8DecodeLossy_utf8Encode, String.ofList_toList]

theorem mem_serialize {c : Char} {s : String} (h : c ∈ (serialize s).toList) :
    isKept c.toNat ∨ c = '+' ∨ c = '%' := by
  rw [serialize_toList] at h
  obtain ⟨b, hb, hc⟩ := List.mem_flatMap.mp h
  have hb256 := Text.utf8Encode_lt s b hb
  unfold byteChars at hc
  split_ifs at hc with hk hs
  · rw [List.mem_singleton.mp hc, Text.toNat_ofNat_ascii (isKept_lt hk).1]; exact .inl hk
  · exact .inr (.inl (List.mem_singleton.mp hc))
  · simp only [percentByte, List.mem_cons, List.not_mem_nil, or_false] at hc
    rcases hc with rfl | rfl | rfl
    · exact .inr (.inr rfl)
    · exact .inl (isKept_hexUpper _ (by omega))
    · exact .inl (isKept_hexUpper _ (by omega))

theorem not_mem_serialize {c : Char} (hk : ¬isKept c.toNat) (hp : c ≠ '+') (hq : c ≠ '%')
    (s : String) : c ∉ (serialize s).toList := fun h => by
  rcases mem_serialize h with h | h | h
  · exact hk h
  · exact hp h
  · exact hq h

theorem parse_empty : parse "" = [] := rfl

theorem parse_pair (k v : String) : parse (pair k v) = [(k, v)] := by
  have hamp : '&' ∉ (pair k v).toList := by
    simp only [pair, String.toList_append, List.mem_append]
    rintro ((h | h) | h)
    · exact not_mem_serialize (by decide) (by decide) (by decide) k h
    · simp at h
    · exact not_mem_serialize (by decide) (by decide) (by decide) v h
  have heq : ∀ c ∈ (serialize k).toList, (!decide (c = '=')) = true := fun c hc => by
    have := not_mem_serialize (c := '=') (by decide) (by decide) (by decide) k
    simp only [Bool.not_eq_eq_eq_not, Bool.not_true, decide_eq_false_iff_not]
    rintro rfl; exact this hc
  unfold parse
  rw [Text.splitOnChar_of_not_mem hamp]
  simp [pair, List.takeWhile_append_of_pos heq, List.dropWhile_append_of_pos heq,
    decodePart_serialize]

theorem parse_append_amp (a b : String) : parse (a ++ "&" ++ b) = parse a ++ parse b := by
  unfold parse
  rw [String.toList_append, String.toList_append]
  simp [Text.splitOnChar_append_sep]

/-- Appending pairs to the query of a URL appends exactly them to the pairs it reads as. -/
theorem parse_appendPairs (u : Url) (ps : List (String × String)) :
    parse ((appendPairs u ps).query.getD "") = parse (u.query.getD "") ++ ps := by
  simp only [appendPairs, Option.getD_some]
  generalize u.query.getD "" = q
  induction ps generalizing q with
  | nil => simp
  | cons kv ps ih =>
    rw [List.foldl_cons, ih]
    obtain ⟨k, v⟩ := kv
    by_cases hq : q.isEmpty
    · have : q = "" := by simpa using hq
      subst this; simp [parse_empty, parse_pair]
    · simp [hq, parse_append_amp, parse_pair]

end Form

end Folio.Url
