import Folio.Proofs.Compose
import Mathlib

namespace Folio

namespace Text

abbrev dunder : List Char := ['_', '_']

/-- How a text splits at double underscores, from the left and without overlap. A piece other
than the last is followed by the first `__` of what remains, so neither it nor its junction
with that `__` holds one. -/
inductive SplitsAt : List Char → List (List Char) → Prop
  | last {s : List Char} : ¬dunder <:+: s → SplitsAt s [s]
  | cut {s rest : List Char} {pieces : List (List Char)} : ¬dunder <:+: s ++ ['_'] →
      SplitsAt rest pieces → SplitsAt (s ++ '_' :: '_' :: rest) (s :: pieces)

theorem not_dunder_infix_cons {c : Char} {l : List Char} (hl : ¬dunder <:+: l)
    (hc : ¬(c = '_' ∧ l.head? = some '_')) : ¬dunder <:+: c :: l := by
  rw [List.infix_cons_iff]
  rintro (hp | hi)
  · cases l with
    | nil => simp at hp
    | cons d l =>
      obtain ⟨rfl, rfl⟩ : '_' = c ∧ '_' = d := by simpa using hp
      exact hc ⟨rfl, rfl⟩
  · exact hl hi

theorem splitOnDoubleUnderscore_cons {c : Char} {cs : List Char}
    (hc : ¬(c = '_' ∧ cs.head? = some '_')) :
    splitOnDoubleUnderscore (c :: cs) = (splitOnDoubleUnderscore cs).modifyHead (c :: ·) := by
  rw [splitOnDoubleUnderscore.eq_3 c cs fun rest h₁ h₂ => hc ⟨h₁, by simp [h₂]⟩]
  cases h : splitOnDoubleUnderscore cs with
  | nil => exact absurd h (splitOnDoubleUnderscore_ne_nil cs)
  | cons p ps => rfl

theorem splitOnDoubleUnderscore_of_free {s : List Char} (h : ¬dunder <:+: s) :
    splitOnDoubleUnderscore s = [s] := by
  induction s with
  | nil => rfl
  | cons c s ih =>
    have hs : ¬dunder <:+: s := fun hs => h (hs.trans (List.suffix_cons c s).isInfix)
    -- a leading `_` is not followed by another
    have hc : ¬(c = '_' ∧ s.head? = some '_') := by
      rintro ⟨rfl, hd⟩
      obtain ⟨t, rfl⟩ : ∃ t, s = '_' :: t := by
        cases s with
        | nil => simp at hd
        | cons d t => exact ⟨t, by simpa using hd⟩
      exact h (List.prefix_append dunder t).isInfix
    rw [splitOnDoubleUnderscore_cons hc, ih hs]
    rfl

theorem splitOnDoubleUnderscore_append {s : List Char} (h : ¬dunder <:+: s ++ ['_'])
    (rest : List Char) :
    splitOnDoubleUnderscore (s ++ '_' :: '_' :: rest) = s :: splitOnDoubleUnderscore rest := by
  induction s with
  | nil => rfl
  | cons c s ih =>
    have hs : ¬dunder <:+: s ++ ['_'] :=
      fun hs => h (hs.trans (List.suffix_cons c (s ++ ['_'])).isInfix)
    -- an underscore `c` would start a `__` with the first character of `s ++ ['_']`
    have hc : ¬(c = '_' ∧ (s ++ '_' :: '_' :: rest).head? = some '_') := by
      rintro ⟨rfl, hd⟩
      apply h
      cases s with
      | nil => exact List.infix_refl _
      | cons d t =>
        obtain rfl : d = '_' := by simpa using hd
        exact (List.prefix_append dunder (t ++ ['_'])).isInfix
    rw [List.cons_append, splitOnDoubleUnderscore_cons hc, ih hs]
    rfl

theorem SplitsAt.split_eq {cs : List Char} {pieces : List (List Char)} (h : SplitsAt cs pieces) :
    splitOnDoubleUnderscore cs = pieces := by
  induction h with
  | last hs => exact splitOnDoubleUnderscore_of_free hs
  | cut hs _ ih => rw [splitOnDoubleUnderscore_append hs, ih]

theorem splitsAt_split (cs : List Char) : SplitsAt cs (splitOnDoubleUnderscore cs) := by
  induction cs using splitOnDoubleUnderscore.induct with
  | case1 => exact .last (by simp)
  | case2 rest ih => exact SplitsAt.cut (s := []) (by decide) ih
  | case3 c rest _ hnil _ => exact absurd hnil (splitOnDoubleUnderscore_ne_nil rest)
  | case4 c rest hc p ps hsplit ih =>
    have hc' : ¬(c = '_' ∧ rest.head? = some '_') := by
      rintro ⟨h₁, h₂⟩
      cases rest with
      | nil => simp at h₂
      | cons d t => exact hc t h₁ (by simpa using h₂)
    rw [splitOnDoubleUnderscore_cons hc', hsplit]
    rw [hsplit] at ih
    -- the first piece of the rest takes `c` in front
    cases ih with
    | last hp => exact .last (not_dunder_infix_cons hp hc')
    | @cut _ rest' _ hs hrest =>
      have hhead : (p ++ ['_']).head? = (p ++ '_' :: '_' :: rest').head? := by cases p <;> rfl
      exact SplitsAt.cut (s := c :: p) (not_dunder_infix_cons hs (hhead ▸ hc')) hrest

theorem splitsAt_iff {cs : List Char} {pieces : List (List Char)} :
    SplitsAt cs pieces ↔ splitOnDoubleUnderscore cs = pieces :=
  ⟨SplitsAt.split_eq, fun h => h ▸ splitsAt_split cs⟩

theorem SplitsAt.free {cs : List Char} {pieces : List (List Char)} (h : SplitsAt cs pieces) :
    ∀ p ∈ pieces, ¬dunder <:+: p := by
  induction h with
  | last hs => simpa using hs
  | @cut s rest pieces hs _ ih =>
    intro p hp
    rcases List.mem_cons.mp hp with rfl | hp
    · exact fun hi => hs (hi.trans (List.prefix_append p ['_']).isInfix)
    · exact ih p hp

theorem SplitsAt.eq_intercalate {cs : List Char} {pieces : List (List Char)}
    (h : SplitsAt cs pieces) : cs = dunder.intercalate pieces := by
  induction h with
  | last _ => simp
  | @cut s rest pieces _ hrest ih =>
    -- a split is never empty, so the cut piece is followed by another
    cases pieces with
    | nil => cases hrest
    | cons p ps => rw [ih, List.intercalate_cons_cons]; simp

end Text

namespace Filter

open Folio.Text

theorem segments_eq_iff {key : String} {pieces : List String} :
    segments key = pieces ↔ SplitsAt key.toList (pieces.map String.toList) := by
  rw [splitsAt_iff]
  unfold segments
  constructor
  · rintro rfl
    simp [Function.comp_def]
  · intro h
    rw [h]
    simp [Function.comp_def]

def Key.pieces (k : Key) : List String := k.scope :: k.field :: k.token.toList

/-- A key reads as the key of its segments, when the field and any operator segment are
nonempty. -/
theorem Key.parse_eq_ok_iff {key : String} {k : Key} :
    Key.parse key = .ok k ↔ segments key = k.pieces ∧ k.field ≠ "" ∧ k.token ≠ some "" := by
  obtain ⟨scope, field, token⟩ := k
  unfold Key.parse Key.pieces
  split
  next a b hs =>
    rw [hs]
    constructor
    · intro h
      split_ifs at h with hb
      obtain ⟨rfl, rfl, rfl⟩ := Key.mk.inj (Except.ok.inj h)
      simpa [String.isEmpty_iff] using hb
    · rintro ⟨heq, hf, -⟩
      cases token with
      | some t => simp at heq
      | none =>
        obtain ⟨rfl, rfl⟩ : a = scope ∧ b = field := by simpa using heq
        rw [if_neg (by simpa [String.isEmpty_iff] using hf)]
  next a b c hs =>
    rw [hs]
    constructor
    · intro h
      split_ifs at h with hbc
      obtain ⟨rfl, rfl, rfl⟩ := Key.mk.inj (Except.ok.inj h)
      simpa [String.isEmpty_iff] using hbc
    · rintro ⟨heq, hf, ht⟩
      cases token with
      | none => simp at heq
      | some t =>
        obtain ⟨rfl, rfl, rfl⟩ : a = scope ∧ b = field ∧ c = t := by simpa using heq
        rw [if_neg (by simpa [String.isEmpty_iff] using And.intro hf ht)]
  next h₂ h₃ =>
    -- a key of other than two or three segments reads as none
    refine ⟨fun h => (by cases h), fun ⟨heq, _⟩ => ?_⟩
    cases token with
    | none => exact (h₂ scope field heq).elim
    | some t => exact (h₃ scope field t heq).elim

theorem Key.parse_error {key : String} {e : Error} (h : Key.parse key = .error e) :
    e = .malformedKey key := by
  unfold Key.parse at h
  split at h <;> (try split_ifs at h) <;> exact (Except.error.inj h).symm

theorem toList_dunder : "__".toList = dunder := by decide

/-- A key reads exactly when its split at double underscores, from the left and without
overlap, has two or three pieces, the second nonempty and the third, if any, nonempty. The
segments of a key that reads rebuild it, and none of them holds `__`. -/
theorem Key.parse_accepts_grammar (key : String) :
    ((∃ k, Key.parse key = .ok k) ↔ ∃ pieces : List String,
        SplitsAt key.toList (pieces.map String.toList) ∧
          (pieces.length = 2 ∨ pieces.length = 3) ∧ ∀ p ∈ pieces.tail, p ≠ "") ∧
      ∀ k, Key.parse key = .ok k →
        key = k.scope ++ "__" ++ k.field ++ (k.token.elim "" fun t => "__" ++ t) ∧
          ∀ p ∈ k.scope :: k.field :: k.token.toList, ¬dunder <:+: p.toList := by
  refine ⟨⟨?_, ?_⟩, fun k hk => ?_⟩
  · rintro ⟨⟨scope, field, token⟩, hk⟩
    obtain ⟨hs, hf, ht⟩ := Key.parse_eq_ok_iff.mp hk
    refine ⟨_, segments_eq_iff.mp hs, ?_, ?_⟩ <;> cases token <;> simp_all [Key.pieces]
  · rintro ⟨pieces, hsplit, hlen, hne⟩
    have hs := segments_eq_iff.mpr hsplit
    rcases hlen with hlen | hlen
    · match pieces, hlen, hne, hs with
      | [a, b], _, hne, hs =>
        exact ⟨⟨a, b, none⟩, Key.parse_eq_ok_iff.mpr ⟨hs, hne b (by simp), by simp⟩⟩
    · match pieces, hlen, hne, hs with
      | [a, b, c], _, hne, hs =>
        exact ⟨⟨a, b, some c⟩, Key.parse_eq_ok_iff.mpr
          ⟨hs, hne b (by simp), by simpa using hne c (by simp)⟩⟩
  · obtain ⟨hs, -, -⟩ := Key.parse_eq_ok_iff.mp hk
    have hsplit := segments_eq_iff.mp hs
    refine ⟨?_, fun p hp => hsplit.free p.toList (List.mem_map_of_mem hp)⟩
    obtain ⟨scope, field, token⟩ := k
    rw [String.ext_iff, hsplit.eq_intercalate]
    cases token <;> simp [Key.pieces, toList_dunder, List.intercalate_cons_cons]

example : Key.parse "a___b" = .ok ⟨"a", "_b", none⟩ := by decide

end Filter

end Folio
