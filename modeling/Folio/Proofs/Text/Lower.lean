import Folio.Text.Lower
import Folio.Text.Basic
import Mathlib

namespace Folio.Text

def IsAscii (s : String) : Prop := ∀ c ∈ s.toList, c.toNat < 128

instance : DecidablePred IsAscii := fun s => inferInstanceAs (Decidable (∀ c ∈ s.toList, c.toNat < 128))

theorem Char.toNat_toLower (c : Char) :
    c.toLower.toNat = if 65 ≤ c.toNat ∧ c.toNat ≤ 90 then c.toNat + 32 else c.toNat := by
  have hA : ('A' : Char).val.toNat = 65 := rfl
  have hZ : ('Z' : Char).val.toNat = 90 := rfl
  have ha : ('a'.val - 'A'.val : UInt32).toNat = 32 := rfl
  have hiff : (c.val ≥ 'A'.val ∧ c.val ≤ 'Z'.val) ↔ (65 ≤ c.toNat ∧ c.toNat ≤ 90) := by
    simp only [ge_iff_le, UInt32.le_iff_toNat_le, hA, hZ, Char.toNat]
  unfold Char.toLower
  by_cases h : 65 ≤ c.toNat ∧ c.toNat ≤ 90
  · rw [dif_pos (hiff.mpr h), if_pos h]
    show (c.val + ('a'.val - 'A'.val)).toNat = c.toNat + 32
    have hval : c.val.toNat = c.toNat := rfl
    rw [UInt32.toNat_add, ha]
    omega
  · rw [dif_neg (mt hiff.mp h), if_neg h]

theorem Char.isUpper_iff (c : Char) : c.isUpper = true ↔ 65 ≤ c.toNat ∧ c.toNat ≤ 90 := by
  simp [Char.isUpper, UInt32.le_iff_toNat_le]

theorem Char.toLower_eq_percent {c : Char} : c.toLower = '%' ↔ c = '%' := by
  constructor
  · intro h
    have hn := congrArg Char.toNat h
    rw [Char.toNat_toLower] at hn
    have h37 : ('%' : Char).toNat = 37 := rfl
    split_ifs at hn <;> [omega; exact Char.toNat_inj.mp hn]
  · rintro rfl
    rfl

theorem Char.toLower_ofNat {n : Nat} (h : ¬(65 ≤ n ∧ n ≤ 90)) :
    (Char.ofNat n).toLower = Char.ofNat n := by
  apply Char.toLower_eq_of_not_isUpper
  rw [Char.isUpper_iff, Char.toNat_ofNat]
  split_ifs <;> omega

theorem caseRuns_image_not_capital :
    ∀ r ∈ caseRuns, (0x5A : Int) < r.lo + r.shift ∨ (r.hi : Int) + r.shift < 0x41 := by
  decide +kernel

theorem caseRuns_eq_cons : caseRuns = ⟨0x41, 0x5A, 32, 1⟩ :: caseRuns.tail := rfl

theorem caseRuns_tail_lo : ∀ r ∈ caseRuns.tail, 0xC0 ≤ r.lo := by
  decide +kernel

theorem CaseRun.image?_eq_some {r : CaseRun} {n m : Nat} (h : r.image? n = some m) :
    r.lo ≤ n ∧ n ≤ r.hi ∧ m = (n + r.shift).toNat := by
  unfold CaseRun.image? at h
  split_ifs at h with hr
  cases h
  exact ⟨hr.1, hr.2.1, rfl⟩

theorem simpleLower_not_capital (n : Nat) : ¬(65 ≤ simpleLower n ∧ simpleLower n ≤ 90) := by
  unfold simpleLower
  cases hf : caseRuns.findSome? fun r => r.image? n with
  | some m =>
    -- the run that maps `n` lands outside the capitals
    dsimp only
    obtain ⟨r, hr, hm⟩ := List.exists_of_findSome?_eq_some hf
    obtain ⟨hlo, hhi, rfl⟩ := CaseRun.image?_eq_some hm
    rcases caseRuns_image_not_capital r hr with h | h <;> omega
  | none =>
    -- an unmapped point is no capital, since the first run maps every capital
    dsimp only
    have hfirst := List.findSome?_eq_none_iff.mp hf ⟨0x41, 0x5A, 32, 1⟩
      (by rw [caseRuns_eq_cons]; exact List.mem_cons_self ..)
    simp only [CaseRun.image?, ite_eq_right_iff, reduceCtorEq, imp_false] at hfirst
    omega

theorem simpleLower_of_lt {n : Nat} (h : n < 0xC0) :
    simpleLower n = if 65 ≤ n ∧ n ≤ 90 then n + 32 else n := by
  have hrest : (caseRuns.tail.findSome? fun r => r.image? n) = none := by
    refine List.findSome?_eq_none_iff.mpr fun r hr => ?_
    have := caseRuns_tail_lo r hr
    simp only [CaseRun.image?, ite_eq_right_iff, reduceCtorEq, imp_false]
    omega
  unfold simpleLower
  rw [caseRuns_eq_cons, List.findSome?_cons]
  by_cases hc : 65 ≤ n ∧ n ≤ 90
  · have him : CaseRun.image? ⟨0x41, 0x5A, 32, 1⟩ n = some (n + 32) := by
      simp only [CaseRun.image?, Nat.mod_one, and_true]
      rw [if_pos ⟨hc.1, hc.2⟩]
      congr 1
    simp only [him, if_pos hc]
  · have him : CaseRun.image? ⟨0x41, 0x5A, 32, 1⟩ n = none := by
      simp only [CaseRun.image?, Nat.mod_one, and_true]
      rw [if_neg hc]
    simp only [him, hrest, if_neg hc]

theorem lowerFrom_of_ascii {l : List Char} (h : ∀ c ∈ l, c.toNat < 128) :
    ∀ before, lowerFrom before l = l.map Char.toLower := by
  induction l with
  | nil => intro before; rfl
  | cons c l ih =>
    intro before
    have hc : c.toNat < 128 := h c (List.mem_cons_self ..)
    -- an ASCII character is no sigma and no dotted capital I, and the table folds it as ASCII
    have hchar : Char.ofNat (simpleLower c.toNat) = c.toLower := by
      rw [simpleLower_of_lt (by omega), ← Char.toNat_inj, Char.toNat_toLower]
      split_ifs with hcap
      · rw [Char.toNat_ofNat, if_pos (Or.inl (by omega))]
      · exact congrArg Char.toNat (Char.ofNat_toNat c)
    have hsig : c.toNat ≠ 0x3A3 := by omega
    have hdot : c.toNat ≠ 0x130 := by omega
    simp only [lowerFrom, lowerChar, if_neg hsig, if_neg hdot, hchar, List.map_cons,
      List.singleton_append, ih (fun d hd => h d (List.mem_cons_of_mem c hd))]

theorem lowercase_of_ascii {s : String} (h : IsAscii s) : lowercase s = asciiLower s := by
  unfold lowercase asciiLower
  rw [lowerFrom_of_ascii h]

theorem lowerFrom_toLower (l : List Char) :
    ∀ before, ∀ x ∈ lowerFrom before l, x.toLower = x := by
  induction l with
  | nil => intro before x hx; cases hx
  | cons c l ih =>
    intro before x hx
    simp only [lowerFrom, List.mem_append] at hx
    rcases hx with hx | hx
    · split_ifs at hx
      · -- a capital sigma becomes the final small sigma or the plain one
        rw [List.mem_singleton] at hx
        subst hx
        decide
      · rw [List.mem_singleton] at hx
        subst hx
        decide
      · unfold lowerChar at hx
        split_ifs at hx
        · simp only [List.mem_cons, List.not_mem_nil, or_false] at hx
          rcases hx with rfl | rfl <;> decide
        · rw [List.mem_singleton] at hx
          subst hx
          exact Char.toLower_ofNat (simpleLower_not_capital _)
    · exact ih _ x hx

theorem lowercase_toLower (s : String) : ∀ x ∈ (lowercase s).toList, x.toLower = x := by
  unfold lowercase
  rw [String.toList_ofList]
  exact lowerFrom_toLower _ []

theorem asciiLower_toLower (s : String) : ∀ x ∈ (asciiLower s).toList, x.toLower = x := by
  intro x hx
  simp only [asciiLower, String.toList_ofList, List.mem_map] at hx
  obtain ⟨c, -, rfl⟩ := hx
  exact Char.toLower_toLower_eq_toLower c

theorem isAscii_of_asciiLower {s : String} (h : IsAscii (asciiLower s)) : IsAscii s := by
  intro c hc
  have hl := h c.toLower (by simp only [asciiLower, String.toList_ofList]; exact List.mem_map_of_mem hc)
  rw [Char.toNat_toLower] at hl
  split_ifs at hl <;> omega

theorem caseRuns_image_above_underscore : ∀ r ∈ caseRuns, (95 : Int) < r.lo + r.shift := by
  decide +kernel

theorem simpleLower_eq_of_le {n : Nat} (h : simpleLower n ≤ 95) : simpleLower n = n := by
  unfold simpleLower at h ⊢
  cases hf : caseRuns.findSome? fun r => r.image? n with
  | some m =>
    rw [hf] at h
    obtain ⟨r, hr, hm⟩ := List.exists_of_findSome?_eq_some hf
    obtain ⟨hlo, -, rfl⟩ := CaseRun.image?_eq_some hm
    have := caseRuns_image_above_underscore r hr
    dsimp only at h
    omega
  | none => rfl

theorem mem_lowerFrom_low {w : Char} (h0 : 0 < w.toNat) (h95 : w.toNat ≤ 95) (l : List Char) :
    ∀ before, w ∈ lowerFrom before l → w ∈ l := by
  induction l with
  | nil => intro before h; cases h
  | cons c l ih =>
    intro before h
    simp only [lowerFrom, List.mem_append] at h
    rcases h with h | h
    · split_ifs at h
      · rw [List.mem_singleton] at h
        subst h
        exact absurd h95 (by decide)
      · rw [List.mem_singleton] at h
        subst h
        exact absurd h95 (by decide)
      · unfold lowerChar at h
        split_ifs at h
        · simp only [List.mem_cons, List.not_mem_nil, or_false] at h
          rcases h with rfl | rfl <;> exact absurd h95 (by decide)
        · -- a simple mapping onto a low point is the identity
          rw [List.mem_singleton] at h
          have hn := congrArg Char.toNat h
          rw [Char.toNat_ofNat] at hn
          split_ifs at hn
          · have hfix := simpleLower_eq_of_le (n := c.toNat) (by omega)
            have hc : c.toNat = w.toNat := by omega
            rw [Char.toNat_inj.mp hc]
            exact List.mem_cons_self
          · omega
    · exact List.mem_cons_of_mem c (ih _ h)

section Plain

variable {w : Char} (hi : isCaseIgnorable w = false) (hc : isCased w = false)
include hi hc

theorem casedAfterIgnorable_append_plain (l : List Char) :
    casedAfterIgnorable (l ++ [w]) = casedAfterIgnorable l := by
  induction l with
  | nil => simp [casedAfterIgnorable, hi, hc]
  | cons c l ih => simp only [List.cons_append, casedAfterIgnorable, ih]

theorem lowerFrom_append_plain_before (l : List Char) :
    ∀ before, lowerFrom (before ++ [w]) l = lowerFrom before l := by
  induction l with
  | nil => intro before; rfl
  | cons c l ih =>
    intro before
    have ih' := ih (c :: before)
    rw [List.cons_append] at ih'
    simp only [lowerFrom, casedAfterIgnorable_append_plain hi hc, ih']

theorem lowerFrom_append_plain (l : List Char) :
    ∀ before, lowerFrom before (l ++ [w]) = lowerFrom before l ++ lowerFrom (l.reverse ++ before) [w] := by
  induction l with
  | nil => intro before; simp [lowerFrom]
  | cons c l ih =>
    intro before
    rw [List.cons_append, lowerFrom, lowerFrom, ih, casedAfterIgnorable_append_plain hi hc,
      List.reverse_cons]
    simp only [List.append_assoc, List.singleton_append]

end Plain

theorem lowerFrom_percent_cons (before l : List Char) :
    lowerFrom before ('%' :: l) = '%' :: lowerFrom ('%' :: before) l := by
  have hsig : ('%' : Char).toNat ≠ 0x3A3 := by decide
  have hdot : ('%' : Char).toNat ≠ 0x130 := by decide
  simp only [lowerFrom, lowerChar, if_neg hsig, if_neg hdot]
  rw [simpleLower_of_lt (by decide)]
  rfl

theorem lowercase_percent_wrap (q : String) :
    (lowercase ("%" ++ q ++ "%")).toList = '%' :: (lowercase q).toList ++ ['%'] := by
  have hi : isCaseIgnorable '%' = false := by decide +kernel
  have hc : isCased '%' = false := by decide +kernel
  -- the leading `%` stands before every character of `q` and hides nothing from the sigma rule
  have hbefore := lowerFrom_append_plain_before hi hc q.toList []
  rw [List.nil_append] at hbefore
  have h1 : ("%" : String).toList = ['%'] := by simp
  unfold lowercase
  rw [String.toList_ofList, String.toList_ofList, String.toList_append, String.toList_append, h1,
    List.singleton_append, List.cons_append, lowerFrom_percent_cons, lowerFrom_append_plain hi hc,
    lowerFrom_percent_cons, hbefore]
  rfl

end Folio.Text
