import Folio.Text.Jaro
import Mathlib

namespace Folio.Text

/-- One step of `jaroFlags` over `b`: flag the character at position `ci.2` of the first text
and the first free equal character of `b` within `reach` of it. -/
def flagStep (b : List Char) (reach : Nat) (acc : List Bool × List Bool) (ci : Char × Nat) :
    List Bool × List Bool :=
  match (List.range b.length).find? fun j =>
      ci.2 - reach ≤ j && j < min b.length (ci.2 + reach + 1) && b[j]? == some ci.1 &&
        acc.2[j]? == some false with
  | some j => (acc.1 ++ [true], acc.2.set j true)
  | none => (acc.1 ++ [false], acc.2)

theorem jaroFlags_eq (a b : List Char) :
    jaroFlags a b = a.zipIdx.foldl (flagStep b (max a.length b.length / 2 - 1))
      ([], List.replicate b.length false) := rfl

/-- After the first `k` characters of a text matched against itself, the flags of both sides are
set exactly on the first `k` positions. -/
def selfFlags (n k : Nat) : List Bool × List Bool :=
  (List.replicate k true, List.replicate k true ++ List.replicate (n - k) false)

theorem getElem?_selfFlags {n k j : Nat} :
    (selfFlags n k).2[j]? = some false ↔ k ≤ j ∧ j < n := by
  simp only [selfFlags]
  by_cases hj : j < k
  · rw [List.getElem?_append_left (by simpa using hj)]
    simp [hj]
  · rw [List.getElem?_append_right (by simp; omega)]
    simp [List.getElem?_replicate]
    omega

theorem set_selfFlags {n k : Nat} (hk : k < n) :
    (selfFlags n k).2.set k true = (selfFlags n (k + 1)).2 := by
  obtain ⟨r, hr⟩ : ∃ r, n - k = r + 1 := ⟨n - k - 1, by omega⟩
  have hfalse : List.replicate (r + 1) false = false :: List.replicate r false := rfl
  simp only [selfFlags, hr, show n - (k + 1) = r by omega, hfalse]
  rw [List.set_append_right _ _ (by simp), List.length_replicate, Nat.sub_self, List.set_cons_zero,
    List.replicate_succ', List.append_assoc, List.singleton_append]

theorem flagStep_self {xs : List Char} (reach : Nat) {k : Nat} (hk : k < xs.length) :
    flagStep xs reach (selfFlags xs.length k) (xs[k], k) = selfFlags xs.length (k + 1) := by
  unfold flagStep
  split
  · next j hj =>
    rw [List.find?_range_eq_some] at hj
    obtain ⟨hpj, hjn, hfirst⟩ := hj
    simp only [Bool.and_eq_true, decide_eq_true_eq, beq_iff_eq,
      getElem?_selfFlags] at hpj
    -- the first free position is `k`: the earlier ones are flagged, and `k` matches itself
    have hjk : j = k := by
      by_contra hne
      have := hfirst k (by omega)
      simp [getElem?_selfFlags, hk] at this
    subst hjk
    rw [set_selfFlags hk]
    simp only [selfFlags, List.replicate_succ']
  · next hnone =>
    rw [List.find?_range_eq_none] at hnone
    have := hnone k hk
    simp [getElem?_selfFlags, hk] at this

theorem foldl_flagStep_self (xs : List Char) (reach : Nat) :
    ∀ k ≤ xs.length,
      (xs.zipIdx.take k).foldl (flagStep xs reach) (selfFlags xs.length 0) = selfFlags xs.length k
  | 0, _ => rfl
  | k + 1, hk => by
    rw [List.take_succ_eq_append_getElem (by simpa using hk), List.foldl_append,
      foldl_flagStep_self xs reach k (by omega), List.getElem_zipIdx, Nat.zero_add]
    exact flagStep_self reach hk

theorem jaroFlags_self (xs : List Char) :
    jaroFlags xs xs = (List.replicate xs.length true, List.replicate xs.length true) := by
  have h := foldl_flagStep_self xs (max xs.length xs.length / 2 - 1) xs.length le_rfl
  rw [List.take_of_length_le (by simp)] at h
  rw [jaroFlags_eq]
  simpa [selfFlags] using h

theorem flagged_replicate_true (xs : List Char) : flagged xs
    (List.replicate xs.length true) = xs := by
  induction xs with
  | nil => rfl
  | cons c xs ih =>
    simp only [flagged, List.length_cons, List.replicate_succ, List.zip_cons_cons,
      List.filterMap_cons, if_true] at ih ⊢
    rw [ih]

theorem filter_zip_self (xs : List Char) : ((xs.zip xs).filter fun (x, y) => x != y) = [] := by
  induction xs with
  | nil => rfl
  | cons c xs ih => simp [ih]

/-- A text is fully like itself: its Jaro similarity with itself is one. -/
theorem jaro_self (s : String) : (jaro s s).num = (jaro s s).den ∧ 0 < (jaro s s).den := by
  unfold jaro
  simp only [Bool.and_self, Bool.or_self, jaroFlags_self, flagged_replicate_true]
  split
  · exact ⟨rfl, Nat.one_pos⟩
  · next hne =>
    have hlen : 0 < s.toList.length := by
      cases h : s.toList with
      | nil => simp [h] at hne
      | cons c cs => simp
    simp only [filter_zip_self, List.length_nil, Nat.zero_div, Nat.sub_zero, Nat.pos_iff_ne_zero.mp hlen,
      if_false]
    exact ⟨by ring, by positivity⟩

example : jaro "" "" = ⟨1, 1⟩ := by decide

theorem similar_self (s : String) : similar s s = true := by
  obtain ⟨hnum, hden⟩ := jaro_self s
  simp only [similar, Fraction.lt, hnum, decide_eq_true_eq]
  omega

theorem jaro_den_pos (a b : String) : 0 < (jaro a b).den := by
  unfold jaro
  dsimp only
  split
  · exact Nat.one_pos
  · split
    · exact Nat.one_pos
    · -- both texts have characters, so the denominator `3 * la * lb * m` is positive
      rename_i hne
      simp only [Bool.or_eq_true, List.isEmpty_iff, not_or] at hne
      have ha := List.length_pos_iff.mpr hne.1
      have hb := List.length_pos_iff.mpr hne.2
      rcases jaroFlags a.toList b.toList with ⟨fa, fb⟩
      dsimp only
      split
      · exact Nat.one_pos
      · positivity

/-- Candidates in the order of their similarity to a word: `x` before `y` unless `y` is less
similar. Over positive denominators this is a total preorder. -/
def similarityLe (w x y : String) : Bool := !(jaro w y).lt (jaro w x)

theorem similarityLe_trans (w x y z : String) (h₁ : similarityLe w x y) (h₂ : similarityLe w y z) :
    similarityLe w x z := by
  simp only [similarityLe, Fraction.lt, Bool.not_eq_true', decide_eq_false_iff_not, not_lt]
    at h₁ h₂ ⊢
  have hy := jaro_den_pos w y
  -- cross-multiplied, the middle fraction's denominator cancels
  have h : (jaro w y).den * ((jaro w x).num * (jaro w z).den) ≤
      (jaro w y).den * ((jaro w z).num * (jaro w x).den) := by
    calc (jaro w y).den * ((jaro w x).num * (jaro w z).den)
        = ((jaro w x).num * (jaro w y).den) * (jaro w z).den := by ring
      _ ≤ ((jaro w y).num * (jaro w x).den) * (jaro w z).den := Nat.mul_le_mul_right _ h₁
      _ = ((jaro w y).num * (jaro w z).den) * (jaro w x).den := by ring
      _ ≤ ((jaro w z).num * (jaro w y).den) * (jaro w x).den := Nat.mul_le_mul_right _ h₂
      _ = (jaro w y).den * ((jaro w z).num * (jaro w x).den) := by ring
  exact Nat.le_of_mul_le_mul_left h hy

theorem similarityLe_total (w x y : String) :
    (similarityLe w x y || similarityLe w y x) = true := by
  simp only [similarityLe, Fraction.lt, Bool.or_eq_true, Bool.not_eq_true',
    decide_eq_false_iff_not, not_lt]
  omega

/-- The suggestions for a word are the candidates similar to it, from the least similar to the
most. -/
theorem similarTo_spec (w : String) (cs : List String) :
    (∀ c, c ∈ similarTo w cs ↔ c ∈ cs ∧ similar w c = true) ∧
      (similarTo w cs).Pairwise fun x y => similarityLe w x y := by
  refine ⟨fun c => by rw [similarTo, List.mem_mergeSort, List.mem_filter], ?_⟩
  exact List.pairwise_mergeSort (similarityLe_trans w) (similarityLe_total w) _

end Folio.Text
