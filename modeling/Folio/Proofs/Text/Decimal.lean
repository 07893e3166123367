import Folio.Text.Decimal
import Folio.Text.Basic
import Mathlib

namespace Folio.Text

theorem dropWhile_of_head {p : Char → Bool} {cs : List Char} (h : ∀ c ∈ cs.head?, p c = false) :
    cs.dropWhile p = cs := by
  cases cs with
  | nil => rfl
  | cons c cs => exact List.dropWhile_cons_of_neg (by simpa using h c rfl)

theorem trimList_of_not_blank {cs : List Char} (h : ∀ c ∈ cs, isBlank c = false) :
    trimList cs = cs := by
  have hhead : ∀ l : List Char, (∀ c ∈ l, isBlank c = false) → l.dropWhile isBlank = l :=
    fun l hl => dropWhile_of_head fun c hc => hl c (List.mem_of_mem_head? hc)
  unfold trimList
  rw [hhead cs h, hhead cs.reverse (fun c hc => h c (List.mem_reverse.mp hc)), List.reverse_reverse]

theorem trimList_eq_rdropWhile (cs : List Char) :
    trimList cs = (cs.dropWhile isBlank).rdropWhile isBlank := rfl

theorem trimList_trimList (cs : List Char) : trimList (trimList cs) = trimList cs := by
  rw [trimList_eq_rdropWhile, trimList_eq_rdropWhile]
  have hpre := List.rdropWhile_prefix (p := isBlank) (l := cs.dropWhile isBlank)
  have hhead := List.head?_dropWhile_not isBlank cs
  rw [dropWhile_of_head, List.rdropWhile_idempotent]
  intro c hc
  obtain ⟨t, ht⟩ := hpre
  rw [← ht, List.head?_append_of_ne_nil _ (List.ne_nil_of_mem (List.mem_of_mem_head? hc)),
    hc] at hhead
  exact hhead

theorem trim_trim (s : String) : trim (trim s) = trim s := by
  simp only [trim, String.toList_ofList, trimList_trimList]

theorem digit_not_blank {c : Char} (h : c.isDigit) : isBlank c = false := by
  have h' : 48 ≤ c.toNat ∧ c.toNat ≤ 57 := by
    simp only [Char.isDigit, Bool.and_eq_true, decide_eq_true_eq] at h
    exact ⟨h.1, h.2⟩
  simp [isBlank]
  omega

namespace Decimal

theorem digits?_toDigits (n : Nat) : digits? (Nat.toDigits 10 n) = some n := by
  have hall : (Nat.toDigits 10 n).all Char.isDigit := List.all_eq_true.mpr fun c hc =>
    Nat.isDigit_of_mem_toDigits (by omega) (by omega) hc
  obtain ⟨c, cs, hcs⟩ := List.exists_cons_of_ne_nil (Nat.toDigits_ne_nil (n := n) (b := 10))
  rw [hcs] at hall ⊢
  simp only [digits?, hall, if_true, Option.some.injEq]
  rw [← hcs]
  exact Nat.ofDigitChars_toDigits (by omega) (by omega)

theorem toDigits_head_isDigit (n : Nat) : ∀ c ∈ (Nat.toDigits 10 n).head?, c.isDigit :=
  fun c hc => Nat.isDigit_of_mem_toDigits (by omega) (by omega) (List.mem_of_mem_head? hc)

theorem natural?_toString (n : Nat) : natural? (toString n) = some n := by
  unfold natural?
  rw [Nat.toString_eq_repr, Nat.toList_repr]
  split
  · next cs h =>
    exact absurd (toDigits_head_isDigit n '+' (by simp [h])) (by decide)
  · exact digits?_toDigits n

theorem u64?_toString {n : Nat} (h : n ≤ u64Max) : u64? (toString n) = some n := by
  rw [u64?, natural?_toString]
  simp [h]

theorem integer?_toString (x : Int) : integer? (toString x) = some x := by
  unfold integer?
  rw [Int.toString_eq_repr, Int.repr_eq_if]
  split_ifs with hx
  · rw [Nat.toList_repr]
    split
    · next cs h =>
      exact absurd (toDigits_head_isDigit x.toNat '+' (by simp [h])) (by decide)
    · next cs h =>
      exact absurd (toDigits_head_isDigit x.toNat '-' (by simp [h])) (by decide)
    · rw [digits?_toDigits]; simp [Int.toNat_of_nonneg hx]
  · simp only [String.toList_append, Nat.toList_repr]
    rw [show "-".toList = ['-'] from rfl, List.singleton_append]
    simp [digits?_toDigits]
    omega

theorem i64?_toString {x : Int} (h₁ : i64Min ≤ x) (h₂ : x ≤ i64Max) :
    i64? (toString x) = some x := by
  rw [i64?, integer?_toString]
  simp [h₁, h₂]

end Decimal

theorem trim_toString_nat (n : Nat) : trim (toString n) = toString n := by
  unfold trim
  rw [trimList_of_not_blank, String.ofList_toList]
  intro c hc
  rw [Nat.toString_eq_repr, Nat.toList_repr] at hc
  exact digit_not_blank (Nat.isDigit_of_mem_toDigits (by omega) (by omega) hc)

theorem trim_toString_int (x : Int) : trim (toString x) = toString x := by
  unfold trim
  rw [trimList_of_not_blank, String.ofList_toList]
  intro c hc
  rw [Int.toString_eq_repr, Int.repr_eq_if] at hc
  split_ifs at hc
  · rw [Nat.toList_repr] at hc
    exact digit_not_blank (Nat.isDigit_of_mem_toDigits (by omega) (by omega) hc)
  · simp only [String.toList_append, Nat.toList_repr, List.mem_append] at hc
    rcases hc with hc | hc
    · rw [show "-".toList = ['-'] from rfl, List.mem_singleton] at hc
      subst hc; decide
    · exact digit_not_blank (Nat.isDigit_of_mem_toDigits (by omega) (by omega) hc)

end Folio.Text
