import Folio.Proofs.Compose
import Mathlib

namespace Folio.Request

theorem checkedOffset_eq_some {page take n : Nat} :
    checkedOffset page take = some n ↔ take * (page - 1) ≤ maxOffset ∧ n = take * (page - 1) := by
  unfold checkedOffset
  split_ifs with h <;> simp [h, eq_comm]

theorem checkedOffset_getD (page take : Nat) :
    (checkedOffset page take).getD maxOffset = min (take * (page - 1)) maxOffset := by
  unfold checkedOffset
  split_ifs with h
  · rw [Option.getD_some, Nat.min_eq_left h]
  · rw [Option.getD_none, Nat.min_eq_right (by omega)]

/-- The offset of any request is exact up to the largest signed 64-bit word, and capped there. -/
theorem offset_eq_min (r : Request) :
    r.offset = r.page.map fun p => min (r.take * (p - 1)) maxOffset := by
  simp only [offset, checkedOffset_getD]

/-- A request whose page's offset fits a signed 64-bit word. -/
def OffsetFits (r : Request) : Prop := ∀ p, r.page = some p → r.take * (p - 1) ≤ maxOffset

theorem offsetFits_iff (r : Request) : OffsetFits r ↔ r.offsetError? = none := by
  unfold OffsetFits offsetError?
  cases r.page with
  | none => simp
  | some p =>
    cases h : checkedOffset p r.take with
    | none =>
      have hgt : maxOffset < r.take * (p - 1) := by
        unfold checkedOffset at h
        split_ifs at h with hle
        omega
      simp [h, hgt]
    | some n => simp [h, (checkedOffset_eq_some.mp h).1]

theorem OffsetFits.offset_eq {r : Request} (h : OffsetFits r) :
    r.offset = r.page.map fun p => r.take * (p - 1) := by
  rw [offset_eq_min]
  cases hp : r.page with
  | none => rfl
  | some p => simp [Nat.min_eq_left (h p hp)]

theorem offsetFits_empty : OffsetFits {} := fun _ h => by cases h

section Assign

variable {r r' : Request} {k v : String}

@[simp] theorem offsetError?_record : (r.record k v).offsetError? = r.offsetError? := rfl

theorem offsetError?_of_assign (ha : r.assign k v = (r', none)) (hk : k = pageKey ∨ k = takeKey) :
    r'.offsetError? = none := by
  have hpt : pageKey ≠ takeKey := by decide
  unfold assign at ha
  dsimp only at ha
  -- both keys go through the offset check, and recording keeps page number and page size
  rcases hk with rfl | rfl
  · rw [if_pos rfl] at ha
    split_ifs at ha
    all_goals repeat' split at ha
    all_goals cases ha
    all_goals (rw [offsetError?_record]; assumption)
  · rw [if_neg (Ne.symm hpt), if_pos rfl] at ha
    split_ifs at ha
    all_goals repeat' split at ha
    all_goals cases ha
    all_goals (rw [offsetError?_record]; assumption)

theorem OffsetFits.assign (h : OffsetFits r) (ha : r.assign k v = (r', none)) : OffsetFits r' := by
  by_cases hk : k = pageKey ∨ k = takeKey
  · exact (offsetFits_iff r').mpr (offsetError?_of_assign ha hk)
  · -- any other key leaves page number and page size alone
    obtain ⟨-, -, hpage, -, htake, -, -⟩ := assign_eq_ok ha
    rw [not_or] at hk
    intro p hp
    rw [htake hk.2]
    exact h p (hpage hk.1 ▸ hp)

end Assign

theorem OffsetFits.foldlM_set {l : List (String × String)} :
    ∀ {r r' : Request}, OffsetFits r → l.foldlM (fun r kv => r.set kv.1 kv.2) r = .ok r' →
      OffsetFits r' := by
  induction l with
  | nil => intro r r' h hf; cases hf; exact h
  | cons e l ih =>
    intro r r' h hf
    rw [List.foldlM_cons] at hf
    cases hs : r.set e.1 e.2 with
    | error err => simp [hs, bind, Except.bind] at hf
    | ok q =>
      simp only [hs, bind, Except.bind] at hf
      exact ih (h.assign (assign_of_set hs)) hf

/-- Every request has its offset exact up to the largest signed 64-bit word and capped there;
one read from query pairs never needs the cap, so its offset is exactly `take * (page - 1)`, and
so is the offset of every query composed from it. -/
theorem ofPairs_offset_exact (ps : List (String × String)) (o : Override) :
    (∀ r : Request, r.offset = r.page.map fun p => min (r.take * (p - 1)) maxOffset) ∧
      ∀ r, ofPairs ps = .ok r →
        (∀ p, r.page = some p → r.take * (p - 1) ≤ maxOffset) ∧
        r.offset = r.page.map (fun p => r.take * (p - 1)) ∧
        ∀ spec, compose r o = .ok spec → spec.offset = r.page.map (fun p => r.take * (p - 1)) := by
  refine ⟨offset_eq_min, fun r hr => ?_⟩
  have hfits : OffsetFits r := offsetFits_empty.foldlM_set hr
  refine ⟨hfits, hfits.offset_eq, fun spec hspec => ?_⟩
  rw [(compose_limit_offset hspec).2, hfits.offset_eq]

/-- The third page of five rows starts after ten rows, in the request and in its query. -/
theorem ofPairs_offset_third_page_of_five :
    ofPairs [("page", "3"), ("take", "5")] =
        .ok ⟨some 3, 5, .asc, ⟨[("page", "3"), ("take", "5")], by decide⟩⟩ ∧
      (⟨some 3, 5, .asc, ⟨[("page", "3"), ("take", "5")], by decide⟩⟩ : Request).offset = some 10 ∧
      ∀ spec, compose ⟨some 3, 5, .asc, ⟨[("page", "3"), ("take", "5")], by decide⟩⟩ {} = .ok spec →
        spec.offset = some 10 := by
  have hr : ofPairs [("page", "3"), ("take", "5")] =
      .ok ⟨some 3, 5, .asc, ⟨[("page", "3"), ("take", "5")], by decide⟩⟩ := by decide +kernel
  obtain ⟨-, hoff, hspec⟩ := (ofPairs_offset_exact [("page", "3"), ("take", "5")] {}).2 _ hr
  exact ⟨hr, hoff, hspec⟩

end Folio.Request
