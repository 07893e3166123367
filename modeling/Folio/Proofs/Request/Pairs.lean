import Folio.Proofs.Request.Steps
import Mathlib

namespace Folio.Request

open Folio.TextMap

def isOffsetKey (k : String) : Bool := k == pageKey || k == takeKey

/-- Whether an assignment fails, and the page number and page size it leaves, depend on the
request only through its page number and page size. -/
theorem assign_offset_congr {r q : Request} (hp : r.page = q.page) (ht : r.take = q.take)
    (k v : String) :
    (r.assign k v).2 = (q.assign k v).2 ∧ (r.assign k v).1.page = (q.assign k v).1.page ∧
      (r.assign k v).1.take = (q.assign k v).1.take := by
  unfold assign
  dsimp only
  -- each branch reads the request through its page number and page size only
  split_ifs <;> (repeat' split) <;> simp_all [offsetError?, record]

theorem assign_of_not_offsetKey {r : Request} {k : String} (hk : isOffsetKey k = false)
    (v : String) :
    (r.assign k v).2 = (({} : Request).assign k v).2 ∧ (r.assign k v).1.page = r.page ∧
      (r.assign k v).1.take = r.take := by
  simp only [isOffsetKey, Bool.or_eq_false_iff, beq_eq_false_iff_ne, ne_eq] at hk
  unfold assign
  simp only [if_neg hk.1, if_neg hk.2]
  split_ifs <;> (repeat' split) <;> simp_all [record]

theorem set_of_assign_none {r r' : Request} {k v : String} (h : r.assign k v = (r', none)) :
    r.set k v = .ok r' := by
  unfold set
  rw [h]

theorem set_of_assign_some {r r' : Request} {k v : String} {e : Error}
    (h : r.assign k v = (r', some e)) : r.set k v = .error e := by
  unfold set
  rw [h]

/-- Setting pairs in order succeeds exactly when every pair of another key than the page number
and page size is accepted on its own, and the page number and page size pairs, set in their
order, pass the offset checks. -/
theorem foldlM_set_ok_iff (ps : List (String × String)) :
    ∀ {r q : Request}, r.page = q.page → r.take = q.take →
      ((∃ r', ps.foldlM (fun r kv => r.set kv.1 kv.2) r = .ok r') ↔
        (∀ e ∈ ps, isOffsetKey e.1 = false → ∃ r', ({} : Request).set e.1 e.2 = .ok r') ∧
          ∃ q', (ps.filter (isOffsetKey ·.1)).foldlM (fun r kv => r.set kv.1 kv.2) q = .ok q') := by
  induction ps with
  | nil => intro r q _ _; exact ⟨fun _ => ⟨by simp, q, rfl⟩, fun _ => ⟨r, rfl⟩⟩
  | cons e ps ih =>
    intro r q hp ht
    rw [List.foldlM_cons, List.filter_cons]
    by_cases hk : isOffsetKey e.1 = true
    · -- the page number or size: both sides set it, from equal page numbers and sizes
      obtain ⟨herr, hp', ht'⟩ := assign_offset_congr hp ht e.1 e.2
      rw [if_pos hk, List.foldlM_cons]
      rcases hr : r.assign e.1 e.2 with ⟨r₁, _ | err⟩ <;>
        rcases hq : q.assign e.1 e.2 with ⟨q₁, _ | err'⟩ <;>
        simp only [hr, hq, reduceCtorEq] at herr hp' ht'
      · rw [set_of_assign_none hr, set_of_assign_none hq]
        simp only [bind, Except.bind]
        rw [ih hp' ht']
        simp [hk]
      · rw [set_of_assign_some hr, set_of_assign_some hq]
        exact iff_of_false (by rintro ⟨_, h⟩; cases h) (by rintro ⟨_, _, h⟩; cases h)
    · -- any other key: its own check, and the page number and size stay
      rw [Bool.not_eq_true] at hk
      obtain ⟨herr, hp', ht'⟩ := assign_of_not_offsetKey (r := r) hk e.2
      rw [if_neg (by simp [hk])]
      rcases hr : r.assign e.1 e.2 with ⟨r₁, _ | err⟩ <;>
        rcases hq : ({} : Request).assign e.1 e.2 with ⟨q₀, _ | err'⟩ <;>
        simp only [hr, hq, reduceCtorEq] at herr hp' ht'
      · rw [set_of_assign_none hr]
        simp only [bind, Except.bind]
        rw [ih (hp'.trans hp) (ht'.trans ht)]
        simp [hk, set_of_assign_none hq]
      · -- the pair is refused whatever came before it
        rw [set_of_assign_some hr]
        refine iff_of_false (by rintro ⟨_, h⟩; cases h) ?_
        rintro ⟨hall, _⟩
        obtain ⟨_, he⟩ := hall e List.mem_cons_self hk
        rw [set_of_assign_some hq] at he
        cases he

theorem params_of_foldlM_set {ps : List (String × String)} :
    ∀ {r r' : Request}, ps.foldlM (fun r kv => r.set kv.1 kv.2) r = .ok r' →
      r'.params = r.params.insertAll ps := by
  induction ps with
  | nil => intro r r' h; cases h; rfl
  | cons e ps ih =>
    intro r r' h
    rw [List.foldlM_cons] at h
    cases hs : r.set e.1 e.2 with
    | error err => simp [hs, bind, Except.bind] at h
    | ok q =>
      simp only [hs, bind, Except.bind] at h
      rw [ih h, (assign_eq_ok (assign_of_set hs)).1]
      rfl

theorem ofPairs_eq_applySteps (ps : List (String × String)) :
    ofPairs ps = ({} : Request).applySteps (ps.map fun e => .set e.1 e.2) := by
  unfold ofPairs
  generalize ({} : Request) = r
  induction ps generalizing r with
  | nil => rfl
  | cons e ps ih =>
    rw [List.foldlM_cons, List.map_cons, applySteps]
    rcases hr : r.assign e.1 e.2 with ⟨r₁, _ | err⟩
    · rw [set_of_assign_none hr, Step.apply_set, hr]
      exact ih r₁
    · rw [set_of_assign_some hr, Step.apply_set, hr]
      rfl

theorem eq_ofParams_of_ofPairs {ps : List (String × String)} {r : Request}
    (h : ofPairs ps = .ok r) : r = ofParams (({} : TextMap String).insertAll ps) := by
  have hback : ReadsBack r := by
    rw [ofPairs_eq_applySteps] at h
    refine readsBack_empty.applySteps (fun s hs => ?_) h
    obtain ⟨e, -, rfl⟩ := List.mem_map.mp hs
    trivial
  rw [hback.eq, params_of_foldlM_set h]

/-- Two orders of pairs with distinct keys that both succeed give the same request. -/
theorem ofPairs_eq_of_perm {ps qs : List (String × String)} (hkeys : (ps.map Prod.fst).Nodup)
    (hperm : ps.Perm qs) {r r' : Request} (hr : ofPairs ps = .ok r) (hr' : ofPairs qs = .ok r') :
    r = r' := by
  rw [eq_ofParams_of_ofPairs hr, eq_ofParams_of_ofPairs hr',
    insertAll_perm hperm hkeys {}]

/-- Reading pairs with distinct keys in another order: when both orders succeed they give the
same request, and orders that keep the page number and page size in the same order succeed
together. -/
theorem ofPairs_perm {ps qs : List (String × String)} (hkeys : (ps.map Prod.fst).Nodup)
    (hperm : ps.Perm qs) :
    (∀ r r', ofPairs ps = .ok r → ofPairs qs = .ok r' → r = r') ∧
      (ps.filter (isOffsetKey ·.1) = qs.filter (isOffsetKey ·.1) →
        ((∃ r, ofPairs ps = .ok r) ↔ ∃ r, ofPairs qs = .ok r)) := by
  refine ⟨fun r r' hr hr' => ofPairs_eq_of_perm hkeys hperm hr hr', fun hf => ?_⟩
  unfold ofPairs
  rw [foldlM_set_ok_iff ps rfl rfl, foldlM_set_ok_iff qs rfl rfl, hf]
  -- the other pairs are the same pairs, in another order
  have hmem : ∀ e, e ∈ ps ↔ e ∈ qs := fun e => hperm.mem_iff
  simp only [hmem]

/-- Pairs in two orders, the page size and the page number in the same order in both. -/
theorem ofPairs_perm_same_offset_order :
    ([("take", "5"), ("order__createdAt", "desc"), ("page", "2")].map Prod.fst).Nodup ∧
      [("take", "5"), ("order__createdAt", "desc"), ("page", "2")].Perm
        [("order__createdAt", "desc"), ("take", "5"), ("page", "2")] ∧
      [("take", "5"), ("order__createdAt", "desc"), ("page", "2")].filter (isOffsetKey ·.1) =
        [("order__createdAt", "desc"), ("take", "5"), ("page", "2")].filter (isOffsetKey ·.1) ∧
      (∀ r r', ofPairs [("take", "5"), ("order__createdAt", "desc"), ("page", "2")] = .ok r →
        ofPairs [("order__createdAt", "desc"), ("take", "5"), ("page", "2")] = .ok r' → r = r') ∧
      ((∃ r, ofPairs [("take", "5"), ("order__createdAt", "desc"), ("page", "2")] = .ok r) ↔
        ∃ r, ofPairs [("order__createdAt", "desc"), ("take", "5"), ("page", "2")] = .ok r) := by
  have hkeys : ([("take", "5"), ("order__createdAt", "desc"), ("page", "2")].map Prod.fst).Nodup := by
    decide
  have hperm : [("take", "5"), ("order__createdAt", "desc"), ("page", "2")].Perm
      [("order__createdAt", "desc"), ("take", "5"), ("page", "2")] := List.Perm.swap _ _ _
  have hf : [("take", "5"), ("order__createdAt", "desc"), ("page", "2")].filter (isOffsetKey ·.1) =
      [("order__createdAt", "desc"), ("take", "5"), ("page", "2")].filter (isOffsetKey ·.1) := by
    decide
  exact ⟨hkeys, hperm, hf, (ofPairs_perm hkeys hperm).1, (ofPairs_perm hkeys hperm).2 hf⟩

/-- A page number whose offset overflows at the default page size is refused when it comes
before a page size of one, and accepted when it comes after it. -/
theorem ofPairs_page_before_small_take :
    (ofPairs [("page", "1000000000000000000"), ("take", "1")]).isOk = false ∧
      (ofPairs [("take", "1"), ("page", "1000000000000000000")]).isOk = true := by
  decide +kernel

end Folio.Request
