import Folio.Proofs.Compose
import Folio.Proofs.Request.Steps
import Mathlib

namespace Folio

/-- The direction that setting `keys` in order leaves on `field`, starting from `d`. -/
def OrderKey.lastDir (field : String) (d : SortDir) (keys : List OrderKey) : SortDir :=
  keys.foldl (fun d k => if k.field = field then k.dir else d) d

theorem OrderKey.lastDir_of_forall_ne {field : String} {d : SortDir} :
    ∀ {keys : List OrderKey}, (∀ k ∈ keys, k.field ≠ field) → lastDir field d keys = d
  | [], _ => rfl
  | k :: keys, h => by
    rw [lastDir, List.foldl_cons, if_neg (h k List.mem_cons_self), ← lastDir]
    exact lastDir_of_forall_ne fun k' hk' => h k' (List.mem_cons_of_mem k hk')

theorem OrderBy.head?_foldl_set_lastDir (ks : List OrderKey) :
    ∀ {ord : OrderBy} {f : String} {d : SortDir}, ord.keys.head? = some ⟨f, d⟩ →
      (ks.foldl (fun ord k => ord.set k.field k.dir) ord).keys.head? =
        some ⟨f, OrderKey.lastDir f d ks⟩ := by
  induction ks with
  | nil => intro ord f d h; exact h
  | cons k ks ih =>
    intro ord f d h
    rw [List.foldl_cons, OrderKey.lastDir, List.foldl_cons, ← OrderKey.lastDir]
    apply ih
    rw [OrderBy.head?_set h]
    by_cases hk : k.field = f
    · rw [if_pos hk.symm, if_pos hk, hk]
    · rw [if_neg (Ne.symm hk), if_neg hk]

theorem OrderBy.primaryDir_of_head? {o : OrderBy} {k : OrderKey} (h : o.keys.head? = some k) :
    o.primaryDir = k.dir := by
  obtain ⟨keys⟩ := o
  cases keys with
  | nil => cases h
  | cons k' ks =>
    obtain rfl : k' = k := by simpa using h
    rfl

/-- For a request built by any builder steps, failed ones included, and any pinned filters and
order, a composed query's order starts with the creation time, in the direction the pinned order
sets last on it, or else in the request's own direction. -/
theorem compose_primaryDir (steps : List Request.Step) (o : Override) {spec : Spec}
    (h : compose (({} : Request).runSteps steps) o = .ok spec) :
    spec.order.keys.head?.map (·.field) = some createdAtField ∧
      spec.order.primaryDir =
        OrderKey.lastDir createdAtField (({} : Request).runSteps steps).createdAtDir o.order.keys ∧
      ((∀ k ∈ o.order.keys, k.field ≠ createdAtField) →
        spec.order.primaryDir = (({} : Request).runSteps steps).createdAtDir) := by
  have hr := Request.readsDir_empty.runSteps steps
  obtain ⟨acc, hf, rfl⟩ := compose_ok h
  -- the parameters start the order with the request's direction; the pinned keys come last
  have hhead := OrderBy.head?_foldl_set_lastDir o.order.keys
    (foldlM_composeStep_head hr.dir hf)
  refine ⟨by rw [hhead]; rfl, OrderBy.primaryDir_of_head? hhead, fun ho => ?_⟩
  rw [OrderBy.primaryDir_of_head? hhead]
  exact OrderKey.lastDir_of_forall_ne ho

/-- A request asking for descending creation time, with the title pinned in ascending order:
its query starts descending on the creation time. -/
theorem compose_primaryDir_desc_titled :
    (∀ k ∈ (({} : Override).orderBy "title" .asc).order.keys, k.field ≠ createdAtField) ∧
      ∃ spec, compose (({} : Request).runSteps [.set "order__createdAt" " desc "])
          (({} : Override).orderBy "title" .asc) = .ok spec ∧
        spec.order.keys.head?.map (·.field) = some createdAtField ∧
        spec.order.primaryDir = OrderKey.lastDir createdAtField
          (({} : Request).runSteps [.set "order__createdAt" " desc "]).createdAtDir
          (({} : Override).orderBy "title" .asc).order.keys ∧
        spec.order.primaryDir = (({} : Request).runSteps [.set "order__createdAt" " desc "]).createdAtDir := by
  have ho : ∀ k ∈ (({} : Override).orderBy "title" .asc).order.keys, k.field ≠ createdAtField := by
    decide
  have hok : (compose (({} : Request).runSteps [.set "order__createdAt" " desc "])
      (({} : Override).orderBy "title" .asc)).isOk = true := by
    decide +kernel
  cases hc : compose (({} : Request).runSteps [.set "order__createdAt" " desc "])
      (({} : Override).orderBy "title" .asc) with
  | error e => simp [hc, Except.isOk, Except.toBool] at hok
  | ok spec =>
    obtain ⟨h₁, h₂, h₃⟩ := compose_primaryDir [.set "order__createdAt" " desc "] _ hc
    exact ⟨ho, spec, rfl, h₁, h₂, h₃ ho⟩

/-- A pinned descending creation-time order turns the query of a request that asks for
ascending order to descending. -/
theorem pinned_createdAt_order_sets_primaryDir :
    (compose (({} : Request).runSteps []) (({} : Override).orderBy createdAtField .desc)).map
        (·.order.primaryDir) = .ok .desc ∧
      (({} : Request).runSteps []).createdAtDir = .asc := by
  decide

end Folio
