import Folio.Query
import Folio.Proofs.Request
import Folio.Proofs.Text.Decimal
import Mathlib

open Folio.Filter Folio.TextMap

namespace Folio

/-- What one parameter does to the filters and order composed so far. -/
inductive Effect where
  | skip
  | filter (p : Predicate)
  | order (field : String) (dir : SortDir)
  deriving DecidableEq, Repr

namespace Effect

def apply (acc : TextMap Predicate × OrderBy) : Effect → TextMap Predicate × OrderBy
  | .skip => acc
  | .filter p => (acc.1.insert p.field p, acc.2)
  | .order field dir => (acc.1, acc.2.set field dir)

end Effect

def effect (kv : String × String) : Except Error Effect :=
  let (key, value) := kv
  if key = Request.pageKey || key = Request.takeKey then .ok .skip
  else if key.startsWith wherePrefix then do
    let k ← Key.parse key
    let op ← match k.token with
      | some t => Operator.parse t
      | none => pure .eq
    let p ← op.build k.field value
    pure (.filter p)
  else if key.startsWith orderPrefix then do
    let k ← Key.parse key
    if k.token.isSome then throw (.malformedKey key)
    if k.field = createdAtField && (Text.trim value).isEmpty then pure .skip
    else
      let d ← SortDir.parse value
      pure (.order k.field d)
  else .ok .skip

theorem composeStep_eq (acc : TextMap Predicate × OrderBy) (kv : String × String) :
    composeStep acc kv = (effect kv).map (Effect.apply acc) := by
  obtain ⟨key, value⟩ := kv
  unfold composeStep effect
  dsimp only
  split_ifs
  · rfl
  · cases Key.parse key with
    | error e => rfl
    | ok k =>
      simp only [bind, Except.bind]
      cases k.token with
      | some t =>
        dsimp only
        cases Operator.parse t with
        | error e => rfl
        | ok op => dsimp only; cases op.build k.field value <;> rfl
      | none => dsimp only; cases Operator.eq.build k.field value <;> rfl
  · cases Key.parse key with
    | error e => rfl
    | ok k =>
      simp only [bind, Except.bind]
      -- a refused operator segment fails before the direction is read
      split_ifs
      · rfl
      · rfl
      · rfl
      · cases SortDir.parse value <;> rfl
  · rfl

theorem foldlM_composeStep :
    ∀ (l : List (String × String)) (acc : TextMap Predicate × OrderBy),
      l.foldlM composeStep acc = (l.mapM effect).map fun es => es.foldl Effect.apply acc
  | [], acc => rfl
  | kv :: l, acc => by
    rw [List.foldlM_cons, List.mapM_cons, composeStep_eq]
    cases effect kv with
    | error e => rfl
    | ok eff =>
      rw [show (Except.map (Effect.apply acc) (.ok eff) : Except Error _) =
        pure (Effect.apply acc eff) from rfl, pure_bind, foldlM_composeStep l]
      cases l.mapM effect <;> rfl

def Effect.filterField? : Effect → Option String
  | .filter p => some p.field
  | _ => none

theorem Effect.apply_insert {acc : TextMap Predicate × OrderBy} {f : String}
    (q : Predicate) {e : Effect} (he : e.filterField? ≠ some f) :
    Effect.apply (acc.1.insert f q, acc.2) e =
      ((Effect.apply acc e).1.insert f q, (Effect.apply acc e).2) := by
  cases e with
  | skip => rfl
  | filter p =>
    have hp : p.field ≠ f := fun hp => he (by rw [filterField?, hp])
    simp only [apply, insert_comm acc.1 q p (Ne.symm hp)]
  | order field dir => rfl

theorem foldlM_composeStep_insert {f : String} (q : Predicate) {l : List (String × String)}
    (hl : ∀ e ∈ l, ∀ eff, effect e = .ok eff → eff.filterField? ≠ some f) :
    ∀ {acc : TextMap Predicate × OrderBy},
      l.foldlM composeStep (acc.1.insert f q, acc.2) =
        (l.foldlM composeStep acc).map fun a => (a.1.insert f q, a.2) := by
  induction l with
  | nil => intro acc; rfl
  | cons e l ih =>
    intro acc
    rw [List.foldlM_cons, List.foldlM_cons, composeStep_eq, composeStep_eq]
    cases he : effect e with
    | error err => rfl
    | ok eff =>
      simp only [Except.map, bind, Except.bind]
      rw [Effect.apply_insert q (hl e (List.mem_cons_self ..) eff he)]
      exact ih (fun e' he' => hl e' (List.mem_cons_of_mem e he'))

theorem foldlM_composeStep_middle {f : String} {q : Predicate} {b : String × String}
    (hb : effect b = .ok (.filter q)) (hq : q.field = f) {l₂ : List (String × String)}
    (hl₂ : ∀ e ∈ l₂, ∀ eff, effect e = .ok eff → eff.filterField? ≠ some f) :
    ∀ {l₁ : List (String × String)} {acc : TextMap Predicate × OrderBy},
      (l₁ ++ b :: l₂).foldlM composeStep acc =
        ((l₁ ++ l₂).foldlM composeStep acc).map fun a => (a.1.insert f q, a.2)
  | [], acc => by
    rw [List.nil_append, List.nil_append, List.foldlM_cons, composeStep_eq, hb]
    simp only [Except.map, bind, Except.bind, Effect.apply, hq]
    exact foldlM_composeStep_insert q hl₂
  | e :: l₁, acc => by
    rw [List.cons_append, List.cons_append, List.foldlM_cons, List.foldlM_cons, composeStep_eq]
    cases he : effect e with
    | error err => rfl
    | ok eff =>
      simp only [Except.map, bind, Except.bind]
      exact foldlM_composeStep_middle hb hq hl₂

theorem foldlM_composeStep_filter (f : String × String → Bool) {l : List (String × String)}
    (hskip : ∀ e ∈ l, f e = false → ∀ eff, effect e = .ok eff → eff = .skip) :
    ∀ {acc acc' : TextMap Predicate × OrderBy}, l.foldlM composeStep acc = .ok acc' →
      (l.filter f).foldlM composeStep acc = .ok acc' := by
  induction l with
  | nil => intro acc acc' h; exact h
  | cons e l ih =>
    intro acc acc' h
    have hskip' := fun e' he' => hskip e' (List.mem_cons_of_mem e he')
    rw [List.foldlM_cons, composeStep_eq] at h
    cases he : effect e with
    | error err => simp [he, Except.map, bind, Except.bind] at h
    | ok eff =>
      simp only [he, Except.map, bind, Except.bind] at h
      rw [List.filter_cons]
      split_ifs with hf
      · rw [List.foldlM_cons, composeStep_eq, he]
        exact ih hskip' h
      · rw [hskip e (List.mem_cons_self ..) (by simpa using hf) eff he] at h
        exact ih hskip' h

theorem effect_filter {kv : String × String} {p : Predicate} (h : effect kv = .ok (.filter p)) :
    kv.1.startsWith wherePrefix ∧ ∃ k, Key.parse kv.1 = .ok k ∧ p.field = k.field := by
  obtain ⟨key, value⟩ := kv
  unfold effect at h
  dsimp only at h
  split_ifs at h with h₁ h₂ h₃
  · cases h
  · refine ⟨h₂, ?_⟩
    cases hk : Key.parse key with
    | error e => simp [hk, bind, Except.bind] at h
    | ok k =>
      refine ⟨k, rfl, ?_⟩
      simp only [hk, bind, Except.bind] at h
      -- whichever operator the key names, the predicate is built on the key's field
      have hbuild : ∀ op : Operator, ∀ q, op.build k.field value = .ok q → q.field = k.field :=
        fun op q hq => by
          unfold Operator.build at hq
          dsimp only at hq
          split at hq
          · obtain rfl := Except.ok.inj hq; rfl
          · cases hq
      cases ht : k.token with
      | some t =>
        cases hop : Operator.parse t with
        | error e => simp [ht, hop] at h
        | ok op =>
          cases hq : op.build k.field value with
          | error e => simp [ht, hop, hq] at h
          | ok q =>
            simp only [ht, hop, hq, pure, Except.pure, Except.ok.injEq, Effect.filter.injEq] at h
            exact h ▸ hbuild op q hq
      | none =>
        cases hq : Operator.eq.build k.field value with
        | error e => simp [ht, hq, pure, Except.pure] at h
        | ok q =>
          simp only [ht, pure, Except.pure, hq, Except.ok.injEq, Effect.filter.injEq] at h
          exact h ▸ hbuild .eq q hq
  · -- an order key gives nothing or an order direction, never a filter
    exfalso
    cases hk : Key.parse key with
    | error e => simp [hk, bind, Except.bind] at h
    | ok k =>
      simp only [hk, bind, Except.bind] at h
      split_ifs at h
      · cases h
      · cases hd : SortDir.parse value <;> simp [hd, pure, Except.pure] at h
  · cases h

/-- A blank parameter other than a filter does nothing, when it is accepted at all: a blank
direction is refused, except on the creation time where it is the default. -/
theorem effect_blank {key : String} (hw : key.startsWith wherePrefix = false) {eff : Effect}
    (h : effect (key, "") = .ok eff) : eff = .skip := by
  unfold effect at h
  dsimp only at h
  split_ifs at h with h₁ h₂ h₃
  · cases h; rfl
  · simp [hw] at h₂
  · cases hk : Key.parse key with
    | error e => simp [hk, bind, Except.bind] at h
    | ok k =>
      simp only [hk, bind, Except.bind] at h
      split_ifs at h
      · cases h; rfl
      · -- the blank text reads as no direction
        have : SortDir.parse "" = .error (.orderDirection "") := by decide
        simp [this] at h
  · cases h; rfl

/-- The filter that the boundary key of a direction asks for: ids after the last one when
ascending, before it when descending. -/
def SortDir.boundary : SortDir → String → Predicate
  | .asc, s => ⟨"id", .gt, [s]⟩
  | .desc, s => ⟨"id", .lt, [s]⟩

theorem boundary_field (d : SortDir) (s : String) : (d.boundary s).field = "id" := by
  cases d <;> rfl

theorem parse_afterKey : Key.parse afterKey = .ok ⟨"where", "id", some "more_than"⟩ := by decide

theorem parse_beforeKey : Key.parse beforeKey = .ok ⟨"where", "id", some "less_than"⟩ := by decide

theorem afterKey_startsWith : afterKey.startsWith wherePrefix = true := by decide +kernel

theorem beforeKey_startsWith : beforeKey.startsWith wherePrefix = true := by decide +kernel

theorem effect_boundaryKey (d : SortDir) (s : String) :
    effect (d.boundaryKey, s) = .ok (.filter (d.boundary s)) := by
  cases d with
  | asc =>
    simp only [effect, SortDir.boundaryKey, afterKey_startsWith, parse_afterKey]
    rfl
  | desc =>
    simp only [effect, SortDir.boundaryKey, beforeKey_startsWith, parse_beforeKey]
    rfl

theorem foldlM_composeStep_inv (P : TextMap Predicate × OrderBy → Prop) {l : List (String × String)}
    (hP : ∀ e ∈ l, ∀ eff, effect e = .ok eff → ∀ acc, P acc → P (Effect.apply acc eff)) :
    ∀ {acc acc' : TextMap Predicate × OrderBy}, P acc →
      l.foldlM composeStep acc = .ok acc' → P acc' := by
  induction l with
  | nil => intro acc acc' h hf; cases hf; exact h
  | cons e l ih =>
    intro acc acc' h hf
    rw [List.foldlM_cons, composeStep_eq] at hf
    cases he : effect e with
    | error err => simp [he, bind, Except.bind, Except.map] at hf
    | ok eff =>
      simp only [he, Except.map, bind, Except.bind] at hf
      exact ih (fun e' he' => hP e' (List.mem_cons_of_mem e he'))
        (hP e (List.mem_cons_self ..) eff he acc h) hf

theorem splitOnDoubleUnderscore_ne_nil (cs : List Char) : Text.splitOnDoubleUnderscore cs ≠ [] := by
  fun_cases Text.splitOnDoubleUnderscore cs <;> simp_all

theorem eq_of_splitOnDoubleUnderscore_eq {cs p : List Char}
    (h : Text.splitOnDoubleUnderscore cs = [p]) : cs = p := by
  fun_induction Text.splitOnDoubleUnderscore cs generalizing p with
  | case1 => simpa using h.symm
  | case2 rest ih =>
    simp only [List.cons.injEq, List.nil_eq] at h
    exact absurd h.2 (splitOnDoubleUnderscore_ne_nil rest)
  | case3 c rest _ hsplit => exact absurd hsplit (splitOnDoubleUnderscore_ne_nil rest)
  | case4 c rest _ q qs hsplit ih =>
    simp only [List.cons.injEq] at h
    obtain ⟨rfl, rfl⟩ := h
    rw [ih hsplit]

theorem key_of_orderPrefix {key : String} {k : Key} (hs : key.startsWith orderPrefix)
    (hk : Key.parse key = .ok k) (ht : k.token = none) : key = orderPrefix ++ k.field := by
  obtain ⟨rest, hrest⟩ := String.startsWith_string_iff.mp hs
  have hsplit : Text.splitOnDoubleUnderscore key.toList =
      "order".toList :: Text.splitOnDoubleUnderscore rest := by
    rw [← hrest]; rfl
  unfold Key.parse segments at hk
  rw [hsplit] at hk
  cases hr : Text.splitOnDoubleUnderscore rest with
  | nil => exact absurd hr (splitOnDoubleUnderscore_ne_nil rest)
  | cons q qs =>
    cases qs with
    | nil =>
      simp only [hr, List.map_cons, List.map_nil] at hk
      split_ifs at hk
      cases hk
      apply String.toList_inj.mp
      rw [← hrest, eq_of_splitOnDoubleUnderscore_eq hr]
      simp [orderPrefix]
    | cons q' qs =>
      cases qs with
      | nil =>
        simp only [hr, List.map_cons, List.map_nil] at hk
        split_ifs at hk
        cases hk
        simp at ht
      | cons q'' qs => simp [hr] at hk

theorem effect_order {kv : String × String} {f : String} {d : SortDir}
    (h : effect kv = .ok (.order f d)) :
    kv.1.startsWith orderPrefix ∧ (∃ k, Key.parse kv.1 = .ok k ∧ k.token = none ∧ k.field = f) ∧
      SortDir.parse kv.2 = .ok d ∧ ¬(f = createdAtField ∧ (Text.trim kv.2).isEmpty) := by
  obtain ⟨key, value⟩ := kv
  unfold effect at h
  dsimp only at h
  split_ifs at h with h₁ h₂ h₃
  · cases h
  · -- a `where__` key gives a filter
    exfalso
    cases hk : Key.parse key with
    | error e => simp [hk, bind, Except.bind] at h
    | ok k =>
      simp only [hk, bind, Except.bind] at h
      cases ht : k.token with
      | some t =>
        cases hop : Operator.parse t with
        | error e => simp [ht, hop] at h
        | ok op => cases hq : op.build k.field value <;> simp [ht, hop, hq, pure, Except.pure] at h
      | none =>
        cases hq : Operator.eq.build k.field value <;> simp [ht, hq, pure, Except.pure] at h
  · refine ⟨h₃, ?_⟩
    cases hk : Key.parse key with
    | error e => simp [hk, bind, Except.bind] at h
    | ok k =>
      simp only [hk, bind, Except.bind] at h
      split_ifs at h with ht hc
      · cases h
      · cases hd : SortDir.parse value with
        | error e => simp [hd] at h
        | ok d' =>
          simp only [hd, pure, Except.pure, Except.ok.injEq, Effect.order.injEq] at h
          obtain ⟨rfl, rfl⟩ := h
          exact ⟨⟨k, rfl, by simpa using ht, rfl⟩, rfl, by simpa using hc⟩
  · cases h

theorem SortDir.parse_trim (v : String) :
    (SortDir.parse (Text.trim v)).toOption = (SortDir.parse v).toOption := by
  simp only [SortDir.parse, Text.trim_trim]
  split_ifs <;> rfl

theorem OrderBy.head?_set {ord : OrderBy} {k : OrderKey} (h : ord.keys.head? = some k)
    (f : String) (d : SortDir) :
    (ord.set f d).keys.head? = if k.field = f then some ⟨f, d⟩ else some k := by
  obtain ⟨keys⟩ := ord
  cases keys with
  | nil => cases h
  | cons k' ks =>
    obtain rfl : k' = k := by simpa using h
    simp only [OrderBy.set, OrderKey.setIn]
    split_ifs <;> rfl

theorem OrderBy.head?_foldl_set {k : OrderKey} (ks : List OrderKey)
    (hks : ∀ k' ∈ ks, k'.field ≠ k.field) :
    ∀ {ord : OrderBy}, ord.keys.head? = some k →
      (ks.foldl (fun ord k => ord.set k.field k.dir) ord).keys.head? = some k := by
  induction ks with
  | nil => intro ord h; exact h
  | cons k' ks ih =>
    intro ord h
    refine ih (fun k'' hk'' => hks k'' (List.mem_cons_of_mem _ hk'')) ?_
    rw [OrderBy.head?_set h, if_neg (Ne.symm (hks k' List.mem_cons_self))]

/-- Composition as a fold of the parameters from the creation-time order, with the pinned
filters and the pinned order put on top. -/
theorem compose_eq (r : Request) (o : Override) :
    compose r o = (r.params.entries.foldlM composeStep
        ({}, OrderBy.set {} createdAtField r.createdAtDir)).map fun acc =>
      ⟨acc.1.insertAll o.filters.entries,
        o.order.keys.foldl (fun ord k => ord.set k.field k.dir) acc.2, r.take, r.offset⟩ := by
  unfold compose
  dsimp only
  cases r.params.entries.foldlM composeStep ({}, OrderBy.set {} createdAtField r.createdAtDir) <;>
    rfl

theorem compose_ok {r : Request} {o : Override} {spec : Spec} (h : compose r o = .ok spec) :
    ∃ acc, r.params.entries.foldlM composeStep
        ({}, OrderBy.set {} createdAtField r.createdAtDir) = .ok acc ∧
      spec = ⟨acc.1.insertAll o.filters.entries,
        o.order.keys.foldl (fun ord k => ord.set k.field k.dir) acc.2, r.take, r.offset⟩ := by
  rw [compose_eq] at h
  cases hf : r.params.entries.foldlM composeStep
      ({}, OrderBy.set {} createdAtField r.createdAtDir) with
  | error e => simp [hf, Except.map] at h
  | ok acc =>
    simp only [hf, Except.map, Except.ok.injEq] at h
    exact ⟨acc, rfl, h.symm⟩

theorem compose_limit_offset {r : Request} {o : Override} {spec : Spec}
    (h : compose r o = .ok spec) : spec.limit = r.take ∧ spec.offset = r.offset := by
  obtain ⟨acc, -, rfl⟩ := compose_ok h
  exact ⟨rfl, rfl⟩

theorem foldlM_composeStep_head {r : Request}
    (hd : r.createdAtDir = Request.dirOf r.params) {acc : TextMap Predicate × OrderBy}
    (hf : r.params.entries.foldlM composeStep
      ({}, OrderBy.set {} createdAtField r.createdAtDir) = .ok acc) :
    acc.2.keys.head? = some ⟨createdAtField, r.createdAtDir⟩ := by
  -- a direction set on the creation time by a parameter is the request's own direction
  have hstep : ∀ e ∈ r.params.entries, ∀ eff, effect e = .ok eff →
      ∀ acc : TextMap Predicate × OrderBy,
        acc.2.keys.head? = some ⟨createdAtField, r.createdAtDir⟩ →
        (Effect.apply acc eff).2.keys.head? = some ⟨createdAtField, r.createdAtDir⟩ := by
    intro e he eff heff acc hacc
    cases eff with
    | skip => exact hacc
    | filter p => exact hacc
    | order f d =>
      simp only [Effect.apply]
      rw [OrderBy.head?_set hacc]
      split_ifs with hf
      · obtain ⟨hs', ⟨k, hk, ht, hkf⟩, hd', hblank⟩ := effect_order heff
        subst hf
        have hkey : e.1 = Request.createdAtKey := by
          rw [key_of_orderPrefix hs' hk ht, hkf]; rfl
        have hget : r.params.get? Request.createdAtKey = some e.2 :=
          hkey ▸ get?_of_mem he
        have hread : Request.readDir e.2 = some d := by
          have hne : (Text.trim e.2).isEmpty = false := by simpa using hblank
          simp only [Request.readDir, hne, Bool.false_eq_true, if_false, SortDir.parse_trim, hd']
          rfl
        rw [hd, Request.dirOf, hget, Option.bind_some, hread]
        rfl
      · rfl
  exact foldlM_composeStep_inv (fun acc => acc.2.keys.head? = some ⟨createdAtField, r.createdAtDir⟩)
    hstep rfl hf

/-- The composed order starts with the creation time, in the direction the request asks for,
when the pinned order leaves the creation time alone. -/
theorem compose_order_head {r : Request} {o : Override} {spec : Spec} (hr : r.Recorded)
    (ho : ∀ k ∈ o.order.keys, k.field ≠ createdAtField) (h : compose r o = .ok spec) :
    spec.order.keys.head? = some ⟨createdAtField, r.createdAtDir⟩ := by
  obtain ⟨acc, hf, rfl⟩ := compose_ok h
  exact OrderBy.head?_foldl_set _ ho (foldlM_composeStep_head hr.dir hf)

/-- Parameters that filter no field under the name `id`, each with a value. -/
def Request.FiltersNoId (r : Request) : Prop :=
  ∀ e ∈ r.params.entries, e.1.startsWith wherePrefix →
    e.2 ≠ "" ∧ ∀ k, Key.parse e.1 = .ok k → k.field ≠ "id"

theorem Request.filtersNoId_iff (r : Request) :
    r.FiltersNoId ↔ ∀ e ∈ r.params.entries, e.1.startsWith wherePrefix →
      e.2 ≠ "" ∧ ((Key.parse e.1).toOption.all fun k => k.field != "id") = true := by
  unfold Request.FiltersNoId
  refine forall₂_congr fun e _ => imp_congr_right fun _ => and_congr_right fun _ => ?_
  cases Key.parse e.1 <;> simp [Except.toOption]

instance (r : Request) : Decidable r.FiltersNoId :=
  decidable_of_iff _ (Request.filtersNoId_iff r).symm

theorem compose_filters_ne_id {r : Request} {o : Override} {spec : Spec} (hw : r.FiltersNoId)
    (ho : ∀ e ∈ o.filters.entries, e.1 ≠ "id") (h : compose r o = .ok spec) :
    ∀ e ∈ spec.filters.entries, e.1 ≠ "id" := by
  have hstep : ∀ e ∈ r.params.entries, ∀ eff, effect e = .ok eff →
      ∀ acc : TextMap Predicate × OrderBy, (∀ e' ∈ acc.1.entries, e'.1 ≠ "id") →
        ∀ e' ∈ (Effect.apply acc eff).1.entries, e'.1 ≠ "id" := by
    intro e he eff heff acc hacc
    cases eff with
    | skip => exact hacc
    | order f d => exact hacc
    | filter p =>
      intro e' he'
      rcases mem_insertEntry he' with rfl | he'
      · obtain ⟨hwe, k, hk, hpk⟩ := effect_filter heff
        rw [hpk]
        exact (hw e he hwe).2 k hk
      · exact hacc e' he'
  obtain ⟨acc, hf, rfl⟩ := compose_ok h
  have hacc : ∀ e ∈ acc.1.entries, e.1 ≠ "id" :=
    foldlM_composeStep_inv (fun acc => ∀ e ∈ acc.1.entries, e.1 ≠ "id") hstep
      (fun _ he => absurd he List.not_mem_nil) hf
  exact keys_ne_insertAll hacc ho

/-- The query of a cursor request read back from its next link: the query of the request the
link was made for, with the boundary filter on `id`. -/
theorem compose_followed {r : Request} {o : Override} {spec : Spec} (hc : r.page = none)
    (hw : r.FiltersNoId) (ho : ∀ e ∈ o.filters.entries, e.1 ≠ "id")
    (h : compose r o = .ok spec) (s : String) :
    compose (r.followed s) o =
      .ok { spec with filters := spec.filters.insert "id" (r.createdAtDir.boundary s) } := by
  -- the parameters a link drops do nothing to the query
  have hskip : ∀ e ∈ r.params.entries,
      (!e.2.isEmpty && e.1 != afterKey && e.1 != beforeKey) = false →
      ∀ eff, effect e = .ok eff → eff = .skip := by
    intro e he hf eff heff
    simp only [Bool.and_eq_false_iff, Bool.not_eq_false', String.isEmpty_iff,
      bne_eq_false_iff_eq] at hf
    by_cases hwe : e.1.startsWith wherePrefix
    · obtain ⟨hne, hid⟩ := hw e he hwe
      rcases hf with (hv | hb) | hb
      · exact absurd hv hne
      · exact absurd rfl (hid _ (hb ▸ parse_afterKey))
      · exact absurd rfl (hid _ (hb ▸ parse_beforeKey))
    · rcases hf with (hv | hb) | hb
      · obtain ⟨key, value⟩ := e
        dsimp only at hv
        subst hv
        exact effect_blank (by simpa using hwe) heff
      · exact absurd (hb ▸ afterKey_startsWith) hwe
      · exact absurd (hb ▸ beforeKey_startsWith) hwe
  -- no parameter the link keeps filters `id`
  have hnoid : ∀ e ∈ linkParams r, ∀ eff, effect e = .ok eff → eff.filterField? ≠ some "id" := by
    intro e he eff heff
    have he' := List.mem_of_mem_filter he
    cases eff with
    | filter p =>
      obtain ⟨hwe, k, hk, hpk⟩ := effect_filter heff
      simp only [Effect.filterField?, hpk, ne_eq, Option.some.injEq]
      exact (hw e he' hwe).2 k hk
    | skip => simp [Effect.filterField?]
    | order f d => simp [Effect.filterField?]
  obtain ⟨acc, hf, rfl⟩ := compose_ok h
  have hl : (linkParams r).foldlM composeStep
      ({}, OrderBy.set {} createdAtField r.createdAtDir) = .ok acc :=
    foldlM_composeStep_filter _ hskip hf
  obtain ⟨l₁, l₂, hsplit, hins⟩ := @insertEntry_split _ (linkParams r)
    r.createdAtDir.boundaryKey s fun e he hek => by
      have := (List.mem_filter.mp he).2
      rcases Request.boundaryKey_cases r.createdAtDir with hb | hb <;> simp [hek, hb] at this
  have hl₂ : ∀ e ∈ l₂, ∀ eff, effect e = .ok eff → eff.filterField? ≠ some "id" :=
    fun e he => hnoid e (hsplit ▸ List.mem_append_right l₁ he)
  -- the link's parameters fold as the request's, with the boundary inserted among them
  have hfold : (r.followed s).params.entries.foldlM composeStep
      ({}, OrderBy.set {} createdAtField r.createdAtDir) =
      .ok (acc.1.insert "id" (r.createdAtDir.boundary s), acc.2) := by
    rw [show (r.followed s).params.entries = l₁ ++ (r.createdAtDir.boundaryKey, s) :: l₂ from hins,
      foldlM_composeStep_middle (effect_boundaryKey _ s) (boundary_field _ s) hl₂,
      ← hsplit, hl]
    rfl
  rw [compose_eq, show (r.followed s).createdAtDir = r.createdAtDir from rfl, hfold]
  -- the pinned filters are on other fields than `id`, so the boundary survives them
  simp only [Except.map, insertAll_insert acc.1 (r.createdAtDir.boundary s) ho]
  simp [Request.offset, Request.followed, hc]

end Folio
