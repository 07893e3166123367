import Folio.Proofs.Order
import Folio.Proofs.Store.Memory
import Mathlib

open Folio.Filter Folio.TextMap

namespace Folio

/-- The operator a filter key names: its operator segment read as one, equality without one. -/
def Filter.Key.operator (k : Key) : Except Error Operator :=
  match k.token with
  | some t => Operator.parse t
  | none => .ok .eq

def FiltersField (key f : String) : Prop :=
  key.startsWith wherePrefix ∧ ∃ k, Key.parse key = .ok k ∧ k.field = f

/-- The predicate a `where__` parameter builds: the operator its key names, built on the key's
field with the parameter's value. -/
def Builds (kv : String × String) (p : Predicate) : Prop :=
  kv.1.startsWith wherePrefix ∧
    ∃ k op, Key.parse kv.1 = .ok k ∧ k.operator = .ok op ∧ op.build k.field kv.2 = .ok p

/-- Why a parameter is refused. A `where__` parameter is refused by its key, by its operator or
by the predicate its value builds; an `order__` parameter by its key, by naming an operator, or by
a value that is no direction, where a blank value on the creation time is none of these. Any other
parameter is accepted. -/
inductive Rejects : String × String → Error → Prop
  | whereKey {key value e} : key.startsWith wherePrefix → Key.parse key = .error e →
      Rejects (key, value) e
  | whereOperator {key value k e} : key.startsWith wherePrefix → Key.parse key = .ok k →
      k.operator = .error e → Rejects (key, value) e
  | whereValue {key value k op e} : key.startsWith wherePrefix → Key.parse key = .ok k →
      k.operator = .ok op → op.build k.field value = .error e → Rejects (key, value) e
  | orderKey {key value e} : key.startsWith orderPrefix → Key.parse key = .error e →
      Rejects (key, value) e
  | orderOperator {key value k} : key.startsWith orderPrefix → Key.parse key = .ok k →
      k.token.isSome → Rejects (key, value) (.malformedKey key)
  | orderValue {key value k e} : key.startsWith orderPrefix → Key.parse key = .ok k →
      k.token = none → ¬(k.field = createdAtField ∧ (Text.trim value).isEmpty) →
      SortDir.parse value = .error e → Rejects (key, value) e

/-- The direction an `order__` parameter assigns to its field, if it assigns one: a blank value
on the creation time assigns none. -/
def orderAssignment? (kv : String × String) : Option (String × SortDir) :=
  if kv.1.startsWith orderPrefix then
    match Key.parse kv.1 with
    | .ok ⟨_, f, none⟩ =>
      if f = createdAtField ∧ (Text.trim kv.2).isEmpty then none
      else (SortDir.parse kv.2).toOption.map fun d => (f, d)
    | _ => none
  else none

section Parameter

variable {ε α β : Type}

theorem bind_eq_error_iff {x : Except ε α} {f : α → Except ε β} {e : ε} :
    x >>= f = .error e ↔ x = .error e ∨ ∃ a, x = .ok a ∧ f a = .error e := by
  cases x <;> simp [bind, Except.bind]

theorem bind_eq_ok_iff {x : Except ε α} {f : α → Except ε β} {b : β} :
    x >>= f = .ok b ↔ ∃ a, x = .ok a ∧ f a = .ok b := by
  cases x <;> simp [bind, Except.bind]

theorem not_startsWith_orderPrefix {key : String} (hw : key.startsWith wherePrefix) :
    ¬key.startsWith orderPrefix := by
  intro ho
  -- two prefixes of one key, of the same length, would be equal
  have h := List.prefix_of_prefix_length_le (String.startsWith_string_iff.mp hw)
    (String.startsWith_string_iff.mp ho) (by decide)
  exact absurd h (by decide)

theorem pageKey_or_takeKey_eq_false {key : String}
    (h : key.startsWith wherePrefix ∨ key.startsWith orderPrefix) :
    (key = Request.pageKey || key = Request.takeKey) = false := by
  simp only [Bool.or_eq_false_iff, decide_eq_false_iff_not]
  constructor <;> (rintro rfl; revert h; decide)

theorem effect_of_where {key : String} (hw : key.startsWith wherePrefix) (value : String) :
    effect (key, value) = Key.parse key >>= fun k => k.operator >>= fun op =>
      op.build k.field value >>= fun p => pure (.filter p) := by
  unfold effect
  dsimp only
  rw [if_neg (by simp [pageKey_or_takeKey_eq_false (.inl hw)]), if_pos hw]
  cases Key.parse key with
  | error e => rfl
  | ok k =>
    cases ht : k.token with
    | none => simp [bind, Except.bind, Key.operator, ht, pure, Except.pure]
    | some t => simp [bind, Except.bind, Key.operator, ht]

/-- An `order__` parameter reads its key, refuses an operator, and reads a direction unless it
leaves the creation time at its default. -/
theorem effect_of_order {key : String} (ho : key.startsWith orderPrefix) (value : String) :
    effect (key, value) = Key.parse key >>= fun k =>
      if k.token.isSome then .error (.malformedKey key)
      else if k.field = createdAtField ∧ (Text.trim value).isEmpty then .ok .skip
      else SortDir.parse value >>= fun d => pure (.order k.field d) := by
  have hw : ¬key.startsWith wherePrefix := fun hw => not_startsWith_orderPrefix hw ho
  unfold effect
  dsimp only
  rw [if_neg (by simp [pageKey_or_takeKey_eq_false (.inr ho)]), if_neg hw, if_pos ho]
  cases Key.parse key with
  | error e => rfl
  | ok k =>
    simp only [bind, Except.bind]
    by_cases ht : k.token.isSome = true
    · simp only [ht, if_true]
      rfl
    · simp only [ht, Bool.false_eq_true, if_false]
      split_ifs <;> simp_all [pure, Except.pure]

theorem effect_of_other {key : String} (hw : ¬key.startsWith wherePrefix)
    (ho : ¬key.startsWith orderPrefix) (value : String) : effect (key, value) = .ok .skip := by
  unfold effect
  dsimp only
  split_ifs <;> rfl

theorem Rejects.startsWith {kv : String × String} {e : Error} (h : Rejects kv e) :
    kv.1.startsWith wherePrefix ∨ kv.1.startsWith orderPrefix := by
  cases h with
  | whereKey hw => exact .inl hw
  | whereOperator hw => exact .inl hw
  | whereValue hw => exact .inl hw
  | orderKey ho => exact .inr ho
  | orderOperator ho => exact .inr ho
  | orderValue ho => exact .inr ho

section Refusal

variable {key value : String} {e : Error}

theorem effect_eq_error_iff_of_where (hw : key.startsWith wherePrefix) :
    effect (key, value) = .error e ↔ Rejects (key, value) e := by
  rw [effect_of_where hw]
  constructor
  · intro h
    rcases bind_eq_error_iff.mp h with hk | ⟨k, hk, h⟩
    · exact .whereKey hw hk
    rcases bind_eq_error_iff.mp h with hop | ⟨op, hop, h⟩
    · exact .whereOperator hw hk hop
    rcases bind_eq_error_iff.mp h with hb | ⟨p, -, h⟩
    · exact .whereValue hw hk hop hb
    · cases h
  · intro h
    cases h with
    | whereKey _ hk => exact bind_eq_error_iff.mpr (.inl hk)
    | whereOperator _ hk hop =>
      exact bind_eq_error_iff.mpr (.inr ⟨_, hk, bind_eq_error_iff.mpr (.inl hop)⟩)
    | whereValue _ hk hop hb =>
      exact bind_eq_error_iff.mpr (.inr ⟨_, hk, bind_eq_error_iff.mpr
        (.inr ⟨_, hop, bind_eq_error_iff.mpr (.inl hb)⟩)⟩)
    | orderKey ho => exact absurd ho (not_startsWith_orderPrefix hw)
    | orderOperator ho => exact absurd ho (not_startsWith_orderPrefix hw)
    | orderValue ho => exact absurd ho (not_startsWith_orderPrefix hw)

theorem effect_eq_error_iff_of_order (ho : key.startsWith orderPrefix) :
    effect (key, value) = .error e ↔ Rejects (key, value) e := by
  have hw : ¬key.startsWith wherePrefix := fun hw => not_startsWith_orderPrefix hw ho
  rw [effect_of_order ho]
  constructor
  · intro h
    rcases bind_eq_error_iff.mp h with hk | ⟨k, hk, h⟩
    · exact .orderKey ho hk
    -- a blank creation time is accepted, so the refusal comes from the operator or the value
    split_ifs at h with ht hc
    · cases h
      exact .orderOperator ho hk ht
    · rcases bind_eq_error_iff.mp h with hd | ⟨d, -, h⟩
      · exact .orderValue ho hk (by simpa using ht) hc hd
      · cases h
  · intro h
    cases h with
    | whereKey hw' => exact absurd hw' hw
    | whereOperator hw' => exact absurd hw' hw
    | whereValue hw' => exact absurd hw' hw
    | orderKey _ hk => exact bind_eq_error_iff.mpr (.inl hk)
    | orderOperator _ hk ht => exact bind_eq_error_iff.mpr (.inr ⟨_, hk, by rw [if_pos ht]⟩)
    | orderValue _ hk ht hc hd =>
      refine bind_eq_error_iff.mpr (.inr ⟨_, hk, ?_⟩)
      rw [if_neg (by simp [ht]), if_neg hc]
      exact bind_eq_error_iff.mpr (.inl hd)

end Refusal

theorem effect_eq_error_iff {kv : String × String} {e : Error} :
    effect kv = .error e ↔ Rejects kv e := by
  obtain ⟨key, value⟩ := kv
  by_cases hw : key.startsWith wherePrefix
  · exact effect_eq_error_iff_of_where hw
  by_cases ho : key.startsWith orderPrefix
  · exact effect_eq_error_iff_of_order ho
  · -- a parameter of no prefix is skipped, and no rule refuses it
    rw [effect_of_other hw ho]
    constructor
    · intro h
      cases h
    · intro h
      exact (h.startsWith.elim hw ho).elim

theorem effect_eq_filter_iff {kv : String × String} {p : Predicate} :
    effect kv = .ok (.filter p) ↔ Builds kv p := by
  obtain ⟨key, value⟩ := kv
  constructor
  · intro h
    have hw := (effect_filter h).1
    rw [effect_of_where hw] at h
    obtain ⟨k, hk, h⟩ := bind_eq_ok_iff.mp h
    obtain ⟨op, hop, h⟩ := bind_eq_ok_iff.mp h
    obtain ⟨q, hq, h⟩ := bind_eq_ok_iff.mp h
    obtain rfl : q = p := Effect.filter.inj (Except.ok.inj h)
    exact ⟨hw, k, op, hk, hop, hq⟩
  · rintro ⟨hw, k, op, hk, hop, hb⟩
    rw [effect_of_where hw]
    exact bind_eq_ok_iff.mpr ⟨k, hk, bind_eq_ok_iff.mpr ⟨op, hop, bind_eq_ok_iff.mpr ⟨p, hb, rfl⟩⟩⟩

theorem filtersField_iff {kv : String × String} {eff : Effect} (h : effect kv = .ok eff)
    (f : String) : FiltersField kv.1 f ↔ ∃ p, eff = .filter p ∧ p.field = f := by
  constructor
  · rintro ⟨hw, k, hk, rfl⟩
    -- an accepted `where__` parameter always filters
    obtain ⟨p, rfl⟩ : ∃ p, eff = .filter p := by
      obtain ⟨key, value⟩ := kv
      rw [effect_of_where hw] at h
      obtain ⟨_, -, h⟩ := bind_eq_ok_iff.mp h
      obtain ⟨_, -, h⟩ := bind_eq_ok_iff.mp h
      obtain ⟨p, -, h⟩ := bind_eq_ok_iff.mp h
      exact ⟨p, (Except.ok.inj h).symm⟩
    obtain ⟨-, k', hk', hpk⟩ := effect_filter h
    obtain rfl : k' = k := Except.ok.inj (hk'.symm.trans hk)
    exact ⟨p, rfl, hpk⟩
  · rintro ⟨p, rfl, rfl⟩
    obtain ⟨hw, k, hk, hpk⟩ := effect_filter h
    exact ⟨hw, k, hk, hpk.symm⟩

def Effect.orderPair? : Effect → Option (String × SortDir)
  | .order f d => some (f, d)
  | _ => none

def Effect.filterPair? : Effect → Option (String × Predicate)
  | .filter p => some (p.field, p)
  | _ => none

theorem orderAssignment?_eq (kv : String × String) :
    orderAssignment? kv = (effect kv).toOption.bind Effect.orderPair? := by
  obtain ⟨key, value⟩ := kv
  by_cases ho : key.startsWith orderPrefix
  · rw [effect_of_order ho]
    unfold orderAssignment?
    rw [if_pos ho]
    dsimp only
    cases hk : Key.parse key with
    | error e => rfl
    | ok k =>
      obtain ⟨scope, f, token⟩ := k
      cases token with
      | some t => rfl
      | none =>
        dsimp only
        by_cases hc : f = createdAtField ∧ (Text.trim value).isEmpty
        · simp [hc, bind, Except.bind, Except.toOption, Effect.orderPair?]
        · simp only [hc, if_false, bind, Except.bind, Option.isSome_none, Bool.false_eq_true]
          cases SortDir.parse value <;> rfl
  · -- without the order prefix no direction is set
    rw [show orderAssignment? (key, value) = none from if_neg ho]
    cases h : effect (key, value) with
    | error e => rfl
    | ok eff =>
      cases eff with
      | order f d => exact absurd (effect_order h).1 ho
      | skip => rfl
      | filter p => rfl

def paramFilter? (kv : String × String) : Option (String × Predicate) :=
  (effect kv).toOption.bind Effect.filterPair?

theorem paramFilter?_eq_some_iff {kv : String × String} {eff : Effect} (h : effect kv = .ok eff)
    {f : String} {p : Predicate} :
    paramFilter? kv = some (f, p) ↔ FiltersField kv.1 f ∧ Builds kv p := by
  have hentry : paramFilter? kv = eff.filterPair? := by simp [paramFilter?, h, Except.toOption]
  rw [hentry, filtersField_iff h, ← effect_eq_filter_iff, h]
  cases eff <;> simp [Effect.filterPair?, and_comm, eq_comm]

theorem exists_paramFilter?_iff {kv : String × String} {eff : Effect} (h : effect kv = .ok eff)
    (f : String) : (∃ p, paramFilter? kv = some (f, p)) ↔ FiltersField kv.1 f := by
  simp only [paramFilter?_eq_some_iff h]
  constructor
  · rintro ⟨p, hf, -⟩
    exact hf
  · intro hf
    obtain ⟨p, rfl, -⟩ := (filtersField_iff h f).mp hf
    exact ⟨p, hf, effect_eq_filter_iff.mp h⟩

end Parameter

section Parameters

theorem Effect.foldl_apply : ∀ (es : List Effect) (acc : TextMap Predicate × OrderBy),
    es.foldl Effect.apply acc =
      (acc.1.insertAll (es.filterMap Effect.filterPair?),
        (es.filterMap Effect.orderPair?).foldl (fun ord a => ord.set a.1 a.2) acc.2)
  | [], _ => rfl
  | eff :: es, acc => by
    rw [List.foldl_cons, Effect.foldl_apply es]
    cases eff <;> rfl

theorem filterMap_of_mapM_ok {α β γ ε : Type} {f : α → Except ε β} (g : β → Option γ) :
    ∀ {l : List α} {bs : List β}, l.mapM f = .ok bs →
      bs.filterMap g = l.filterMap fun a => (f a).toOption.bind g
  | [], bs, h => by
    simp only [List.mapM_nil, pure, Except.pure, Except.ok.injEq] at h
    simp [← h]
  | a :: l, bs, h => by
    rw [List.mapM_cons] at h
    cases ha : f a with
    | error e => rw [ha] at h; cases h
    | ok b =>
      cases hl : l.mapM f with
      | error e => rw [ha, hl] at h; cases h
      | ok cs =>
        rw [ha, hl] at h
        simp only [bind, Except.bind, pure, Except.pure, Except.ok.injEq] at h
        subst h
        have ih := filterMap_of_mapM_ok g hl
        cases hg : g b <;> simp [ha, hg, Except.toOption, ih]

theorem lookup_reverse_filterMap_eq_none {γ δ : Type} (g : γ → Option (String × δ)) (f : String)
    (l : List γ) : (l.filterMap g).reverse.lookup f = none ↔ ∀ y ∈ l, ∀ c, g y ≠ some (f, c) := by
  simp only [List.lookup_eq_none_iff, List.mem_reverse, List.mem_filterMap]
  constructor
  · intro h y hy c hgy
    simpa using h (f, c) ⟨y, hy, hgy⟩
  · rintro h ⟨f', c⟩ ⟨y, hy, hgy⟩
    have hne : f' ≠ f := fun hf => h y hy c (hf ▸ hgy)
    simpa using Ne.symm hne

theorem lookup_reverse_filterMap {γ δ : Type} (g : String × γ → Option (String × δ)) (f : String) :
    ∀ {l : List (String × γ)}, SortedKeys l → ∀ b,
      (l.filterMap g).reverse.lookup f = some b ↔
        ∃ x ∈ l, g x = some (f, b) ∧ ∀ y ∈ l, ∀ c, g y = some (f, c) → y.1 ≤ x.1
  | [], _, b => by simp
  | x :: l, hl, b => by
    obtain ⟨hx, hl⟩ := List.pairwise_cons.mp hl
    have ih := lookup_reverse_filterMap g f hl
    cases hgx : g x with
    | none =>
      -- the head sends nothing to `f`, so the tail decides
      rw [List.filterMap_cons_none hgx, ih b]
      constructor
      · rintro ⟨y, hy, hgy, hmax⟩
        refine ⟨y, List.mem_cons_of_mem x hy, hgy, fun z hz c hgz => ?_⟩
        rcases List.mem_cons.mp hz with rfl | hz
        · simp [hgx] at hgz
        · exact hmax z hz c hgz
      · rintro ⟨y, hy, hgy, hmax⟩
        rcases List.mem_cons.mp hy with rfl | hy
        · simp [hgx] at hgy
        · exact ⟨y, hy, hgy, fun z hz c hgz => hmax z (List.mem_cons_of_mem x hz) c hgz⟩
    | some e =>
      obtain ⟨f', c'⟩ := e
      rw [List.filterMap_cons_some hgx, List.reverse_cons, List.lookup_append]
      cases hlast : (l.filterMap g).reverse.lookup f with
      | some b₀ =>
        -- a later entry on `f` wins over the head, and its key is greater
        obtain ⟨y₀, hy₀, hgy₀, hmax₀⟩ := (ih b₀).mp hlast
        rw [Option.some_or, Option.some.injEq]
        constructor
        · rintro rfl
          refine ⟨y₀, List.mem_cons_of_mem x hy₀, hgy₀, fun z hz c hgz => ?_⟩
          rcases List.mem_cons.mp hz with rfl | hz
          · exact (hx y₀ hy₀).le
          · exact hmax₀ z hz c hgz
        · rintro ⟨y, hy, hgy, hmax⟩
          rcases List.mem_cons.mp hy with rfl | hy
          · exact absurd (hmax y₀ (List.mem_cons_of_mem y hy₀) b₀ hgy₀) (not_le.mpr (hx y₀ hy₀))
          · have hb : (l.filterMap g).reverse.lookup f = some b :=
              (ih b).mpr ⟨y, hy, hgy, fun z hz c hgz => hmax z (List.mem_cons_of_mem x hz) c hgz⟩
            exact Option.some.inj (hlast.symm.trans hb)
      | none =>
        -- no later entry is on `f`, so the head decides
        have hno := (lookup_reverse_filterMap_eq_none g f l).mp hlast
        rw [Option.none_or]
        constructor
        · intro h
          have hf : f = f' := by
            by_contra hne
            simp [List.lookup_cons, beq_false_of_ne hne] at h
          subst hf
          obtain rfl : c' = b := by simpa using h
          refine ⟨x, List.mem_cons_self, hgx, fun z hz c hgz => ?_⟩
          rcases List.mem_cons.mp hz with rfl | hz
          · exact le_refl _
          · exact absurd hgz (hno z hz c)
        · rintro ⟨y, hy, hgy, -⟩
          rcases List.mem_cons.mp hy with rfl | hy
          · obtain ⟨rfl, rfl⟩ := Prod.mk.inj (Option.some.inj (hgx.symm.trans hgy))
            simp
          · exact absurd hgy (hno y hy b)

variable {r : Request} {o : Override}

theorem compose_eq_error_iff (e : Error) :
    compose r o = .error e ↔ ∃ l₁ kv l₂, r.params.entries = l₁ ++ kv :: l₂ ∧
      (∀ x ∈ l₁, ∀ e', ¬Rejects x e') ∧ Rejects kv e := by
  rw [compose_eq, foldlM_composeStep]
  constructor
  · intro h
    cases hm : r.params.entries.mapM effect with
    | ok es => rw [hm] at h; cases h
    | error e' =>
      rw [hm] at h
      cases h
      obtain ⟨l₁, kv, l₂, hsplit, hok, hkv⟩ := Store.mapM_error_split hm
      refine ⟨l₁, kv, l₂, hsplit, fun x hx e' hrej => ?_, effect_eq_error_iff.mp hkv⟩
      obtain ⟨eff, hx'⟩ := hok x hx
      rw [effect_eq_error_iff.mpr hrej] at hx'
      cases hx'
  · rintro ⟨l₁, kv, l₂, hsplit, hok, hkv⟩
    -- the parameters before the refused one are accepted
    have hok' : ∀ x ∈ l₁, ∃ eff, effect x = .ok eff := fun x hx => by
      cases hx' : effect x with
      | error e' => exact absurd (effect_eq_error_iff.mp hx') (hok x hx e')
      | ok eff => exact ⟨eff, rfl⟩
    rw [hsplit, Store.mapM_error_of_split hok' (effect_eq_error_iff.mpr hkv)]
    rfl

/-- A composed query accepted every parameter; its filters are their filter entries under the
pinned ones, and its order the creation time's, then the parameters' directions, then the pinned
ones. -/
theorem compose_ok_entries {spec : Spec} (h : compose r o = .ok spec) :
    (∀ kv ∈ r.params.entries, ∃ eff, effect kv = .ok eff) ∧
      spec.filters = (({} : TextMap Predicate).insertAll
        (r.params.entries.filterMap paramFilter?)).insertAll o.filters.entries ∧
      spec.order = (o.order.keys.map fun k => (k.field, k.dir)).foldl
        (fun ord a => ord.set a.1 a.2)
        ((r.params.entries.filterMap orderAssignment?).foldl (fun ord a => ord.set a.1 a.2)
          (OrderBy.set {} createdAtField r.createdAtDir)) := by
  rw [compose_eq, foldlM_composeStep] at h
  cases hm : r.params.entries.mapM effect with
  | error e => rw [hm] at h; cases h
  | ok es =>
    rw [hm] at h
    obtain rfl := (Except.ok.inj h).symm
    have horder : es.filterMap Effect.orderPair? = r.params.entries.filterMap orderAssignment? := by
      rw [filterMap_of_mapM_ok Effect.orderPair? hm]
      exact List.filterMap_congr fun kv _ => (orderAssignment?_eq kv).symm
    refine ⟨Store.mapM_ok_iff.mp ⟨es, hm⟩, ?_, ?_⟩
    · simp only [Effect.foldl_apply, filterMap_of_mapM_ok Effect.filterPair? hm]
      rfl
    · simp only [Effect.foldl_apply, horder, List.foldl_map]

/-- The filter a composed query keeps on a field: the pinned one, else the last one the
parameters put there. -/
theorem compose_filter? {spec : Spec} (h : compose r o = .ok spec)
    (f : String) :
    spec.filter? f = (o.filters.get? f).or ((r.params.entries.filterMap paramFilter?).reverse.lookup f) := by
  unfold Spec.filter?
  rw [(compose_ok_entries h).2.1, get?_insertAll, get?_insertAll, ← get?_eq_lookup_reverse,
    get?_empty, Option.or_none]

theorem paramFilter?_last_iff {l : List (String × String)}
    (hacc : ∀ kv ∈ l, ∃ eff, effect kv = .ok eff) {kv : String × String} (hkv : kv ∈ l)
    (f : String) (p : Predicate) :
    (paramFilter? kv = some (f, p) ∧ ∀ y ∈ l, ∀ c, paramFilter? y = some (f, c) → y.1 ≤ kv.1) ↔
      FiltersField kv.1 f ∧ (∀ y ∈ l, FiltersField y.1 f → y.1 ≤ kv.1) ∧ Builds kv p := by
  obtain ⟨eff, heff⟩ := hacc kv hkv
  -- an accepted parameter has a filter entry on `f` exactly when it is a `where__` key on `f`
  have hmax : (∀ y ∈ l, ∀ c, paramFilter? y = some (f, c) → y.1 ≤ kv.1) ↔
      ∀ y ∈ l, FiltersField y.1 f → y.1 ≤ kv.1 := by
    refine forall₂_congr fun y hy => ?_
    obtain ⟨effy, heffy⟩ := hacc y hy
    rw [← exists_paramFilter?_iff heffy, forall_exists_index]
  rw [paramFilter?_eq_some_iff heff, hmax]
  tauto

/-- The filter of a composed query on a field: the pinned predicate, or else the predicate that
the greatest `where__` key on the field builds. -/
theorem compose_filter?_eq_some_iff {spec : Spec}
    (h : compose r o = .ok spec) (f : String) (p : Predicate) :
    spec.filter? f = some p ↔ o.filters.get? f = some p ∨
      o.filters.get? f = none ∧ ∃ kv ∈ r.params.entries, FiltersField kv.1 f ∧
        (∀ kv' ∈ r.params.entries, FiltersField kv'.1 f → kv'.1 ≤ kv.1) ∧ Builds kv p := by
  have hacc := (compose_ok_entries h).1
  rw [compose_filter? h, Option.or_eq_some_iff, lookup_reverse_filterMap _ _ r.params.sorted]
  constructor
  · rintro (hpin | ⟨hnone, kv, hkv, hk⟩)
    · exact .inl hpin
    · exact .inr ⟨hnone, kv, hkv, (paramFilter?_last_iff hacc hkv f p).mp hk⟩
  · rintro (hpin | ⟨hnone, kv, hkv, hk⟩)
    · exact .inl hpin
    · exact .inr ⟨hnone, kv, hkv, (paramFilter?_last_iff hacc hkv f p).mpr hk⟩

/-- The order of a composed query: the creation time's direction, then the directions the
parameters assign, then the pinned ones. -/
theorem compose_order_eq {spec : Spec} (h : compose r o = .ok spec) :
    spec.order = OrderBy.ofAssignments ((createdAtField, r.createdAtDir) ::
      r.params.entries.filterMap orderAssignment? ++ o.order.keys.map fun k => (k.field, k.dir)) := by
  rw [(compose_ok_entries h).2.2, OrderBy.set_empty, OrderBy.foldl_set_ofAssignments,
    OrderBy.foldl_set_ofAssignments]
  rfl

/-- Composition read as the reference reads it. Visiting the parameters in key order, it fails
exactly when one is refused, with the refusal of the first. When it succeeds, a field is filtered
by its pinned predicate, or else by the predicate that the greatest `where__` key on the field
builds; the order names the creation time, the `order__` fields and the pinned fields once each,
where first assigned, in the direction last assigned; page size and offset are the request's. -/
theorem compose_matches_reference :
    (∀ e, compose r o = .error e ↔ ∃ l₁ kv l₂, r.params.entries = l₁ ++ kv :: l₂ ∧
        (∀ x ∈ l₁, ∀ e', ¬Rejects x e') ∧ Rejects kv e) ∧
      ∀ spec, compose r o = .ok spec →
        (∀ f p, spec.filter? f = some p ↔ o.filters.get? f = some p ∨
          o.filters.get? f = none ∧ ∃ kv ∈ r.params.entries, FiltersField kv.1 f ∧
            (∀ kv' ∈ r.params.entries, FiltersField kv'.1 f → kv'.1 ≤ kv.1) ∧ Builds kv p) ∧
        spec.order = OrderBy.ofAssignments ((createdAtField, r.createdAtDir) ::
          r.params.entries.filterMap orderAssignment? ++
            o.order.keys.map fun k => (k.field, k.dir)) ∧
        spec.limit = r.take ∧ spec.offset = r.offset :=
  ⟨compose_eq_error_iff, fun _ h =>
    ⟨compose_filter?_eq_some_iff h, compose_order_eq h, compose_limit_offset h⟩⟩

/-- Of two filters on `id`, the one of the greater key holds: `where__id__more_than` is read
after `where__id__in`. The title's direction follows the creation time's. -/
theorem compose_matches_reference_later_id_filter :
    (∃ spec, compose { params := ⟨[("order__title", "DESC"), ("where__id__in", "1,2"),
        ("where__id__more_than", "1")], by decide⟩ } {} = .ok spec) ∧
      ∀ spec, compose { params := ⟨[("order__title", "DESC"), ("where__id__in", "1,2"),
          ("where__id__more_than", "1")], by decide⟩ } {} = .ok spec →
        spec.filter? "id" = some ⟨"id", .gt, ["1"]⟩ ∧
          spec.order = ⟨[⟨"createdAt", .asc⟩, ⟨"title", .desc⟩]⟩ := by
  have hkey : Key.parse "where__id__more_than" = .ok ⟨"where", "id", some "more_than"⟩ := by
    decide
  have hfield : FiltersField "where__id__more_than" "id" := ⟨by decide +kernel, _, hkey, rfl⟩
  have hbuilds : Builds ("where__id__more_than", "1") ⟨"id", .gt, ["1"]⟩ :=
    ⟨by decide +kernel, _, .gt, hkey, by decide, by decide⟩
  obtain ⟨-, hok⟩ := @compose_matches_reference { params := ⟨[("order__title", "DESC"),
    ("where__id__in", "1,2"), ("where__id__more_than", "1")], by decide⟩ } {}
  refine ⟨⟨⟨⟨[("id", ⟨"id", .gt, ["1"]⟩)], by decide⟩, ⟨[⟨"createdAt", .asc⟩, ⟨"title", .desc⟩]⟩,
    20, none⟩, by decide +kernel⟩, fun spec h => ?_⟩
  obtain ⟨hfilter, horder, -⟩ := hok spec h
  refine ⟨(hfilter "id" _).mpr (.inr ⟨rfl, _, by simp, hfield, fun kv hkv _ => ?_, hbuilds⟩), ?_⟩
  · simp only [List.mem_cons, List.not_mem_nil, or_false] at hkv
    rcases hkv with rfl | rfl | rfl <;> decide
  · rw [horder]
    decide +kernel

end Parameters

end Folio
