import Folio.Proofs.Compose.Reference
import Folio.Sql.Condition
import Folio.Store.Repository
import Mathlib

open Folio.Filter Folio.TextMap

namespace Folio

theorem Operator.build_accepts {op : Operator} {field raw : String} {p : Predicate}
    (h : op.build field raw = .ok p) : p.operator.arity.accepts p.values.length := by
  unfold Operator.build at h
  dsimp only at h
  split at h
  · obtain rfl := Except.ok.inj h
    -- wrapping a pattern in `%` keeps the number of values
    split_ifs <;> simpa
  · cases h

theorem mem_values_insert {β : Type} {m : TextMap β} {k : String} {v p : β}
    (h : p ∈ (m.insert k v).values) : p = v ∨ p ∈ m.values := by
  obtain ⟨e, he, rfl⟩ := List.mem_map.mp h
  rcases mem_insertEntry he with rfl | he
  · exact .inl rfl
  · exact .inr (List.mem_map_of_mem he)

theorem mem_values_insertAll {β : Type} {m : TextMap β} {p : β} :
    ∀ {l : List (String × β)}, p ∈ (m.insertAll l).values → p ∈ m.values ∨ ∃ e ∈ l, p = e.2
  | [], h => .inl h
  | e :: l, h => by
    rw [insertAll, List.foldl_cons, ← insertAll] at h
    rcases mem_values_insertAll h with h | ⟨e', he', rfl⟩
    · rcases mem_values_insert h with rfl | h
      · exact .inr ⟨e, List.mem_cons_self, rfl⟩
      · exact .inl h
    · exact .inr ⟨e', List.mem_cons_of_mem e he', rfl⟩

/-- Every filter of a composed query has a value count its operator accepts, when every pinned
filter has one. -/
theorem compose_filters_accept {r : Request} {o : Override} {spec : Spec}
    (ho : ∀ p ∈ o.filters.values, p.operator.arity.accepts p.values.length)
    (h : compose r o = .ok spec) :
    ∀ p ∈ spec.filters.values, p.operator.arity.accepts p.values.length := by
  obtain ⟨acc, hacc, rfl⟩ := compose_ok h
  -- the parameters only insert the predicates they build
  have hparams : ∀ p ∈ acc.1.values, p.operator.arity.accepts p.values.length := by
    refine foldlM_composeStep_inv (fun acc => ∀ p ∈ acc.1.values,
      p.operator.arity.accepts p.values.length) (fun kv _ eff heff acc hP => ?_)
      (fun p hp => by simp [values] at hp) hacc
    cases eff with
    | skip => exact hP
    | filter q =>
      obtain ⟨-, k, op, -, -, hq⟩ := effect_eq_filter_iff.mp heff
      intro p hp
      rcases mem_values_insert hp with rfl | hp
      · exact Operator.build_accepts hq
      · exact hP p hp
    | order f d => exact hP
  intro p hp
  rcases mem_values_insertAll hp with hp | ⟨e, he, rfl⟩
  · exact hparams p hp
  · exact ho e.2 (List.mem_map_of_mem he)

namespace Sql

theorem resolve_error {m : FieldMap} {name : String} {e : Error} (h : m.resolve name = .error e) :
    e = .unknownField name := by
  unfold FieldMap.resolve at h
  split at h
  · cases h
  · exact (Except.error.inj h).symm

theorem coerce_error {k : Field.Kind} {field raw : String} {e : Error}
    (h : k.coerce field raw = .error e) : e = .typeMismatch field raw k := by
  unfold Field.Kind.coerce at h
  dsimp only at h
  split at h <;> (try split at h) <;> first | exact (Except.error.inj h).symm | cases h

section Compile

variable {m : FieldMap} {p : Predicate}

theorem compile_match_of_accepts {n : String} {vs : List Field.Value}
    (h : p.operator.arity.accepts vs.length) (hl : p.operator ≠ .like) :
    ∃ a, a ≠ .never ∧ (match Operator.comparison? p.operator, p.operator, vs with
      | some cmp, _, [v] => pure (Atom.compare n cmp v)
      | _, .between, [lo, hi] => pure (Atom.between n lo hi)
      | _, .oneOf, [] => pure Atom.never
      | _, .oneOf, _ => pure (Atom.oneOf n vs)
      | _, _, _ => Except.error (Error.valueShape p.operator p.operator.arity vs.length) :
        Except Error Atom) = .ok a := by
  cases hop : p.operator <;> rw [hop] at h hl <;>
    simp only [Operator.arity, Arity.accepts, beq_iff_eq, decide_eq_true_eq] at h
  case like => exact absurd rfl hl
  case between =>
    match vs, h with
    | [lo, hi], _ => exact ⟨_, by simp, rfl⟩
  case oneOf =>
    match vs, h with
    | v :: rest, _ => exact ⟨_, by simp, rfl⟩
  all_goals
    match vs, h with
    | [v], _ => exact ⟨_, by simp, rfl⟩

theorem compile_of_accepts (h : p.operator.arity.accepts p.values.length) :
    (∃ a, a ≠ .never ∧ compile m p = .ok a) ∨ compile m p = .error (.unknownField p.field) ∨
      ∃ v k, compile m p = .error (.typeMismatch p.field v k) := by
  unfold compile
  cases hr : m.resolve p.field with
  | error e =>
    rw [resolve_error hr]
    exact .inr (.inl rfl)
  | ok c =>
    simp only [bind, Except.bind]
    by_cases hl : p.operator = .like
    · -- a pattern fails only on a column that holds no text
      rw [if_pos hl]
      by_cases hk : c.kind = .text
      · rw [if_neg (not_not.mpr hk)]
        exact .inl ⟨_, by simp, rfl⟩
      · rw [if_pos hk]
        exact .inr (.inr ⟨_, _, rfl⟩)
    · rw [if_neg hl]
      cases hv : p.values.mapM (c.kind.coerce p.field) with
      | error e =>
        obtain ⟨-, x, -, -, -, hx⟩ := Store.mapM_error_split hv
        rw [coerce_error hx]
        exact .inr (.inr ⟨x, c.kind, rfl⟩)
      | ok vs =>
        -- the literals are as many as the values, so the count check is never reached
        rw [← Store.length_of_mapM_ok hv] at h
        exact .inl (compile_match_of_accepts (n := c.name) h hl)

theorem compile_error_of_accepts (h : p.operator.arity.accepts p.values.length) {e : Error}
    (hc : compile m p = .error e) :
    e = .unknownField p.field ∨ ∃ v k, e = .typeMismatch p.field v k := by
  rcases compile_of_accepts (m := m) h with ⟨a, -, ha⟩ | he | ⟨v, k, he⟩
  · exact absurd (hc.symm.trans ha) (by simp)
  · exact .inl (Except.error.inj (hc.symm.trans he))
  · exact .inr ⟨v, k, Except.error.inj (hc.symm.trans he)⟩

theorem compile_ne_never (h : p.operator.arity.accepts p.values.length) :
    compile m p ≠ .ok .never := by
  intro hc
  rcases compile_of_accepts (m := m) h with ⟨a, hne, ha⟩ | he | ⟨v, k, he⟩
  · exact hne (Except.ok.inj (hc.symm.trans ha)).symm
  · exact absurd (hc.symm.trans he) (by simp)
  · exact absurd (hc.symm.trans he) (by simp)

end Compile

end Sql

theorem values_of_between {p : Predicate} (hb : p.operator = .between)
    (h : p.operator.arity.accepts p.values.length) : ∃ lo hi, p.values = [lo, hi] := by
  rw [hb] at h
  simp only [Operator.arity, Arity.accepts, beq_iff_eq] at h
  match hv : p.values, h with
  | [lo, hi], _ => exact ⟨lo, hi, rfl⟩

/-- In memory, a range with two bounds compares the value with both of them: with the lower
one for being no less, with the upper one for being no greater. -/
theorem Store.satisfies_between {α : Type} [Store.Row α] (row : α) {p : Predicate}
    {lo hi : String} (hb : p.operator = .between) (hv : p.values = [lo, hi]) :
    Store.satisfies row p = (do
      let actual ← Store.lookup row p.field
      let l ← actual.kind.coerce p.field lo
      let u ← actual.kind.coerce p.field hi
      pure (actual != .null && actual.compare l != .lt && actual.compare u != .gt)) := by
  unfold Store.satisfies
  cases Store.lookup row p.field with
  | error e => rfl
  | ok actual =>
    simp only [hb, hv, bind, Except.bind, reduceCtorEq, if_false, List.mapM_cons, List.mapM_nil]
    cases actual.kind.coerce p.field lo with
    | error e => rfl
    | ok l =>
      cases actual.kind.coerce p.field hi with
      | error e => rfl
      | ok u =>
        by_cases hn : actual = .null
        · simp [hn, pure, Except.pure]
        · have hne : (actual != .null) = true := bne_iff_ne.mpr hn
          simp [hn, hne, pure, Except.pure, Store.verdict]

/-- Every filter of a composed query has a value count its operator accepts, when every pinned
filter has one. So the database compiles it without meeting the count check (a failure names
its field or one of its literals) and never to membership in no value, and the in-memory store
compares the value of a range with both of its bounds. -/
theorem compose_predicates_valid_count {r : Request} {o : Override} {spec : Spec}
    (ho : ∀ p ∈ o.filters.values, p.operator.arity.accepts p.values.length)
    (h : compose r o = .ok spec) :
    ∀ p ∈ spec.filters.values, p.operator.arity.accepts p.values.length ∧
      (∀ (m : Sql.FieldMap) (op : Operator) (a : Arity) (n : Nat),
        Sql.compile m p ≠ .error (.valueShape op a n)) ∧
      (∀ m : Sql.FieldMap, Sql.compile m p ≠ .ok .never) ∧
      (p.operator = .between → ∃ lo hi, p.values = [lo, hi] ∧
        ∀ {α : Type} [Store.Row α] (row : α), Store.satisfies row p = (do
          let actual ← Store.lookup row p.field
          let l ← actual.kind.coerce p.field lo
          let u ← actual.kind.coerce p.field hi
          pure (actual != .null && actual.compare l != .lt && actual.compare u != .gt))) := by
  intro p hp
  have hacc := compose_filters_accept ho h p hp
  refine ⟨hacc, fun m op a n hc => ?_, fun m => Sql.compile_ne_never hacc, fun hb => ?_⟩
  · rcases Sql.compile_error_of_accepts hacc hc with he | ⟨v, k, he⟩ <;> cases he
  · obtain ⟨lo, hi, hv⟩ := values_of_between hb hacc
    exact ⟨lo, hi, hv, fun row => Store.satisfies_between row hb hv⟩

/-- A range given by the request and an equality pinned by the resource both compose to filters
of the right shape: the range has its two bounds. -/
theorem compose_predicates_valid_count_range :
    (∀ p ∈ (({} : Override).pin ⟨"authorId", .eq, ["1"]⟩).filters.values,
        p.operator.arity.accepts p.values.length) ∧
      compose { params := ⟨[("where__likeCount__between", "1, 3")], by decide⟩ }
        (({} : Override).pin ⟨"authorId", .eq, ["1"]⟩) =
        .ok ⟨⟨[("authorId", ⟨"authorId", .eq, ["1"]⟩),
          ("likeCount", ⟨"likeCount", .between, ["1", "3"]⟩)], by decide⟩, ⟨[⟨"createdAt", .asc⟩]⟩, 20, none⟩ ∧
      ∃ lo hi, (⟨"likeCount", .between, ["1", "3"]⟩ : Predicate).values = [lo, hi] := by
  have ho : ∀ p ∈ (({} : Override).pin ⟨"authorId", .eq, ["1"]⟩).filters.values,
      p.operator.arity.accepts p.values.length := by decide
  have hc : compose { params := ⟨[("where__likeCount__between", "1, 3")], by decide⟩ }
      (({} : Override).pin ⟨"authorId", .eq, ["1"]⟩) =
      .ok ⟨⟨[("authorId", ⟨"authorId", .eq, ["1"]⟩),
        ("likeCount", ⟨"likeCount", .between, ["1", "3"]⟩)], by decide⟩, ⟨[⟨"createdAt", .asc⟩]⟩, 20, none⟩ := by
    decide +kernel
  obtain ⟨lo, hi, hv, -⟩ := (compose_predicates_valid_count ho hc
    ⟨"likeCount", .between, ["1", "3"]⟩ (by decide)).2.2.2 rfl
  exact ⟨ho, hc, lo, hi, hv⟩

end Folio
