import Folio.Store.Repository
import Folio.Store.Record
import Folio.Proofs.Text.Decimal
import Folio.Proofs.Compose
import Mathlib

namespace Folio

def SortDir.Precedes : SortDir → Int → Int → Prop
  | .asc, a, b => a < b
  | .desc, a, b => b < a

instance : (d : SortDir) → (a b : Int) → Decidable (d.Precedes a b)
  | .asc, a, b => inferInstanceAs (Decidable (a < b))
  | .desc, a, b => inferInstanceAs (Decidable (b < a))

theorem SortDir.precedes_irrefl (d : SortDir) (a : Int) : ¬d.Precedes a a := by
  cases d <;> simp [SortDir.Precedes]

theorem SortDir.precedes_asymm {d : SortDir} {a b : Int}
    (h : d.Precedes a b) : ¬d.Precedes b a := by
  cases d <;> simp only [SortDir.Precedes] at h ⊢ <;> omega

theorem SortDir.precedes_trans {d : SortDir} {a b c : Int} (h₁ : d.Precedes a b)
    (h₂ : d.Precedes b c) : d.Precedes a c := by
  cases d <;> simp only [SortDir.Precedes] at h₁ h₂ ⊢ <;> omega

theorem SortDir.precedes_or {d : SortDir} {a b : Int} (h : a ≠ b) :
    d.Precedes a b ∨ d.Precedes b a := by
  cases d <;> simp only [SortDir.Precedes] <;> omega

theorem Time.Instant.compare_self (t : Time.Instant) : t.compare t = .eq := by
  simp [Time.Instant.compare]

theorem Time.Instant.compare_swap (a b : Time.Instant) : (a.compare b).swap = b.compare a := by
  unfold Time.Instant.compare
  rw [← Int.compare_swap a.seconds b.seconds]
  cases Ord.compare a.seconds b.seconds <;> simp [Nat.compare_swap]

theorem Field.Value.compare_self (v : Field.Value) : v.compare v = .eq := by
  cases v with
  | null => rfl
  | bool b => cases b <;> rfl
  | int i => simp [Field.Value.compare]
  | text s => simp [Field.Value.compare]
  | time t => exact Time.Instant.compare_self t

end Folio

open Folio.Filter

namespace Folio.Store

section Validation

theorem mapM_ok_iff {α β ε : Type} {f : α → Except ε β} {l : List α} :
    (∃ ys, l.mapM f = .ok ys) ↔ ∀ a ∈ l, ∃ b, f a = .ok b := by
  induction l with
  | nil => simp [pure, Except.pure]
  | cons a l ih =>
    simp only [List.mapM_cons, List.mem_cons, forall_eq_or_imp]
    constructor
    · rintro ⟨ys, h⟩
      cases ha : f a with
      | error e => simp [ha, bind, Except.bind] at h
      | ok b =>
        cases hl : l.mapM f with
        | error e => simp [ha, hl, bind, Except.bind] at h
        | ok zs => exact ⟨⟨b, rfl⟩, ih.mp ⟨zs, hl⟩⟩
    · rintro ⟨⟨b, ha⟩, hl⟩
      obtain ⟨zs, hzs⟩ := ih.mpr hl
      exact ⟨b :: zs, by simp [ha, hzs, bind, Except.bind, pure, Except.pure]⟩

theorem mapM_pair {α β ε : Type} {g : α → Except ε β} :
    ∀ {l : List α} {ys : List (β × α)},
      l.mapM (fun a => do let b ← g a; pure (b, a)) = .ok ys →
        ys.map (·.2) = l ∧ ∀ y ∈ ys, g y.2 = .ok y.1
  | [], ys, h => by
    simp only [List.mapM_nil, pure, Except.pure, Except.ok.injEq] at h
    simp [← h]
  | a :: l, ys, h => by
    cases ha : g a with
    | error e => simp [List.mapM_cons, ha, bind, Except.bind] at h
    | ok b =>
      cases hl : l.mapM (fun a => do let b ← g a; pure (b, a)) with
      | error e =>
        rw [List.mapM_cons, ha, hl] at h
        simp [bind, Except.bind, pure, Except.pure] at h
      | ok zs =>
        rw [List.mapM_cons, ha, hl] at h
        simp only [bind, Except.bind, pure, Except.pure, Except.ok.injEq] at h
        subst h
        obtain ⟨hmap, hval⟩ := mapM_pair hl
        refine ⟨by simp [hmap], ?_⟩
        simp only [List.mem_cons, forall_eq_or_imp]
        exact ⟨ha, hval⟩

theorem mem_of_mapM_ok {α β ε : Type} {f : α → Except ε β} :
    ∀ {l : List α} {ys : List β}, l.mapM f = .ok ys → ∀ y ∈ ys, ∃ x ∈ l, f x = .ok y
  | [], ys, h => by
    simp only [List.mapM_nil, pure, Except.pure, Except.ok.injEq] at h
    simp [← h]
  | a :: l, ys, h => by
    rw [List.mapM_cons] at h
    cases ha : f a with
    | error e => rw [ha] at h; cases h
    | ok b =>
      cases hl : l.mapM f with
      | error e => rw [ha, hl] at h; cases h
      | ok zs =>
        rw [ha, hl] at h
        simp only [bind, Except.bind, pure, Except.pure, Except.ok.injEq] at h
        subst h
        intro y hy
        rcases List.mem_cons.mp hy with rfl | hy
        · exact ⟨a, List.mem_cons_self, ha⟩
        · obtain ⟨x, hx, hfx⟩ := mem_of_mapM_ok hl y hy
          exact ⟨x, List.mem_cons_of_mem a hx, hfx⟩

theorem length_of_mapM_ok {α β ε : Type} {f : α → Except ε β} :
    ∀ {l : List α} {ys : List β}, l.mapM f = .ok ys → ys.length = l.length
  | [], ys, h => by
    simp only [List.mapM_nil, pure, Except.pure, Except.ok.injEq] at h
    simp [← h]
  | a :: l, ys, h => by
    rw [List.mapM_cons] at h
    cases ha : f a with
    | error e => rw [ha] at h; cases h
    | ok b =>
      cases hl : l.mapM f with
      | error e => rw [ha, hl] at h; cases h
      | ok zs =>
        rw [ha, hl] at h
        simp only [bind, Except.bind, pure, Except.pure, Except.ok.injEq] at h
        subst h
        simp [length_of_mapM_ok hl]

theorem mapM_error_split {α β ε : Type} {f : α → Except ε β} {e : ε} :
    ∀ {l : List α}, l.mapM f = .error e →
      ∃ l₁ x l₂, l = l₁ ++ x :: l₂ ∧ (∀ y ∈ l₁, ∃ b, f y = .ok b) ∧ f x = .error e
  | [], h => by cases h
  | a :: l, h => by
    rw [List.mapM_cons] at h
    cases ha : f a with
    | error e' =>
      rw [ha] at h
      cases h
      exact ⟨[], a, l, rfl, by simp, ha⟩
    | ok b =>
      cases hl : l.mapM f with
      | error e' =>
        rw [ha, hl] at h
        cases h
        obtain ⟨l₁, x, l₂, rfl, hok, hx⟩ := mapM_error_split hl
        refine ⟨a :: l₁, x, l₂, rfl, ?_, hx⟩
        simp only [List.mem_cons, forall_eq_or_imp]
        exact ⟨⟨b, ha⟩, hok⟩
      | ok zs => rw [ha, hl] at h; cases h

theorem mapM_error_of_split {α β ε : Type} {f : α → Except ε β} {e : ε} {x : α} {l₂ : List α} :
    ∀ {l₁ : List α}, (∀ y ∈ l₁, ∃ b, f y = .ok b) → f x = .error e → (l₁ ++ x :: l₂).mapM f = .error e
  | [], _, hx => by
    rw [List.nil_append, List.mapM_cons, hx]
    rfl
  | a :: l₁, hok, hx => by
    obtain ⟨b, hb⟩ := hok a List.mem_cons_self
    rw [List.cons_append, List.mapM_cons, hb,
      mapM_error_of_split (fun y hy => hok y (List.mem_cons_of_mem a hy)) hx]
    rfl

end Validation

variable {α : Type} [Row α]

section Keep

theorem passes_insert {row : α} {q : Predicate} {c : Bool} (hq : satisfies row q = .ok c)
    (l₂ : List Predicate) :
    ∀ (l₁ : List Predicate) {b : Bool}, passes row (l₁ ++ l₂) = .ok b →
      passes row (l₁ ++ q :: l₂) = .ok (b && c) := by
  intro l₁
  induction l₁ with
  | nil =>
    intro b h
    rw [List.nil_append] at h
    cases c <;> simp [passes, hq, h, bind, Except.bind, pure, Except.pure]
  | cons p l₁ ih =>
    intro b h
    simp only [List.cons_append, passes] at h ⊢
    cases hp : satisfies row p with
    | error e => simp [hp, bind, Except.bind] at h
    | ok v =>
      cases v with
      | true =>
        simp only [hp, bind, Except.bind, if_true] at h ⊢
        exact ih h
      | false =>
        simp only [hp, bind, Except.bind, pure, Except.pure, Except.ok.injEq, Bool.false_eq_true,
          if_false] at h ⊢
        simp [← h]

theorem keep_insert {q : Predicate} {P : α → Bool} (l₁ l₂ : List Predicate) :
    ∀ {rows T : List α}, (∀ row ∈ rows, satisfies row q = .ok (P row)) →
      keep (l₁ ++ l₂) rows = .ok T → keep (l₁ ++ q :: l₂) rows = .ok (T.filter P) := by
  intro rows
  induction rows with
  | nil =>
    intro T _ h
    simp only [keep, Except.ok.injEq] at h
    simp [← h, keep]
  | cons row rows ih =>
    intro T hq h
    simp only [keep] at h ⊢
    cases hp : passes row (l₁ ++ l₂) with
    | error e => simp [hp, bind, Except.bind] at h
    | ok b =>
      cases hk : keep (l₁ ++ l₂) rows with
      | error e => simp [hp, hk, bind, Except.bind] at h
      | ok rest =>
        simp only [hp, hk, bind, Except.bind, pure, Except.pure, Except.ok.injEq] at h
        subst h
        have hrow := passes_insert (hq row List.mem_cons_self) l₂ l₁ hp
        have hrest := ih (fun r hr => hq r (List.mem_cons_of_mem _ hr)) hk
        simp only [hrow, hrest, bind, Except.bind, pure, Except.pure]
        cases b <;> cases hP : P row <;> simp [hP]

theorem keep_sublist {ps : List Predicate} :
    ∀ {rows T : List α}, keep ps rows = .ok T → T.Sublist rows := by
  intro rows
  induction rows with
  | nil =>
    intro T h
    simp only [keep, Except.ok.injEq] at h
    simp [← h]
  | cons row rows ih =>
    intro T h
    simp only [keep] at h
    cases hp : passes row ps with
    | error e => simp [hp, bind, Except.bind] at h
    | ok b =>
      cases hk : keep ps rows with
      | error e => simp [hp, hk, bind, Except.bind] at h
      | ok rest =>
        simp only [hp, hk, bind, Except.bind, pure, Except.pure, Except.ok.injEq] at h
        subst h
        cases b
        · exact (ih hk).cons row
        · exact (ih hk).cons_cons row

end Keep

section Boundary

theorem lookup_createdAt (row : α) :
    lookup row createdAtField = .ok (.time (Row.createdAt row)) := by
  simp [lookup, Text.eqIgnoreAsciiCase_refl]

theorem lookup_id (p : Post) : lookup p "id" = .ok (.int p.id) := rfl

theorem satisfies_boundary (d : SortDir) (p : Post) {x : Int} (h₁ : Text.Decimal.i64Min ≤ x)
    (h₂ : x ≤ Text.Decimal.i64Max) :
    satisfies p (d.boundary (toString x)) = .ok (decide (d.Precedes x p.id)) := by
  -- the boundary's literal is the id's decimal text, which reads back as the id
  have hcoerce : Field.Kind.integer.coerce "id" x.repr = .ok (.int x) := by
    simp only [Field.Kind.coerce]
    rw [← Int.toString_eq_repr, Text.trim_toString_int, Text.Decimal.i64?_toString h₁ h₂]
  cases d <;>
    simp [satisfies, SortDir.boundary, lookup_id, Field.Value.kind, hcoerce, verdict,
      Field.Value.compare, bind, Except.bind, pure, Except.pure] <;>
    rw [Bool.eq_iff_iff, beq_iff_eq, decide_eq_true_iff]
  exacts [Int.compare_eq_gt, Int.compare_eq_lt]

end Boundary

section Sorting

/-- Rows in the id order of a direction, equal ids side by side. -/
def idLe (d : SortDir) (a b : α) : Bool := decide (¬d.Precedes (Row.id b) (Row.id a))

theorem idLe_trans (d : SortDir) (a b c : α) (h₁ : idLe d a b) (h₂ : idLe d b c) : idLe d a c := by
  simp only [idLe, decide_eq_true_eq] at *
  cases d <;> simp only [SortDir.Precedes] at * <;> omega

theorem idLe_total (d : SortDir) (a b : α) : (idLe d a b || idLe d b a) = true := by
  simp only [idLe, Bool.or_eq_true, decide_eq_true_eq]
  cases d <;> simp only [SortDir.Precedes] <;> omega

theorem eq_of_id_eq {T : List α} (hids : T.Pairwise fun a b => Row.id a ≠ Row.id b) {a b : α}
    (ha : a ∈ T) (hb : b ∈ T) (h : Row.id a = Row.id b) : a = b := by
  have : Std.Symm fun a b : α => Row.id a ≠ Row.id b := ⟨fun _ _ h => Ne.symm h⟩
  by_contra hne
  exact hids.forall ha hb hne h

theorem pairwise_mergeSort_idLe (d : SortDir) {T : List α}
    (hids : T.Pairwise fun a b => Row.id a ≠ Row.id b) :
    (T.mergeSort (idLe d)).Pairwise fun a b => d.Precedes (Row.id a) (Row.id b) := by
  have hp : (T.mergeSort (idLe d)).Perm T := List.mergeSort_perm _ _
  have hle := List.pairwise_mergeSort (idLe_trans d) (idLe_total d) T
  have hne : (T.mergeSort (idLe d)).Pairwise fun a b => Row.id a ≠ Row.id b :=
    (hp.pairwise_iff fun h => Ne.symm h).mpr hids
  exact (hle.and hne).imp fun ⟨h₁, h₂⟩ =>
    (SortDir.precedes_or h₂).resolve_right (by simpa [idLe] using h₁)

theorem mergeSort_idLe {d : SortDir} {T L : List α}
    (hids : T.Pairwise fun a b => Row.id a ≠ Row.id b)
    (hperm : L.Perm T) (hsorted : L.Pairwise fun a b => d.Precedes (Row.id a) (Row.id b)) :
    T.mergeSort (idLe d) = L :=
  List.Perm.eq_of_pairwise (fun _ _ _ _ h₁ h₂ => absurd h₂ (SortDir.precedes_asymm h₁))
    (pairwise_mergeSort_idLe d hids) hsorted ((List.mergeSort_perm _ _).trans hperm.symm)

theorem compareKeys_self (ks : List OrderKey)
    (vs : List Field.Value) : compareKeys ks vs vs = .eq := by
  induction vs generalizing ks with
  | nil => cases ks <;> rfl
  | cons v vs ih =>
    cases ks with
    | nil => rfl
    | cons k ks => cases h : k.dir <;> simp [compareKeys, Field.Value.compare_self, h, ih]

theorem compareKeys_createdAt {d : SortDir} {ks : List OrderKey} {a b : α}
    {as bs : List Field.Value} (heq : Row.id a = Row.id b → a = b ∧ as = bs)
    (hlt : Row.id a < Row.id b → (Row.createdAt a).compare (Row.createdAt b) = .lt)
    (hgt : Row.id b < Row.id a → (Row.createdAt b).compare (Row.createdAt a) = .lt) :
    (compareKeys (⟨createdAtField, d⟩ :: ks) (.time (Row.createdAt a) :: as)
      (.time (Row.createdAt b) :: bs) != .gt) = idLe d a b := by
  rcases lt_trichotomy (Row.id a) (Row.id b) with h | h | h
  · cases d <;> simp [compareKeys, Field.Value.compare, hlt h, idLe, SortDir.Precedes, h, lt_asymm h]
  · obtain ⟨rfl, rfl⟩ := heq h
    simp [compareKeys_self, idLe, SortDir.precedes_irrefl]
  · have hc : (Row.createdAt a).compare (Row.createdAt b) = .gt := by
      rw [← Time.Instant.compare_swap, hgt h]; rfl
    cases d <;> simp [compareKeys, Field.Value.compare, hc, idLe, SortDir.Precedes, h, lt_asymm h]

theorem ensureTiebreaker_keys {o : OrderBy} {d : SortDir} {ks : List OrderKey}
    (h : o.keys = ⟨createdAtField, d⟩ :: ks) (f : String) (d' : SortDir) :
    ∃ ks', (o.ensureTiebreaker f d').keys = ⟨createdAtField, d⟩ :: ks' := by
  unfold OrderBy.ensureTiebreaker
  split_ifs
  · exact ⟨ks ++ [⟨f, d'⟩], by simp [h]⟩
  · exact ⟨ks, h⟩

theorem lookup_of_select {rows T : List α} {spec : Spec} {res : List α × Nat}
    (h : select rows spec = .ok res) (hkeep : keep spec.filters.values rows = .ok T) :
    ∀ row ∈ T, ∀ k ∈ (spec.order.ensureTiebreaker tiebreakerField spec.order.primaryDir).keys,
      ∃ v, lookup row k.field = .ok v := by
  intro row hrow k hk
  unfold select at h
  simp only [hkeep, bind, Except.bind] at h
  split at h
  · cases h
  · next keyed hkeyed =>
    obtain ⟨b, hb⟩ := mapM_ok_iff.mp ⟨keyed, hkeyed⟩ row hrow
    split at hb
    · cases hb
    · next vs hvs => exact mapM_ok_iff.mp ⟨vs, hvs⟩ k hk

/-- A select whose order starts with the creation time, over rows whose creation times follow
their ids: the kept rows in the id order of that direction, sliced, and how many were kept. -/
theorem select_of_sorted {rows T L : List α} {spec : Spec} {d : SortDir} {ks : List OrderKey}
    (hkeep : keep spec.filters.values rows = .ok T)
    (horder : spec.order.keys = ⟨createdAtField, d⟩ :: ks)
    (hlookup : ∀ row ∈ T, ∀ k ∈ (spec.order.ensureTiebreaker tiebreakerField d).keys,
      ∃ v, lookup row k.field = .ok v)
    (hids : T.Pairwise fun a b => Row.id a ≠ Row.id b)
    (htime : ∀ a ∈ T, ∀ b ∈ T, Row.id a < Row.id b →
      (Row.createdAt a).compare (Row.createdAt b) = .lt)
    (hperm : L.Perm T) (hsorted : L.Pairwise fun a b => d.Precedes (Row.id a) (Row.id b)) :
    select rows spec = .ok ((L.drop (spec.offset.getD 0)).take spec.limit, T.length) := by
  have hdir : spec.order.primaryDir = d := by simp [OrderBy.primaryDir, horder]
  obtain ⟨ks', hks'⟩ := ensureTiebreaker_keys horder tiebreakerField d
  rw [hks'] at hlookup
  -- every kept row has its sort keys, the first of them its creation time
  obtain ⟨keyed, hkeyed⟩ : ∃ keyed, T.mapM (fun r => do
      let vs ← (⟨createdAtField, d⟩ :: ks' : List OrderKey).mapM
        fun (k : OrderKey) => lookup r k.field
      pure (vs, r)) = .ok keyed :=
    mapM_ok_iff.mpr fun r hr => by
      obtain ⟨vs, hvs⟩ := mapM_ok_iff.mpr (hlookup r hr)
      exact ⟨(vs, r), by rw [hvs]; rfl⟩
  obtain ⟨hmap, hvals⟩ := mapM_pair hkeyed
  have hhead : ∀ y ∈ keyed, ∃ rest, y.1 = .time (Row.createdAt y.2) :: rest := by
    intro y hy
    have hy' := hvals y hy
    rw [List.mapM_cons, lookup_createdAt] at hy'
    cases hr : (ks'.mapM fun k => lookup y.2 k.field) with
    | error e => simp [hr, bind, Except.bind] at hy'
    | ok rest =>
      simp only [hr, bind, Except.bind, pure, Except.pure, Except.ok.injEq] at hy'
      exact ⟨rest, hy'.symm⟩
  have hmemT : ∀ y ∈ keyed, y.2 ∈ T := fun y hy => hmap ▸ List.mem_map_of_mem hy
  have hle : ∀ x ∈ keyed, ∀ y ∈ keyed,
      (compareKeys (⟨createdAtField, d⟩ :: ks') x.1 y.1 != .gt) = idLe d x.2 y.2 := by
    intro x hx y hy
    obtain ⟨xs, hxs⟩ := hhead x hx
    obtain ⟨ys, hys⟩ := hhead y hy
    rw [hxs, hys]
    refine compareKeys_createdAt (fun h => ?_) (htime _ (hmemT x hx) _ (hmemT y hy))
      (htime _ (hmemT y hy) _ (hmemT x hx))
    -- equal ids are one row, which has one list of keys
    have hxy : x.2 = y.2 := eq_of_id_eq hids (hmemT x hx) (hmemT y hy) h
    have hkeys : x.1 = y.1 := by
      have h₁ := hvals x hx
      rw [hxy, hvals y hy] at h₁
      exact (Except.ok.inj h₁).symm
    refine ⟨hxy, ?_⟩
    rw [hxs, hys, hxy] at hkeys
    exact (List.cons.inj hkeys).2
  have hsort : (keyed.mergeSort fun a b => compareKeys (⟨createdAtField, d⟩ :: ks') a.1 b.1 != .gt).map
      (·.2) = L := by
    rw [List.map_mergeSort hle, hmap]
    exact mergeSort_idLe hids hperm hsorted
  unfold select
  simp only [hkeep, bind, Except.bind, hdir]
  rw [hks']
  simp only [bind, Except.bind, pure, Except.pure] at hkeyed
  simp only [hkeyed, pure, Except.pure, Except.ok.injEq, Prod.mk.injEq, and_true]
  rw [List.map_take, List.map_drop, hsort]

end Sorting

end Folio.Store
