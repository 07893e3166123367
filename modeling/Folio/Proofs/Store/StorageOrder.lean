import Folio.Proofs.Store.Database
import Mathlib

open Folio.Filter Folio.Store

namespace Folio

theorem Time.Instant.compare_eq_compareLex (a b : Time.Instant) :
    a.compare b = compareLex (compareOn Time.Instant.seconds) (compareOn Time.Instant.nanos) a b := by
  unfold Time.Instant.compare compareLex compareOn
  cases Ord.compare a.seconds b.seconds <;> rfl

instance : Std.TransCmp Time.Instant.compare := by
  have h : Time.Instant.compare =
      compareLex (compareOn Time.Instant.seconds) (compareOn Time.Instant.nanos) :=
    funext fun a => funext fun b => Time.Instant.compare_eq_compareLex a b
  rw [h]
  infer_instance

theorem Field.Kind.rank_injective : Function.Injective Field.Kind.rank := by
  intro a b h
  cases a <;> cases b <;> simp_all [Field.Kind.rank]

theorem Field.Value.compare_of_kind_ne {a b : Field.Value} (h : a.kind ≠ b.kind) :
    a.compare b = Ord.compare a.kind.rank b.kind.rank := by
  cases a <;> cases b <;> simp_all [Field.Value.compare, Field.Value.kind]

theorem Field.Value.rank_le_of_isLE {a b : Field.Value} (h : (a.compare b).isLE) :
    a.kind.rank ≤ b.kind.rank := by
  by_cases hk : a.kind = b.kind
  · rw [hk]
  · rw [Field.Value.compare_of_kind_ne hk] at h
    exact Nat.isLE_compare.mp h

theorem Field.Value.compare_swap_of_kind_eq {a b : Field.Value} (h : a.kind = b.kind) :
    a.compare b = (b.compare a).swap := by
  cases a <;> cases b <;> simp only [Field.Value.kind, reduceCtorEq] at h
  case null.null => rfl
  case bool.bool x y => exact Std.OrientedOrd.eq_swap
  case int.int x y => exact Std.OrientedOrd.eq_swap
  case text.text x y => exact Std.OrientedOrd.eq_swap
  case time.time x y => exact @Std.OrientedCmp.eq_swap _ Time.Instant.compare _ x y

theorem Field.Value.isLE_trans_of_kind_eq {a b c : Field.Value} (hab : a.kind = b.kind)
    (hbc : b.kind = c.kind) (h₁ : (a.compare b).isLE) (h₂ : (b.compare c).isLE) :
    (a.compare c).isLE := by
  cases a <;> cases b <;> simp only [Field.Value.kind, reduceCtorEq] at hab <;>
    cases c <;> simp only [Field.Value.kind, reduceCtorEq] at hbc
  case null.null.null => rfl
  case bool.bool.bool => exact Std.TransOrd.isLE_trans h₁ h₂
  case int.int.int => exact Std.TransOrd.isLE_trans h₁ h₂
  case text.text.text => exact Std.TransOrd.isLE_trans h₁ h₂
  case time.time.time => exact @Std.TransCmp.isLE_trans _ Time.Instant.compare _ _ _ _ h₁ h₂

/-- Values compare as a lawful order: by kind, then within the kind. -/
instance : Std.TransCmp Field.Value.compare where
  eq_swap {a b} := by
    by_cases hk : a.kind = b.kind
    · exact Field.Value.compare_swap_of_kind_eq hk
    · rw [Field.Value.compare_of_kind_ne hk, Field.Value.compare_of_kind_ne (Ne.symm hk)]
      exact Std.OrientedOrd.eq_swap
  isLE_trans {a b c} h₁ h₂ := by
    by_cases hk : a.kind = b.kind ∧ b.kind = c.kind
    · exact Field.Value.isLE_trans_of_kind_eq hk.1 hk.2 h₁ h₂
    · -- kinds that differ are ranked, and the middle value's rank lies between the other two
      have hr₁ := Field.Value.rank_le_of_isLE h₁
      have hr₂ := Field.Value.rank_le_of_isLE h₂
      have hac : a.kind ≠ c.kind := by
        intro hac
        have hb : b.kind = a.kind := Field.Kind.rank_injective (by rw [hac] at hr₁ ⊢; omega)
        exact hk ⟨hb.symm, hb ▸ hac⟩
      rw [Field.Value.compare_of_kind_ne hac]
      exact Nat.isLE_compare.mpr (hr₁.trans hr₂)

/-- Two values compared in a direction: as they are ascending, the other way descending. -/
def SortDir.compareValues : SortDir → Field.Value → Field.Value → Ordering
  | .asc, a, b => a.compare b
  | .desc, a, b => b.compare a

instance (d : SortDir) : Std.TransCmp d.compareValues := by
  cases d with
  | asc => exact inferInstanceAs (Std.TransCmp Field.Value.compare)
  | desc => exact inferInstanceAs (Std.TransCmp fun a b : Field.Value => Field.Value.compare b a)

theorem SortDir.compareValues_eq_eq {d : SortDir} {a b : Field.Value} :
    d.compareValues a b = .eq ↔ a = b := by
  cases d
  · exact Field.Value.compare_eq_iff
  · exact Field.Value.compare_eq_iff.trans eq_comm

theorem compareKeys_cons (k : OrderKey) (ks : List OrderKey) (a b : Field.Value)
    (as bs : List Field.Value) :
    compareKeys (k :: ks) (a :: as) (b :: bs) = (k.dir.compareValues a b).then (compareKeys ks as bs) := by
  have hswap : (a.compare b).swap = b.compare a :=
    (@Std.OrientedCmp.eq_swap _ Field.Value.compare _ b a).symm
  cases hd : k.dir <;> simp only [compareKeys, hd, hswap, SortDir.compareValues] <;>
    split_ifs with h <;> simp [h, Ordering.then]

theorem compareKeys_swap : ∀ (ks : List OrderKey) (xs ys : List Field.Value),
    compareKeys ks xs ys = (compareKeys ks ys xs).swap
  | [], _, _ => rfl
  | _ :: _, [], [] => rfl
  | _ :: _, [], _ :: _ => rfl
  | _ :: _, _ :: _, [] => rfl
  | k :: ks, x :: xs, y :: ys => by
    rw [compareKeys_cons, compareKeys_cons, Ordering.swap_then, ← compareKeys_swap ks xs ys,
      ← @Std.OrientedCmp.eq_swap _ k.dir.compareValues _ x y]

theorem compareKeys_isLE_trans : ∀ {ks : List OrderKey} {xs ys zs : List Field.Value},
    xs.length = ks.length → ys.length = ks.length → zs.length = ks.length →
    (compareKeys ks xs ys).isLE → (compareKeys ks ys zs).isLE → (compareKeys ks xs zs).isLE
  | [], xs, ys, zs, _, _, _, _, _ => by cases xs <;> cases zs <;> rfl
  | k :: ks, x :: xs, y :: ys, z :: zs, hx, hy, hz, hxy, hyz => by
    simp only [List.length_cons, Nat.add_right_cancel_iff] at hx hy hz
    rw [compareKeys_cons, Ordering.isLE_then_iff_and] at hxy hyz ⊢
    -- the first key orders the three values; a strict step there decides, else the rest does
    refine ⟨@Std.TransCmp.isLE_trans _ k.dir.compareValues _ _ _ _ hxy.1 hyz.1, ?_⟩
    rcases hxy.2 with hlt | hrest
    · exact .inl (@Std.TransCmp.lt_of_lt_of_isLE _ k.dir.compareValues _ _ _ _ hlt hyz.1)
    · rcases hyz.2 with hlt' | hrest'
      · exact .inl (@Std.TransCmp.lt_of_isLE_of_lt _ k.dir.compareValues _ _ _ _ hxy.1 hlt')
      · exact .inr (compareKeys_isLE_trans hx hy hz hrest hrest')
  | _ :: _, [], _, _, hx, _, _, _, _ => by simp at hx
  | _ :: _, _ :: _, [], _, _, hy, _, _, _ => by simp at hy
  | _ :: _, _ :: _, _ :: _, [], _, _, hz, _, _ => by simp at hz

theorem eq_of_compareKeys_eq : ∀ {ks : List OrderKey} {xs ys : List Field.Value},
    xs.length = ks.length → ys.length = ks.length → compareKeys ks xs ys = .eq → xs = ys
  | [], [], [], _, _, _ => rfl
  | k :: ks, x :: xs, y :: ys, hx, hy, h => by
    simp only [List.length_cons, Nat.add_right_cancel_iff] at hx hy
    rw [compareKeys_cons, Ordering.then_eq_eq, SortDir.compareValues_eq_eq] at h
    rw [h.1, eq_of_compareKeys_eq hx hy h.2]
  | [], _ :: _, _, hx, _, _ => by simp at hx
  | [], [], _ :: _, _, hy, _ => by simp at hy
  | _ :: _, [], _, hx, _, _ => by simp at hx
  | _ :: _, _ :: _, [], _, hy, _ => by simp at hy

/-- The columns that sort keys name, or the error of the first key that names none. -/
def keyColumns (keys : List OrderKey) : Except Error (List Sql.Column) :=
  keys.mapM fun k =>
    match postColumn? k.field with
    | some c => .ok c
    | none => .error (.unknownField k.field)

theorem mapM_lookup_post (p : Post) :
    ∀ keys : List OrderKey,
      keys.mapM (fun k => lookup p k.field) = (keyColumns keys).map (List.map p.value)
  | [] => rfl
  | k :: keys => by
    have ih := mapM_lookup_post p keys
    unfold keyColumns at ih ⊢
    rw [List.mapM_cons, List.mapM_cons, ih, lookup_post]
    cases hc : postColumn? k.field <;>
      cases keys.mapM (fun k => match postColumn? k.field with
        | some c => (Except.ok c : Except Error Sql.Column)
        | none => .error (.unknownField k.field)) <;>
      simp [Except.map, bind, Except.bind, pure, Except.pure]

theorem exists_mem_of_mapM_ok {α β ε : Type} {f : α → Except ε β} :
    ∀ {l : List α} {ys : List β}, l.mapM f = .ok ys → ∀ x ∈ l, ∃ y ∈ ys, f x = .ok y
  | [], _, _ => by simp
  | a :: l, ys, h => by
    rw [List.mapM_cons] at h
    cases ha : f a with
    | error e => rw [ha] at h; cases h
    | ok b =>
      cases hl : l.mapM f with
      | error e => rw [ha, hl] at h; cases h
      | ok zs =>
        rw [ha, hl] at h
        simp only [bind, Except.bind, pure, Except.pure, Except.ok.injEq] at h
        subst h
        intro x hx
        rcases List.mem_cons.mp hx with rfl | hx
        · exact ⟨b, List.mem_cons_self, ha⟩
        · obtain ⟨y, hy, hfy⟩ := exists_mem_of_mapM_ok hl x hx
          exact ⟨y, List.mem_cons_of_mem b hy, hfy⟩

theorem mem_keyColumns {keys : List OrderKey} {cs : List Sql.Column} (h : keyColumns keys = .ok cs)
    {k : OrderKey} (hk : k ∈ keys) {c : Sql.Column} (hc : postColumn? k.field = some c) : c ∈ cs := by
  unfold keyColumns at h
  obtain ⟨c', hc', hkc⟩ := exists_mem_of_mapM_ok h k hk
  simp only [hc] at hkc
  cases hkc
  exact hc'

/-- A filter that fails on one post fails the same way on every post: what can fail (an unknown
field, a literal of the wrong kind, a pattern on a column without text) depends on the field's
column only. -/
theorem satisfies_post_error {a b : Post} {q : Predicate} {e : Error}
    (h : satisfies a q = .error e) : satisfies b q = .error e := by
  cases hc : postColumn? q.field with
  | none =>
    have hunknown : ∀ p : Post, satisfies p q = .error (.unknownField q.field) := fun p => by
      unfold satisfies
      rw [lookup_post_none p hc]
      rfl
    rw [hunknown] at h ⊢
    exact h
  | some c =>
    rw [satisfies_post a hc] at h
    rw [satisfies_post b hc]
    obtain ⟨hka, -⟩ := Post.value_spec a hc
    obtain ⟨hkb, -⟩ := Post.value_spec b hc
    split_ifs at h ⊢ with hl
    · -- the two values have the column's kind, so both are texts or neither is
      have hk : (a.value c).kind = (b.value c).kind := hka.trans hkb.symm
      cases hva : a.value c <;> cases hvb : b.value c <;> rw [hva, hvb] at hk <;>
        simp only [Field.Value.kind, reduceCtorEq] at hk <;> simp_all [Field.Value.kind]
    · cases hm : q.values.mapM (c.kind.coerce q.field) <;> simp_all [Except.map]

theorem satisfies_post_ok {a b : Post} {q : Predicate} {x : Bool} (h : satisfies a q = .ok x) :
    ∃ y, satisfies b q = .ok y := by
  cases hb : satisfies b q with
  | error e => rw [satisfies_post_error hb] at h; cases h
  | ok y => exact ⟨y, rfl⟩

theorem passes_post_error {a b : Post} :
    ∀ {ps : List Predicate} {e e' : Error}, passes a ps = .error e → passes b ps = .error e' →
      e = e'
  | [], _, _, h, _ => by cases h
  | q :: ps, e, e', ha, hb => by
    simp only [passes] at ha hb
    cases hqa : satisfies a q with
    | error e₀ =>
      rw [hqa] at ha
      rw [satisfies_post_error hqa] at hb
      cases ha
      cases hb
      rfl
    | ok x =>
      obtain ⟨y, hqb⟩ := satisfies_post_ok (b := b) hqa
      rw [hqa] at ha
      rw [hqb] at hb
      -- a post that fails a filter is rejected without error, so both went on
      cases x <;> cases y <;> simp only [bind, Except.bind, pure, Except.pure, Bool.false_eq_true,
        if_false, if_true, reduceCtorEq] at ha hb
      exact passes_post_error ha hb

theorem passes_of_keep_ok {α : Type} [Row α] {ps : List Predicate} :
    ∀ {rows T : List α}, keep ps rows = .ok T → ∀ r ∈ rows, ∃ b, passes r ps = .ok b
  | [], _, _ => by simp
  | row :: rows, T, h => by
    simp only [keep] at h
    cases hp : passes row ps with
    | error e => rw [hp] at h; cases h
    | ok b =>
      cases hk : keep ps rows with
      | error e => rw [hp, hk] at h; cases h
      | ok rest =>
        intro r hr
        rcases List.mem_cons.mp hr with rfl | hr
        · exact ⟨b, hp⟩
        · exact passes_of_keep_ok hk r hr

/-- Keeping posts stored in another order keeps the same posts, in that order, or fails with the
same error. -/
theorem keep_post_perm {ps : List Predicate} {R R' : List Post} (hp : R.Perm R') :
    (∀ e, keep ps R = .error e → keep ps R' = .error e) ∧
      ∀ T, keep ps R = .ok T → ∃ T', keep ps R' = .ok T' ∧ T.Perm T' := by
  constructor
  · intro e h
    obtain ⟨row, hrow, hrow_err⟩ := keep_error h
    cases h' : keep ps R' with
    | error e' =>
      obtain ⟨row', -, hrow'_err⟩ := keep_error h'
      rw [passes_post_error hrow_err hrow'_err]
    | ok T' =>
      obtain ⟨b, hb⟩ := passes_of_keep_ok h' row (hp.subset hrow)
      rw [hb] at hrow_err
      cases hrow_err
  · intro T h
    -- every post passes or fails without error, so keeping is filtering
    have hall : ∀ r ∈ R, passes r ps = .ok (decide (passes r ps = .ok true)) := by
      intro r hr
      obtain ⟨b, hb⟩ := passes_of_keep_ok h r hr
      cases b <;> simp [hb]
    have hall' : ∀ r ∈ R', passes r ps = .ok (decide (passes r ps = .ok true)) :=
      fun r hr => hall r (hp.symm.subset hr)
    rw [keep_eq_filter hall] at h
    cases h
    exact ⟨_, keep_eq_filter hall', hp.filter _⟩

/-- Posts in the order of sort keys whose columns are `cs`: the test the sort uses. -/
def postLe (keys : List OrderKey) (cs : List Sql.Column) (a b : Post) : Bool :=
  compareKeys keys (cs.map a.value) (cs.map b.value) != .gt

section PostOrder

variable {keys : List OrderKey} {cs : List Sql.Column}

theorem postLe_eq_isLE (a b : Post) :
    postLe keys cs a b = (compareKeys keys (cs.map a.value) (cs.map b.value)).isLE := by
  unfold postLe
  cases compareKeys keys (cs.map a.value) (cs.map b.value) <;> rfl

theorem postLe_trans (hcs : cs.length = keys.length) (a b c : Post) :
    postLe keys cs a b → postLe keys cs b c → postLe keys cs a c := by
  simp only [postLe_eq_isLE]
  exact compareKeys_isLE_trans (by simpa using hcs) (by simpa using hcs) (by simpa using hcs)

theorem postLe_total (a b : Post) : (postLe keys cs a b || postLe keys cs b a) = true := by
  simp only [postLe_eq_isLE, compareKeys_swap keys (cs.map b.value)]
  cases compareKeys keys (cs.map a.value) (cs.map b.value) <;> rfl

theorem id_eq_of_postLe (hcs : cs.length = keys.length) (hid : ⟨"id", .integer⟩ ∈ cs) {a b : Post}
    (hab : postLe keys cs a b) (hba : postLe keys cs b a) : a.id = b.id := by
  rw [postLe_eq_isLE] at hab hba
  rw [compareKeys_swap] at hba
  have heq : compareKeys keys (cs.map a.value) (cs.map b.value) = .eq := by
    revert hab hba
    cases compareKeys keys (cs.map a.value) (cs.map b.value) <;> decide
  have hvals := eq_of_compareKeys_eq (by simpa using hcs) (by simpa using hcs) heq
  have hidv := List.map_inj_left.mp hvals ⟨"id", .integer⟩ hid
  simpa [Post.value, Post.column] using hidv

/-- Posts of distinct ids sort to one list, whatever order they come in. -/
theorem mergeSort_postLe_perm (hcs : cs.length = keys.length) (hid : ⟨"id", .integer⟩ ∈ cs)
    {T T' : List Post} (hids : T.Pairwise fun a b => a.id ≠ b.id) (hp : T.Perm T') :
    T.mergeSort (postLe keys cs) = T'.mergeSort (postLe keys cs) := by
  have hsorted : ∀ l : List Post,
      (l.mergeSort (postLe keys cs)).Pairwise fun a b => postLe keys cs a b = true :=
    List.pairwise_mergeSort (postLe_trans hcs) postLe_total
  have hperm : (T.mergeSort (postLe keys cs)).Perm (T'.mergeSort (postLe keys cs)) :=
    (List.mergeSort_perm _ _).trans (hp.trans (List.mergeSort_perm _ _).symm)
  refine hperm.eq_of_pairwise (fun a b ha hb hab hba => ?_) (hsorted T) (hsorted T')
  -- two posts that tie are one post, since the ids of the stored posts differ
  have ha' : a ∈ T := (List.mergeSort_perm _ _).subset ha
  have hb' : b ∈ T := (hp.trans (List.mergeSort_perm _ _).symm).symm.subset hb
  exact eq_of_id_eq hids ha' hb' (id_eq_of_postLe hcs hid hab hba)

end PostOrder

theorem exists_tiebreaker_mem (o : OrderBy) (f : String) (d : SortDir) :
    ∃ k ∈ (o.ensureTiebreaker f d).keys, k.field = f := by
  unfold OrderBy.ensureTiebreaker
  split_ifs with h
  · exact ⟨⟨f, d⟩, by simp, rfl⟩
  · obtain ⟨k, hk⟩ := Option.ne_none_iff_exists'.mp (by simpa using h)
    obtain ⟨k', hk', rfl⟩ := Option.map_eq_some_iff.mp hk
    exact ⟨k', List.mem_of_find?_eq_some hk', by simpa using List.find?_some hk'⟩

theorem postColumn?_id : postColumn? tiebreakerField = some ⟨"id", .integer⟩ := by
  rw [postColumn?, postFields_entries]
  decide

theorem mapM_keyed_post {kept : List Post} (hne : kept ≠ []) (keys : List OrderKey) :
    kept.mapM (fun r => do
        let ks ← keys.mapM fun k => lookup r k.field
        pure (ks, r)) =
      (keyColumns keys).map fun cs => kept.map fun r => (cs.map r.value, r) := by
  simp only [mapM_lookup_post]
  cases hcs : keyColumns keys with
  | error e =>
    obtain ⟨r, rest, rfl⟩ := List.exists_cons_of_ne_nil hne
    rfl
  | ok cs =>
    show kept.mapM (fun r => (pure (cs.map r.value, r) : Except Error _)) = _
    rw [List.mapM_pure]
    rfl

/-- A select over posts: the kept posts, unless a sort key names no column, in the order of the
sort keys, sliced. -/
theorem select_post (rows : List Post) (spec : Spec) :
    select rows spec = (keep spec.filters.values rows).bind fun kept =>
      if kept = [] then .ok ([], 0)
      else (keyColumns spec.sortKeys).map fun cs =>
        ((((kept.mergeSort (postLe spec.sortKeys cs)).drop (spec.offset.getD 0)).take spec.limit),
          kept.length) := by
  unfold select
  dsimp only
  cases hk : keep spec.filters.values rows with
  | error e => rfl
  | ok kept =>
    show _ = if kept = [] then _ else _
    rw [show (Except.ok kept : Except Error (List Post)) = pure kept from rfl, pure_bind]
    by_cases hnil : kept = []
    · subst hnil
      simp [bind, Except.bind, pure, Except.pure]
    · rw [if_neg hnil, mapM_keyed_post hnil]
      cases keyColumns spec.sortKeys with
      | error e => rfl
      | ok cs =>
        simp only [Except.map, bind, Except.bind, pure, Except.pure, Except.ok.injEq,
          Prod.mk.injEq, and_true, List.map_take, List.map_drop]
        -- the keyed posts sort as the posts do under `postLe`
        rw [List.map_mergeSort (s := postLe spec.sortKeys cs) (fun a ha b hb => by
          obtain ⟨x, -, rfl⟩ := List.mem_map.mp ha
          obtain ⟨y, -, rfl⟩ := List.mem_map.mp hb
          rfl)]
        simp [Function.comp_def]

/-- Posts of distinct ids stored in any two orders select the same page and count, or fail with
the same error. -/
theorem select_post_perm {R R' : List Post} (hids : R.Pairwise fun a b => a.id ≠ b.id)
    (hp : R.Perm R') (spec : Spec) : select R spec = select R' spec := by
  obtain ⟨herr, hok⟩ := @keep_post_perm spec.filters.values R R' hp
  rw [select_post, select_post]
  cases hk : keep spec.filters.values R with
  | error e => rw [herr e hk]
  | ok T =>
    obtain ⟨T', hk', hT⟩ := hok T hk
    rw [hk']
    simp only [Except.bind]
    by_cases h0 : T = []
    · subst h0
      obtain rfl : T' = [] := hT.nil_eq.symm
      rfl
    · have h0' : T' ≠ [] := fun h => h0 (by subst h; exact hT.eq_nil)
      rw [if_neg h0, if_neg h0']
      cases hcs : keyColumns spec.sortKeys with
      | error e => rfl
      | ok cs =>
        -- the columns include the id, which tells the kept posts apart
        have hlen : cs.length = spec.sortKeys.length := length_of_mapM_ok hcs
        obtain ⟨k, hk_mem, hk_id⟩ :=
          exists_tiebreaker_mem spec.order tiebreakerField spec.order.primaryDir
        have hid : (⟨"id", .integer⟩ : Sql.Column) ∈ cs :=
          mem_keyColumns hcs hk_mem (hk_id ▸ postColumn?_id)
        have hTids : T.Pairwise fun a b => a.id ≠ b.id := hids.sublist (keep_sublist hk)
        simp only [Except.map, mergeSort_postLe_perm hlen hid hTids hT, hT.length_eq]

/-- The in-memory store's answers do not depend on the order its rows are stored in: over posts
of distinct ids, any two storage orders give the same rows in the same order, or the same error,
and the same count. -/
theorem memory_ignores_storage_order {R R' : List Post} (hids : R.Pairwise fun a b => a.id ≠ b.id)
    (hp : R.Perm R') (spec : Spec) :
    (Repository.memory R).find spec = (Repository.memory R').find spec ∧
      (Repository.memory R).findAndCount spec = (Repository.memory R').findAndCount spec := by
  simp only [Repository.memory, select_post_perm hids hp spec, and_self]

/-- Two demo posts stored in either order list the same, by title descending. -/
theorem memory_ignores_storage_order_of_two_posts :
    [Post.generated 2, Post.generated 1].Pairwise (fun a b => a.id ≠ b.id) ∧
      [Post.generated 2, Post.generated 1].Perm [Post.generated 1, Post.generated 2] ∧
      (Repository.memory [Post.generated 2, Post.generated 1]).find
          ⟨{}, ⟨[⟨"title", .desc⟩]⟩, 20, none⟩ =
        (Repository.memory [Post.generated 1, Post.generated 2]).find
          ⟨{}, ⟨[⟨"title", .desc⟩]⟩, 20, none⟩ ∧
      (Repository.memory [Post.generated 2, Post.generated 1]).findAndCount
          ⟨{}, ⟨[⟨"title", .desc⟩]⟩, 20, none⟩ =
        (Repository.memory [Post.generated 1, Post.generated 2]).findAndCount
          ⟨{}, ⟨[⟨"title", .desc⟩]⟩, 20, none⟩ := by
  have hids : [Post.generated 2, Post.generated 1].Pairwise (fun a b => a.id ≠ b.id) := by decide
  have hp : [Post.generated 2, Post.generated 1].Perm [Post.generated 1, Post.generated 2] :=
    List.Perm.swap _ _ _
  exact ⟨hids, hp, memory_ignores_storage_order hids hp _⟩

end Folio
