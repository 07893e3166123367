import Folio.Post.Schema
import Folio.Proofs.Store.Memory
import Folio.Proofs.Text.Like
import Mathlib

open Folio.Filter Folio.Store

namespace Folio

def postColumn? (f : String) : Option Sql.Column := postFields.entries.lookup (Text.asciiLower f)

/-- A column's value as the in-memory store reads it from a post: the creation instant itself,
and the stored value of any other column. -/
def Post.value (p : Post) (c : Sql.Column) : Field.Value :=
  if c.kind = .datetime then .time p.createdAt else p.column c.name

theorem postFields_entries : postFields.entries = [("id", ⟨"id", .integer⟩),
    ("title", ⟨"title", .text⟩), ("content", ⟨"content", .text⟩),
    ("authorid", ⟨"author_id", .integer⟩), ("likecount", ⟨"like_count", .integer⟩),
    ("commentcount", ⟨"comment_count", .integer⟩), ("createdat", ⟨"created_at", .datetime⟩)] := by
  decide +kernel

theorem eqIgnoreAsciiCase_createdAt (f : String) :
    Text.eqIgnoreAsciiCase f createdAtField = (Text.asciiLower f == "createdat") := by
  have hc : createdAtField.toList.map Char.toLower = "createdat".toList := by decide
  unfold Text.eqIgnoreAsciiCase Text.asciiLower
  rw [hc]
  apply Bool.eq_iff_iff.mpr
  simp only [beq_iff_eq, ← String.toList_inj, String.toList_ofList]

theorem lookup_post (p : Post) (f : String) :
    lookup p f = match postColumn? f with
      | some c => .ok (p.value c)
      | none => .error (.unknownField f) := by
  -- rewriting, not unfolding: `postFields` is then never evaluated, here or in the kernel
  rw [lookup, postColumn?, eqIgnoreAsciiCase_createdAt, postFields_entries]
  have hfield : Store.Row.field? p f = Post.field? p f := rfl
  rw [hfield, Post.field?]
  generalize Text.asciiLower f = k
  -- the seven field names, then any other name
  by_cases h₁ : k = "createdat"
  · subst h₁; rfl
  by_cases h₂ : k = "id"
  · subst h₂; rfl
  by_cases h₃ : k = "title"
  · subst h₃; rfl
  by_cases h₄ : k = "content"
  · subst h₄; rfl
  by_cases h₅ : k = "authorid"
  · subst h₅; rfl
  by_cases h₆ : k = "likecount"
  · subst h₆; rfl
  by_cases h₇ : k = "commentcount"
  · subst h₇; rfl
  rw [if_neg (by simpa using h₁),
    List.lookup_eq_none_iff.mpr (by simp [h₁, h₂, h₃, h₄, h₅, h₆, h₇])]
  split
  · rename_i heq
    split at heq <;> simp_all
  · rfl

theorem resolve_post {f : String} (hf : Text.IsAscii f) :
    postFields.resolve f = match postColumn? f with
      | some c => .ok c
      | none => .error (.unknownField f) := by
  have hget : postFields.get? f = postColumn? f := by
    rw [Sql.FieldMap.get?, postColumn?, Text.lowercase_of_ascii hf]
  -- the two sides match with matchers that may or may not be the same constant
  rw [Sql.FieldMap.resolve]
  cases hc : postColumn? f <;> simp only [hget, hc]

section Columns

variable {f : String} {c : Sql.Column}

theorem lookup_post_some (p : Post) (hc : postColumn? f = some c) : lookup p f = .ok
    (p.value c) := by
  rw [lookup_post, hc]

theorem lookup_post_none (p : Post) (hc : postColumn? f = none) :
    lookup p f = .error (.unknownField f) := by
  rw [lookup_post, hc]

theorem postColumn?_of_lookup_ok {p : Post} {v : Field.Value} (h : lookup p f = .ok v) :
    ∃ c, postColumn? f = some c := by
  rw [lookup_post] at h
  cases hc : postColumn? f with
  | none => rw [hc] at h; cases h
  | some c => exact ⟨c, rfl⟩

theorem postColumn?_of_lookup_error {p : Post} {e : Error} (h : lookup p f = .error e) :
    postColumn? f = none ∧ e = .unknownField f := by
  rw [lookup_post] at h
  cases hc : postColumn? f with
  | none =>
    rw [hc] at h
    cases h
    exact ⟨rfl, rfl⟩
  | some c => rw [hc] at h; cases h

theorem resolve_post_some (hf : Text.IsAscii f) (hc : postColumn? f = some c) :
    postFields.resolve f = .ok c := by
  rw [resolve_post hf, hc]

theorem resolve_post_none (hf : Text.IsAscii f) (hc : postColumn? f = none) :
    postFields.resolve f = .error (.unknownField f) := by
  rw [resolve_post hf, hc]

theorem postColumn?_mem (hc : postColumn? f = some c) :
    c ∈ [⟨"id", .integer⟩, ⟨"title", .text⟩, ⟨"content", .text⟩, ⟨"author_id", .integer⟩,
      ⟨"like_count", .integer⟩, ⟨"comment_count", .integer⟩, ⟨"created_at", .datetime⟩] := by
  have hmem : (Text.asciiLower f, c) ∈ postFields.entries := by
    obtain ⟨l₁, l₂, hl, -⟩ := List.lookup_eq_some_iff.mp hc
    rw [hl]
    exact List.mem_append_right l₁ List.mem_cons_self
  rw [postFields_entries] at hmem
  simp only [List.mem_cons, Prod.mk.injEq, List.not_mem_nil, or_false] at hmem
  simp only [List.mem_cons, List.not_mem_nil, or_false]
  rcases hmem with ⟨-, h⟩ | ⟨-, h⟩ | ⟨-, h⟩ | ⟨-, h⟩ | ⟨-, h⟩ | ⟨-, h⟩ | ⟨-, h⟩ <;> simp [h]

/-- What the in-memory store reads and what the table stores agree on every column a field
name reaches: the kind, and the stored form. -/
theorem Post.value_spec (p : Post) (hc : postColumn? f = some c) :
    (p.value c).kind = c.kind ∧ Sql.stored (p.value c) = p.column c.name ∧
      ∀ t, p.value c = .time t → t = p.createdAt := by
  have hmem := postColumn?_mem hc
  simp only [List.mem_cons, List.not_mem_nil, or_false] at hmem
  rcases hmem with rfl | rfl | rfl | rfl | rfl | rfl | rfl <;>
    exact ⟨rfl, rfl, by simp [Post.value, Post.column]⟩

theorem Post.value_of_text (p : Post) (hc : postColumn? f = some c) (hk : c.kind = .text) :
    p.value c = .text p.title ∨ p.value c = .text p.content := by
  have hmem := postColumn?_mem hc
  simp only [List.mem_cons, List.not_mem_nil, or_false] at hmem
  rcases hmem with rfl | rfl | rfl | rfl | rfl | rfl | rfl <;>
    simp [Post.value, Post.column] at hk ⊢

theorem Post.value_ne_null (p : Post) (hc : postColumn? f = some c) : p.value c ≠ .null := by
  have hmem := postColumn?_mem hc
  simp only [List.mem_cons, List.not_mem_nil, or_false] at hmem
  rcases hmem with rfl | rfl | rfl | rfl | rfl | rfl | rfl <;> simp [Post.value, Post.column]

end Columns

/-- Instants whose stored texts order as the instants do. -/
def StoredInOrder (ts : List Time.Instant) : Prop :=
  ∀ a ∈ ts, ∀ b ∈ ts, Ord.compare (Sql.storedInstant a) (Sql.storedInstant b) = a.compare b

theorem stored_compare {u w : Field.Value} (hk : u.kind = w.kind)
    (ht : ∀ a b, u = .time a → w = .time b →
      Ord.compare (Sql.storedInstant a) (Sql.storedInstant b) = a.compare b) :
    (Sql.stored u).compare (Sql.stored w) = u.compare w := by
  cases u <;> cases w <;> simp only [Field.Value.kind, reduceCtorEq] at hk
  case null.null => rfl
  case bool.bool a b => cases a <;> cases b <;> rfl
  case int.int => rfl
  case text.text => rfl
  case time.time a b => exact ht a b rfl rfl

theorem Time.Instant.compare_eq_iff {a b : Time.Instant} : a.compare b = .eq ↔ a = b := by
  obtain ⟨s, n⟩ := a
  obtain ⟨s', n'⟩ := b
  simp only [Time.Instant.compare, Time.Instant.mk.injEq]
  by_cases hs : s = s'
  · subst hs
    simp
  · have hne : Ord.compare s s' ≠ .eq := fun h => hs (compare_eq_iff_eq.mp h)
    cases h : Ord.compare s s' <;> simp_all

theorem Field.Value.compare_eq_iff {u w : Field.Value} : u.compare w = .eq ↔ u = w := by
  cases u <;> cases w <;>
    simp [Field.Value.compare, Field.Value.kind, Field.Kind.rank, Time.Instant.compare_eq_iff]

/-- Two reports of one failed check: the same error, or type mismatches on one field and literal
that expect different kinds (a pattern filter on a column that holds no text, where the
in-memory store names the column's kind and the database names text). -/
def Error.SameCheck (e e' : Error) : Prop :=
  e' = e ∨ ∃ f v k, e = .typeMismatch f v k ∧ e' = .typeMismatch f v .text

theorem Error.SameCheck.code_eq {e e' : Error} (h : e.SameCheck e') : e'.code = e.code := by
  rcases h with rfl | ⟨f, v, k, rfl, rfl⟩ <;> rfl

def Filter.Predicate.instants (q : Predicate) : List Time.Instant :=
  q.values.filterMap fun v => Time.parseRfc3339 (Text.trim v)

def Spec.instants (spec : Spec) : List Time.Instant := spec.filters.values.flatMap (·.instants)

/-- A post whose texts are ASCII and hold no `%`. -/
def Post.PlainTexts (p : Post) : Prop :=
  Text.IsAscii p.title ∧ Text.IsAscii p.content ∧ '%' ∉ p.title.toList ∧ '%' ∉ p.content.toList

theorem coerce_spec {k : Field.Kind} {f raw : String} {v : Field.Value}
    (h : k.coerce f raw = .ok v) :
    v.kind = k ∧ ∀ t, v = .time t → Time.parseRfc3339 (Text.trim raw) = some t := by
  unfold Field.Kind.coerce at h
  cases k <;> simp only at h
  case null | text => cases h; simp [Field.Value.kind]
  all_goals
    split at h <;> cases h
    simp_all [Field.Value.kind]

theorem satisfies_post (p : Post) {q : Predicate} {c : Sql.Column}
    (hc : postColumn? q.field = some c) :
    satisfies p q =
      if q.operator = .like then
        match p.value c with
        | .text t => .ok (Text.likeMatch (Text.lowercase (q.first?.getD "")).toList
            (Text.lowercase t).toList)
        | v => .error (.typeMismatch q.field (q.first?.getD "") v.kind)
      else (q.values.mapM (c.kind.coerce q.field)).map fun vs =>
        verdict q.operator (fun i => vs[i]?.map (p.value c).compare) (vs.any (· = p.value c)) := by
  obtain ⟨hk, -⟩ := Post.value_spec p hc
  have hn := Post.value_ne_null p hc
  unfold satisfies
  rw [lookup_post_some p hc]
  simp only [bind, Except.bind]
  split_ifs with hl
  · cases hv : p.value c <;> simp_all [pure, Except.pure, throw, throwThe, MonadExceptOf.throw]
  · rw [hk]
    cases q.values.mapM (c.kind.coerce q.field) <;> simp [Except.map, pure, Except.pure]

/-- Compiling the comparison of a column with literals, and the in-memory verdict on a value
whose comparisons with the literals the stored column repeats. -/
theorem verdict_eq_holds {op : Operator} {n : String} {vs : List Field.Value} {a : Sql.Atom}
    {col : String → Field.Value} {u : Field.Value}
    (h : (match Sql.Operator.comparison? op, op, vs with
      | some cmp, _, [v] => pure (Sql.Atom.compare n cmp v)
      | _, .between, [lo, hi] => pure (Sql.Atom.between n lo hi)
      | _, .oneOf, [] => pure Sql.Atom.never
      | _, .oneOf, _ => pure (Sql.Atom.oneOf n vs)
      | _, _, _ => Except.error (Error.valueShape op op.arity vs.length) : Except Error Sql.Atom) =
        .ok a)
    (hcmp : ∀ v ∈ vs, (col n).compare (Sql.stored v) = u.compare v) :
    a.holds col = verdict op (fun i => vs[i]?.map u.compare) (vs.any (· = u)) := by
  -- membership compares every literal for equality
  have hany : (vs.any fun v => (col n).compare (Sql.stored v) == .eq) = vs.any (· = u) := by
    apply Bool.eq_iff_iff.mpr
    simp only [List.any_eq_true, beq_iff_eq, decide_eq_true_eq]
    constructor
    · rintro ⟨v, hv, he⟩
      rw [hcmp v hv, Field.Value.compare_eq_iff] at he
      exact ⟨v, hv, he.symm⟩
    · rintro ⟨v, hv, rfl⟩
      exact ⟨v, hv, by rw [hcmp v hv, Field.Value.compare_self]⟩
  cases op
  case oneOf =>
    rcases vs with _ | ⟨v, rest⟩
    · simp [Sql.Operator.comparison?, pure, Except.pure] at h
      subst h
      rfl
    · simp [Sql.Operator.comparison?, pure, Except.pure] at h
      subst h
      exact hany
  case like => rcases vs with _ | ⟨v, _ | ⟨w, rest⟩⟩ <;> simp [Sql.Operator.comparison?] at h
  all_goals
    -- each remaining operator compiles only at its own arity
    rcases vs with _ | ⟨v, _ | ⟨w, _ | ⟨x, rest⟩⟩⟩ <;>
      simp [Sql.Operator.comparison?, pure, Except.pure] at h
    subst h
    simp [Sql.Atom.holds, verdict, Sql.Compare.holds, hcmp]

section Filter

variable {p : Post} {q : Predicate}

theorem postColumn?_of_compile_ok {a : Sql.Atom} (hf : Text.IsAscii q.field)
    (h : Sql.compile postFields q = .ok a) : ∃ c, postColumn? q.field = some c := by
  cases hc : postColumn? q.field with
  | none =>
    unfold Sql.compile at h
    rw [resolve_post_none hf hc] at h
    cases h
  | some c => exact ⟨c, rfl⟩

/-- A filter the database accepts holds of a post in memory exactly when the compiled atom holds
of the stored row, on ASCII texts with no `%` and with instants stored in order. -/
theorem satisfies_eq_holds {a : Sql.Atom} {S : List Time.Instant} (hf : Text.IsAscii q.field)
    (hplain : p.PlainTexts) (hS : StoredInOrder S) (hp : p.createdAt ∈ S)
    (hq : ∀ t ∈ q.instants, t ∈ S) (h : Sql.compile postFields q = .ok a) :
    satisfies p q = .ok (a.holds (postTable.column p)) := by
  obtain ⟨c, hc⟩ := postColumn?_of_compile_ok hf h
  obtain ⟨hk, hstored, htime⟩ := Post.value_spec p hc
  rw [satisfies_post p hc]
  unfold Sql.compile at h
  rw [resolve_post_some hf hc] at h
  simp only [bind, Except.bind] at h
  by_cases hl : q.operator = .like
  · -- a pattern on a text column: the two matchers agree on the post's plain text
    rw [if_pos hl]
    simp only [if_pos hl] at h
    split_ifs at h with ht
    cases h
    have hstext : ∀ s, p.value c = .text s → postTable.column p c.name = .text s := by
      intro s hs
      show p.column c.name = _
      rw [← hstored, hs]
      rfl
    rcases Post.value_of_text p hc (not_not.mp ht) with hv | hv
    · rw [hv]
      simp only [Sql.Atom.holds, hstext _ hv]
      rw [Text.likeMatch_lowercase _ hplain.1 hplain.2.2.1]
    · rw [hv]
      simp only [Sql.Atom.holds, hstext _ hv]
      rw [Text.likeMatch_lowercase _ hplain.2.1 hplain.2.2.2]
  · -- comparisons: the stored column compares with each literal as the value does
    rw [if_neg hl]
    simp only [if_neg hl] at h
    cases hvs : q.values.mapM (c.kind.coerce q.field) with
    | error e => rw [hvs] at h; cases h
    | ok vs =>
      rw [hvs] at h
      simp only [Except.map, Except.ok.injEq]
      refine (verdict_eq_holds h fun v hv => ?_).symm
      obtain ⟨raw, hraw, hv'⟩ := mem_of_mapM_ok hvs v hv
      obtain ⟨hvk, hvt⟩ := coerce_spec hv'
      have hcol : postTable.column p c.name = Sql.stored (p.value c) := hstored.symm
      rw [hcol]
      refine stored_compare (hk.trans hvk.symm) fun x y hx hy => hS x ?_ y ?_
      · rw [htime x hx]
        exact hp
      · exact hq y (List.mem_filterMap.mpr ⟨raw, hraw, hvt y hy⟩)

theorem compile_error_of_satisfies {e : Error} (hf : Text.IsAscii q.field)
    (h : satisfies p q = .error e) : ∃ e', Sql.compile postFields q = .error e' ∧ e.SameCheck e' := by
  cases hc : postColumn? q.field with
  | none =>
    -- both report the unknown field
    unfold satisfies at h
    rw [lookup_post_none p hc] at h
    cases h
    refine ⟨.unknownField q.field, ?_, .inl rfl⟩
    unfold Sql.compile
    rw [resolve_post_none hf hc]
    rfl
  | some c =>
    rw [satisfies_post p hc] at h
    unfold Sql.compile
    rw [resolve_post_some hf hc]
    simp only [bind, Except.bind]
    by_cases hl : q.operator = .like
    · -- the column holds no text: the in-memory store names its kind, the database text
      rw [if_pos hl] at h
      rw [if_pos hl]
      obtain ⟨hk, -⟩ := Post.value_spec p hc
      have ht : c.kind ≠ .text := by
        intro ht
        rcases Post.value_of_text p hc ht with hv | hv <;> rw [hv] at h <;> cases h
      have he : e = .typeMismatch q.field (q.first?.getD "") c.kind := by
        rw [← hk]
        cases hv : p.value c <;> rw [hv] at h <;> cases h <;> rfl
      refine ⟨_, ?_, .inr ⟨_, _, _, he, rfl⟩⟩
      rw [if_pos ht]
      rfl
    · -- a literal that does not read fails alike in both
      rw [if_neg hl] at h
      rw [if_neg hl]
      cases hvs : q.values.mapM (c.kind.coerce q.field) with
      | error e' =>
        rw [hvs] at h
        cases h
        exact ⟨e, rfl, .inl rfl⟩
      | ok vs =>
        rw [hvs] at h
        cases h

theorem compile_ok {c : Sql.Column} (hf : Text.IsAscii q.field) (hc : postColumn? q.field = some c)
    (hlike : q.operator = .like → c.kind = .text)
    (hlits : q.operator ≠ .like → ∃ vs, q.values.mapM (c.kind.coerce q.field) = .ok vs)
    (harity : q.operator.arity.accepts q.values.length) :
    ∃ a, Sql.compile postFields q = .ok a := by
  unfold Sql.compile
  rw [resolve_post_some hf hc]
  simp only [bind, Except.bind]
  by_cases hl : q.operator = .like
  · rw [if_pos hl, if_neg (not_not.mpr (hlike hl))]
    exact ⟨_, rfl⟩
  · rw [if_neg hl]
    obtain ⟨vs, hvs⟩ := hlits hl
    have hlen : vs.length = q.values.length := length_of_mapM_ok hvs
    rw [hvs]
    rw [← hlen] at harity
    -- the arity fixes the shape of the literals
    cases hop : q.operator <;> rw [hop] at harity hl <;>
      simp only [Operator.arity, Arity.accepts, beq_iff_eq, decide_eq_true_eq] at harity
    case like => exact absurd rfl hl
    case between =>
      match vs, harity with
      | [lo, hi], _ => exact ⟨_, rfl⟩
    case oneOf =>
      match vs, harity with
      | v :: rest, _ => exact ⟨_, rfl⟩
    all_goals
      match vs, harity with
      | [v], _ => exact ⟨_, rfl⟩

theorem compile_ok_of_satisfies {b : Bool} (hf : Text.IsAscii q.field)
    (harity : q.operator.arity.accepts q.values.length) (h : satisfies p q = .ok b) :
    ∃ a, Sql.compile postFields q = .ok a := by
  cases hc : postColumn? q.field with
  | none =>
    unfold satisfies at h
    rw [lookup_post_none p hc] at h
    cases h
  | some c =>
    rw [satisfies_post p hc] at h
    refine compile_ok hf hc (fun hl => ?_) (fun hl => ?_) harity
    · rw [if_pos hl] at h
      obtain ⟨hk, -⟩ := Post.value_spec p hc
      rw [← hk]
      cases hv : p.value c <;> rw [hv] at h <;> cases h
      rfl
    · rw [if_neg hl] at h
      cases hvs : q.values.mapM (c.kind.coerce q.field) with
      | error e => rw [hvs] at h; cases h
      | ok vs => exact ⟨vs, rfl⟩

end Filter

section Filters

variable {p : Post} {ps : List Predicate}

theorem passes_eq_satisfies {atoms : List Sql.Atom} {S : List Time.Instant}
    (hf : ∀ q ∈ ps, Text.IsAscii q.field) (hplain : p.PlainTexts) (hS : StoredInOrder S)
    (hp : p.createdAt ∈ S) (hq : ∀ q ∈ ps, ∀ t ∈ q.instants, t ∈ S)
    (h : ps.mapM (Sql.compile postFields) = .ok atoms) :
    passes p ps = .ok (postTable.satisfies ⟨atoms⟩ p) := by
  induction ps generalizing atoms with
  | nil =>
    simp only [List.mapM_nil, pure, Except.pure, Except.ok.injEq] at h
    subst h
    rfl
  | cons q ps ih =>
    rw [List.mapM_cons] at h
    cases ha : Sql.compile postFields q with
    | error e => rw [ha] at h; cases h
    | ok a =>
      cases hr : ps.mapM (Sql.compile postFields) with
      | error e => rw [ha, hr] at h; cases h
      | ok rest =>
        rw [ha, hr] at h
        simp only [bind, Except.bind, pure, Except.pure, Except.ok.injEq] at h
        subst h
        have hq' := satisfies_eq_holds (hf q List.mem_cons_self) hplain hS hp
          (hq q List.mem_cons_self) ha
        have hrest := ih (fun q' h' => hf q' (List.mem_cons_of_mem q h')) (fun q' h' => hq q' (List.mem_cons_of_mem q h')) hr
        simp only [passes, hq', bind, Except.bind]
        cases hb : a.holds (postTable.column p)
        · simp [Sql.Table.satisfies, hb, pure, Except.pure]
        · simpa [Sql.Table.satisfies, hb] using hrest

theorem passes_error {α : Type} [Row α] {row : α} {e : Error} :
    ∀ {ps : List Predicate}, passes row ps = .error e →
      ∃ ps₁ q ps₂, ps = ps₁ ++ q :: ps₂ ∧ (∀ q' ∈ ps₁, satisfies row q' = .ok true) ∧
        satisfies row q = .error e
  | [], h => by cases h
  | q :: ps, h => by
    simp only [passes] at h
    cases hq : satisfies row q with
    | error e' =>
      rw [hq] at h
      cases h
      exact ⟨[], q, ps, rfl, by simp, hq⟩
    | ok b =>
      cases b with
      | false => simp [hq, bind, Except.bind, pure, Except.pure] at h
      | true =>
        simp only [hq, bind, Except.bind, if_true] at h
        obtain ⟨ps₁, q', ps₂, rfl, hok, hq'⟩ := passes_error h
        refine ⟨q :: ps₁, q', ps₂, rfl, ?_, hq'⟩
        simp only [List.mem_cons, forall_eq_or_imp]
        exact ⟨hq, hok⟩

theorem satisfies_of_passes {α : Type} [Row α] {row : α} :
    ∀ {ps : List Predicate}, passes row ps = .ok true → ∀ q ∈ ps, satisfies row q = .ok true
  | [], _ => by simp
  | q :: ps, h => by
    simp only [passes] at h
    cases hq : satisfies row q with
    | error e => rw [hq] at h; cases h
    | ok b =>
      cases b with
      | false => simp [hq, bind, Except.bind, pure, Except.pure] at h
      | true =>
        simp only [hq, bind, Except.bind, if_true] at h
        simp only [List.mem_cons, forall_eq_or_imp]
        exact ⟨hq, satisfies_of_passes h⟩

theorem keep_eq_filter {α : Type} [Row α] {P : α → Bool} :
    ∀ {rows : List α}, (∀ row ∈ rows, passes row ps = .ok (P row)) → keep ps rows = .ok (rows.filter P)
  | [], _ => rfl
  | row :: rows, h => by
    have hrest := keep_eq_filter fun r hr => h r (List.mem_cons_of_mem row hr)
    simp only [keep, h row List.mem_cons_self, hrest, bind, Except.bind, pure, Except.pure]
    cases hP : P row <;> simp [hP]

theorem keep_error {α : Type} [Row α] {e : Error} :
    ∀ {rows : List α}, keep ps rows = .error e → ∃ row ∈ rows, passes row ps = .error e
  | [], h => by cases h
  | row :: rows, h => by
    simp only [keep] at h
    cases hp : passes row ps with
    | error e' =>
      rw [hp] at h
      cases h
      exact ⟨row, List.mem_cons_self, hp⟩
    | ok b =>
      cases hk : keep ps rows with
      | error e' =>
        rw [hp, hk] at h
        cases h
        obtain ⟨r, hr, hpr⟩ := keep_error hk
        exact ⟨r, List.mem_cons_of_mem row hr, hpr⟩
      | ok rest => rw [hp, hk] at h; cases h

theorem passes_of_mem_keep {α : Type} [Row α] {row : α} :
    ∀ {rows T : List α}, keep ps rows = .ok T → row ∈ T → passes row ps = .ok true
  | [], T, h, hmem => by
    simp only [keep, Except.ok.injEq] at h
    subst h
    cases hmem
  | r :: rows, T, h, hmem => by
    simp only [keep] at h
    cases hp : passes r ps with
    | error e => rw [hp] at h; cases h
    | ok b =>
      cases hk : keep ps rows with
      | error e => rw [hp, hk] at h; cases h
      | ok rest =>
        rw [hp, hk] at h
        simp only [bind, Except.bind, pure, Except.pure, Except.ok.injEq] at h
        subst h
        cases b with
        | false => exact passes_of_mem_keep hk (by simpa using hmem)
        | true =>
          simp only [if_true, List.mem_cons] at hmem
          rcases hmem with rfl | hmem
          · exact hp
          · exact passes_of_mem_keep hk hmem

end Filters

theorem compareKeys_eq_compareBy {a b : Post} {S : List Time.Instant} (hS : StoredInOrder S)
    (ha : a.createdAt ∈ S) (hb : b.createdAt ∈ S) :
    ∀ {ks : List OrderKey} {vsa vsb : List Field.Value} {cols : List (String × SortDir)},
      (∀ k ∈ ks, Text.IsAscii k.field) →
      ks.mapM (fun k => lookup a k.field) = .ok vsa → ks.mapM (fun k => lookup b k.field) = .ok vsb →
      ks.mapM (fun k => do let c ← postFields.resolve k.field; pure (c.name, k.dir)) = .ok cols →
      compareKeys ks vsa vsb = postTable.compareBy cols a b := by
  -- by induction on the keys, not by matching on them: a match would make Lean evaluate the
  -- resolution of a key against the whole field table while it checks the patterns
  intro ks
  induction ks with
  | nil =>
    intro vsa vsb cols _ ha' hb' hc'
    simp only [List.mapM_nil, pure, Except.pure, Except.ok.injEq] at ha' hb' hc'
    subst ha' hb' hc'
    rfl
  | cons k ks ih =>
    intro vsa vsb cols hf ha' hb' hc'
    have hfk : Text.IsAscii k.field := hf k List.mem_cons_self
    cases hk : postColumn? k.field with
    | none =>
      rw [List.mapM_cons, resolve_post_none hfk hk] at hc'
      cases hc'
    | some c =>
      rw [List.mapM_cons, lookup_post_some a hk] at ha'
      rw [List.mapM_cons, lookup_post_some b hk] at hb'
      rw [List.mapM_cons, resolve_post_some hfk hk] at hc'
      cases hra : ks.mapM (fun k => lookup a k.field) with
      | error e => rw [hra] at ha'; cases ha'
      | ok vsa' =>
      cases hrb : ks.mapM (fun k => lookup b k.field) with
      | error e => rw [hrb] at hb'; cases hb'
      | ok vsb' =>
      cases hrc : ks.mapM (fun k => do let c ← postFields.resolve k.field; pure (c.name, k.dir)) with
      | error e => rw [hrc] at hc'; cases hc'
      | ok cols' =>
      rw [hra] at ha'
      rw [hrb] at hb'
      rw [hrc] at hc'
      simp only [bind, Except.bind, pure, Except.pure, Except.ok.injEq] at ha' hb' hc'
      subst ha' hb' hc'
      have hrest := ih (fun k' h' => hf k' (List.mem_cons_of_mem k h')) hra hrb hrc
      -- the first key: the stored columns compare as the values do
      obtain ⟨hka, hsa, hta⟩ := Post.value_spec a hk
      obtain ⟨hkb, hsb, htb⟩ := Post.value_spec b hk
      have hhead : (postTable.column a c.name).compare (postTable.column b c.name) =
          (a.value c).compare (b.value c) := by
        show (a.column c.name).compare (b.column c.name) = _
        rw [← hsa, ← hsb]
        refine stored_compare (hka.trans hkb.symm) fun x y hx hy => hS x ?_ y ?_
        · rw [hta x hx]; exact ha
        · rw [htb y hy]; exact hb
      cases hd : k.dir <;> simp only [compareKeys, Sql.Table.compareBy, hhead, hrest, hd]

theorem isAscii_of_postColumn? {f : String} {c : Sql.Column} (hc : postColumn? f = some c) :
    Text.IsAscii f := by
  have hmem : (Text.asciiLower f, c) ∈ postFields.entries := by
    obtain ⟨l₁, l₂, hl, -⟩ := List.lookup_eq_some_iff.mp hc
    rw [hl]
    exact List.mem_append_right l₁ List.mem_cons_self
  -- the field names of posts are ASCII, and folding keeps every other character
  have hkeys : ∀ e ∈ postFields.entries, Text.IsAscii e.1 := by
    rw [postFields_entries]
    simp [Text.IsAscii]
  have hlower : Text.IsAscii (Text.asciiLower f) := hkeys (Text.asciiLower f, c) hmem
  exact Text.isAscii_of_asciiLower hlower

theorem mem_ensureTiebreaker {o : OrderBy} {f : String} {d : SortDir} {k : OrderKey}
    (hk : k ∈ (o.ensureTiebreaker f d).keys) : k ∈ o.keys ∨ k = ⟨f, d⟩ := by
  unfold OrderBy.ensureTiebreaker at hk
  split_ifs at hk
  · simpa using hk
  · exact .inl hk

/-- What lets both stores accept a spec over posts: every filter and sort key names a column,
every literal reads as its column's kind, patterns go to text columns only, and every filter
fits its operator's arity. -/
structure Spec.PostValid (spec : Spec) : Prop where
  fields : ∀ q ∈ spec.filters.values, (postColumn? q.field).isSome
  keys : ∀ k ∈ spec.order.keys, (postColumn? k.field).isSome
  literals : ∀ q ∈ spec.filters.values, ∀ c, postColumn? q.field = some c → q.operator ≠ .like →
    ∀ v ∈ q.values, (c.kind.coerce q.field v).isOk
  patterns : ∀ q ∈ spec.filters.values, ∀ c, postColumn? q.field = some c → q.operator = .like →
    c.kind = .text
  arity : ∀ q ∈ spec.filters.values, q.operator.arity.accepts q.values.length

section Stores

variable {R : List Post} {spec : Spec}

/-- The sort keys both stores use: the spec's, then the tiebreaker. -/
abbrev Spec.sortKeys (spec : Spec) : List OrderKey :=
  (spec.order.ensureTiebreaker tiebreakerField spec.order.primaryDir).keys

theorem Spec.PostValid.key_column (hv : spec.PostValid) :
    ∀ k ∈ spec.sortKeys, ∃ c, postColumn? k.field = some c := by
  intro k hk
  rcases mem_ensureTiebreaker hk with hk | rfl
  · exact Option.isSome_iff_exists.mp (hv.keys k hk)
  · exact ⟨⟨"id", .integer⟩, by show postColumn? "id" = _; rw [postColumn?, postFields_entries]; decide⟩

theorem Spec.PostValid.compileAll (hv : spec.PostValid) :
    ∃ atoms, spec.filters.values.mapM (Sql.compile postFields) = .ok atoms := by
  apply mapM_ok_iff.mpr
  intro q hq
  obtain ⟨c, hc⟩ := Option.isSome_iff_exists.mp (hv.fields q hq)
  refine compile_ok (isAscii_of_postColumn? hc) hc (hv.patterns q hq c hc) (fun hl => ?_)
    (hv.arity q hq)
  apply mapM_ok_iff.mpr
  intro v hv'
  have hok := hv.literals q hq c hc hl v hv'
  cases hw : c.kind.coerce q.field v with
  | ok w => exact ⟨w, rfl⟩
  | error e => simp [hw, Except.isOk, Except.toBool] at hok

theorem Spec.PostValid.ordered (hv : spec.PostValid) :
    ∃ cols, spec.sortKeys.mapM (fun (k : OrderKey) => do
      let c ← postFields.resolve k.field
      pure (c.name, k.dir)) = .ok cols := by
  apply mapM_ok_iff.mpr
  intro k hk
  obtain ⟨c, hc⟩ := hv.key_column k hk
  exact ⟨(c.name, k.dir), by rw [resolve_post_some (isAscii_of_postColumn? hc) hc]; rfl⟩

/-- Over posts with plain texts and instants stored in order, the in-memory select of a valid
spec is the database's run of the compiled statement, with the database's count. -/
theorem select_eq_run {atoms : List Sql.Atom} {cols : List (String × SortDir)}
    (hplain : ∀ p ∈ R, p.PlainTexts) (hv : spec.PostValid)
    (htime : StoredInOrder (R.map (·.createdAt) ++ spec.instants))
    (hatoms : spec.filters.values.mapM (Sql.compile postFields) = .ok atoms)
    (hcols : spec.sortKeys.mapM (fun (k : OrderKey) => do
      let c ← postFields.resolve k.field
      pure (c.name, k.dir)) = .ok cols) :
    select R spec = .ok (postTable.run R ((postDatabase (some R)).statement ⟨atoms⟩ cols spec),
      postTable.count R ⟨atoms⟩) := by
  have hS : ∀ p ∈ R, p.createdAt ∈ R.map (·.createdAt) ++ spec.instants :=
    fun p hp => List.mem_append_left _ (List.mem_map_of_mem hp)
  have hq : ∀ q ∈ spec.filters.values, ∀ t ∈ q.instants, t ∈ R.map (·.createdAt) ++ spec.instants :=
    fun q hq t ht => List.mem_append_right _ (List.mem_flatMap.mpr ⟨q, hq, ht⟩)
  have hfa : ∀ q ∈ spec.filters.values, Text.IsAscii q.field := by
    intro q hq
    obtain ⟨c, hc⟩ := Option.isSome_iff_exists.mp (hv.fields q hq)
    exact isAscii_of_postColumn? hc
  have hka : ∀ k ∈ spec.sortKeys, Text.IsAscii k.field := by
    intro k hk
    obtain ⟨c, hc⟩ := hv.key_column k hk
    exact isAscii_of_postColumn? hc
  -- the filters keep the rows the compiled condition holds of
  have hkeep : keep spec.filters.values R = .ok (R.filter (postTable.satisfies ⟨atoms⟩)) :=
    keep_eq_filter fun p hp => passes_eq_satisfies hfa (hplain p hp) htime (hS p hp) hq hatoms
  -- every kept row has all its sort keys
  obtain ⟨keyed, hkeyed⟩ : ∃ keyed, (R.filter (postTable.satisfies ⟨atoms⟩)).mapM (fun r => do
      let ks ← spec.sortKeys.mapM fun (k : OrderKey) => lookup r k.field
      pure (ks, r)) = .ok keyed := by
    apply mapM_ok_iff.mpr
    intro r _
    obtain ⟨vs, hvs⟩ : ∃ vs, spec.sortKeys.mapM (fun (k : OrderKey) => lookup r k.field) = .ok vs := by
      apply mapM_ok_iff.mpr
      intro k hk
      obtain ⟨c, hc⟩ := hv.key_column k hk
      exact ⟨_, lookup_post_some r hc⟩
    exact ⟨(vs, r), by rw [hvs]; rfl⟩
  obtain ⟨hmap, hvals⟩ := mapM_pair hkeyed
  -- the two sorts compare every pair of kept rows alike
  have hsort : (keyed.mergeSort fun a b => compareKeys spec.sortKeys a.1 b.1 != .gt).map (·.2) =
      (R.filter (postTable.satisfies ⟨atoms⟩)).mergeSort
        fun a b => postTable.compareBy cols a b != .gt := by
    rw [← hmap]
    apply List.map_mergeSort
    intro x hx y hy
    have hxR : x.2 ∈ R := List.mem_of_mem_filter (hmap ▸ List.mem_map_of_mem hx)
    have hyR : y.2 ∈ R := List.mem_of_mem_filter (hmap ▸ List.mem_map_of_mem hy)
    rw [compareKeys_eq_compareBy htime (hS _ hxR) (hS _ hyR) hka (hvals x hx) (hvals y hy) hcols]
  simp only [bind, Except.bind] at hkeyed
  unfold select
  simp only [hkeep, bind, Except.bind]
  rw [hkeyed]
  dsimp only [pure, Except.pure]
  rw [List.map_take, List.map_drop, hsort]
  rfl

theorem postDatabase_filtered {atoms : List Sql.Atom} (R : Option (List Post))
    (h : spec.filters.values.mapM (Sql.compile postFields) = .ok atoms) :
    (postDatabase R).filtered spec = .ok ⟨atoms⟩ := by
  unfold Store.Database.filtered Sql.compileAll
  simp only [postDatabase, h, bind, Except.bind, pure, Except.pure]
  rfl

theorem postDatabase_ordered {cols : List (String × SortDir)} (R : Option (List Post))
    (h : spec.sortKeys.mapM (fun (k : OrderKey) => do
      let c ← postFields.resolve k.field
      pure (c.name, k.dir)) = .ok cols) :
    (postDatabase R).ordered spec = .ok cols := by
  unfold Store.Database.ordered
  simp only [postDatabase]
  rw [h]
  rfl

/-- Over posts whose texts are ASCII and hold no `%`, and whose creation instants are stored in
order with the spec's instants, the in-memory store and the database store of posts answer a
valid spec alike: the same page, and the same page with the same count. -/
theorem memory_agrees_with_database (hplain : ∀ p ∈ R, p.PlainTexts) (hv : spec.PostValid)
    (htime : StoredInOrder (R.map (·.createdAt) ++ spec.instants)) :
    (Repository.memory R).find spec = (postDatabase (some R)).find spec ∧
      (Repository.memory R).findAndCount spec = (postDatabase (some R)).findAndCount spec := by
  obtain ⟨atoms, hatoms⟩ := hv.compileAll
  obtain ⟨cols, hcols⟩ := hv.ordered
  have hsel := select_eq_run hplain hv htime hatoms hcols
  have hfiltered := postDatabase_filtered (some R) hatoms
  have hordered := postDatabase_ordered (some R) hcols
  constructor
  · simp only [Repository.memory, Store.Database.find, hsel, hfiltered, hordered]
    rfl
  · simp only [Repository.memory, Store.Database.findAndCount, hsel, hfiltered, hordered]
    rfl

theorem Spec.sortKeys_ascii (hkeys : ∀ k ∈ spec.order.keys, Text.IsAscii k.field) :
    ∀ k ∈ spec.sortKeys, Text.IsAscii k.field := by
  intro k hk
  rcases mem_ensureTiebreaker hk with hk | rfl
  · exact hkeys k hk
  · simp [Text.IsAscii, tiebreakerField]

/-- Four posts a minute apart, the third at a fractional second. -/
def minutePosts : List Post :=
  [⟨1, "hello", "first", 1, 0, 0, ⟨60, 0⟩⟩, ⟨2, "yellow", "second", 1, 3, 0, ⟨120, 0⟩⟩,
    ⟨3, "bell", "third", 2, 0, 1, ⟨180, 500⟩⟩, ⟨4, "world", "fourth", 2, 0, 0, ⟨240, 0⟩⟩]

/-- Posts after 00:01:30 whose title holds `ell`, newest first and then by title. -/
def recentTitledSpec : Spec :=
  ⟨⟨[("createdAt", ⟨"createdAt", .gt, ["1970-01-01T00:01:30Z"]⟩),
    ("title", ⟨"title", .like, ["%ell%"]⟩)], by decide⟩,
    ⟨[⟨"createdAt", .desc⟩, ⟨"title", .asc⟩]⟩, 20, none⟩

theorem memory_agrees_with_database_on_titles :
    (∀ p ∈ minutePosts, p.PlainTexts) ∧ recentTitledSpec.PostValid ∧
      StoredInOrder (minutePosts.map (·.createdAt) ++ recentTitledSpec.instants) ∧
      (Repository.memory minutePosts).find recentTitledSpec =
        (postDatabase (some minutePosts)).find recentTitledSpec ∧
      (Repository.memory minutePosts).findAndCount recentTitledSpec =
        (postDatabase (some minutePosts)).findAndCount recentTitledSpec := by
  have hplain : ∀ p ∈ minutePosts, p.PlainTexts := by
    simp [minutePosts, Post.PlainTexts, Text.IsAscii]
  have hv : recentTitledSpec.PostValid :=
    -- the columns read off the table of field names, which the kernel then need not build
    ⟨by simp only [postColumn?, postFields_entries]; decide,
      by simp only [postColumn?, postFields_entries]; decide,
      by simp only [postColumn?, postFields_entries]; decide,
      by simp only [postColumn?, postFields_entries]; decide, by decide⟩
  have htime : StoredInOrder (minutePosts.map (·.createdAt) ++ recentTitledSpec.instants) := by
    unfold StoredInOrder
    decide +kernel
  exact ⟨hplain, hv, htime, memory_agrees_with_database hplain hv htime⟩

/-- A failed select in memory failed at one of its two stages: a filter on some row, or a sort
key on a row the filters kept. -/
theorem select_error {α : Type} [Row α] {rows : List α} {e : Error}
    (h : select rows spec = .error e) :
    keep spec.filters.values rows = .error e ∨ ∃ T, keep spec.filters.values rows = .ok T ∧
      ∃ r ∈ T, spec.sortKeys.mapM (fun (k : OrderKey) => lookup r k.field) = .error e := by
  unfold select at h
  cases hk : keep spec.filters.values rows with
  | error e₀ =>
    rw [hk] at h
    cases h
    exact .inl rfl
  | ok T =>
    rw [hk] at h
    simp only [bind, Except.bind] at h
    obtain ⟨T₁, r, T₂, hT, -, hr⟩ := mapM_error_split (by
      split at h
      · rename_i e' he
        cases h
        exact he
      · cases h)
    refine .inr ⟨T, rfl, r, by rw [hT]; simp, ?_⟩
    split at hr
    · cases hr
      assumption
    · cases hr

theorem compile_error_of_keep_error {ps : List Predicate} {e : Error}
    (hfields : ∀ q ∈ ps, Text.IsAscii q.field)
    (harity : ∀ q ∈ ps, q.operator.arity.accepts q.values.length) (h : keep ps R = .error e) :
    ∃ e', ps.mapM (Sql.compile postFields) = .error e' ∧ e.SameCheck e' := by
  obtain ⟨r, -, hr⟩ := keep_error h
  obtain ⟨ps₁, q, ps₂, rfl, hok, hq⟩ := passes_error hr
  obtain ⟨e', hc, hsame⟩ := compile_error_of_satisfies (hfields q (by simp)) hq
  have hearlier : ∀ q' ∈ ps₁, ∃ a, Sql.compile postFields q' = .ok a := fun q' hq' =>
    compile_ok_of_satisfies (hfields q' (by simp [hq'])) (harity q' (by simp [hq'])) (hok q' hq')
  exact ⟨e', mapM_error_of_split hearlier hc, hsame⟩

theorem resolve_error_of_lookup_error {p : Post} {ks : List OrderKey} {e : Error}
    (hkeys : ∀ k ∈ ks, Text.IsAscii k.field)
    (h : ks.mapM (fun (k : OrderKey) => lookup p k.field) = .error e) :
    ks.mapM (fun (k : OrderKey) => do
      let c ← postFields.resolve k.field
      pure (c.name, k.dir)) = .error e := by
  obtain ⟨ks₁, k, ks₂, rfl, hok, hke⟩ := mapM_error_split h
  obtain ⟨hnone, rfl⟩ := postColumn?_of_lookup_error hke
  refine mapM_error_of_split (fun k' hk' => ?_) ?_
  · obtain ⟨v, hv⟩ := hok k' hk'
    obtain ⟨c, hc⟩ := postColumn?_of_lookup_ok hv
    exact ⟨(c.name, k'.dir), by rw [resolve_post_some (hkeys k' (by simp [hk'])) hc]; rfl⟩
  · rw [resolve_post_none (hkeys k (by simp)) hnone]
    rfl

/-- Every rejection by the in-memory store is a rejection by the database of the same check, and
the database makes it whatever rows its table holds. -/
theorem database_rejects_what_memory_rejects {e : Error}
    (hfields : ∀ q ∈ spec.filters.values, Text.IsAscii q.field)
    (hkeys : ∀ k ∈ spec.order.keys, Text.IsAscii k.field)
    (harity : ∀ q ∈ spec.filters.values, q.operator.arity.accepts q.values.length)
    (h : (Repository.memory R).find spec = .error (.rejected e)) :
    ∃ e', e.SameCheck e' ∧ ∀ R', (postDatabase (some R')).find spec = .error (.rejected e') := by
  have hsel : select R spec = .error e := by
    simp only [Repository.memory] at h
    cases hs : select R spec with
    | error e' =>
      rw [hs] at h
      cases h
      rfl
    | ok res => rw [hs] at h; cases h
  rcases select_error hsel with hk | ⟨T, hk, r, hrT, hr⟩
  · -- a filter failed on some row: the database fails when it compiles the filters
    obtain ⟨e', hall, hsame⟩ := compile_error_of_keep_error hfields harity hk
    refine ⟨e', hsame, fun R' => ?_⟩
    simp only [Store.Database.find, Store.Database.filtered, Sql.compileAll, postDatabase, hall,
      bind, Except.bind, Except.mapError]
  · -- a sort key failed on a kept row: that row passed every filter, so the filters compile,
    -- and the database fails when it resolves the keys
    obtain ⟨atoms, hatoms⟩ := mapM_ok_iff.mpr fun q hq =>
      compile_ok_of_satisfies (hfields q hq) (harity q hq)
        (satisfies_of_passes (passes_of_mem_keep hk hrT) q hq)
    have hresolve := resolve_error_of_lookup_error (Spec.sortKeys_ascii hkeys) hr
    refine ⟨e, .inl rfl, fun R' => ?_⟩
    simp only [Store.Database.find, postDatabase_filtered (some R') hatoms, bind, Except.bind]
    simp only [Store.Database.ordered, postDatabase, hresolve, Except.mapError]

/-- A filter on a field posts do not have, met by a post in memory, is rejected by the database
whatever rows its table holds. -/
theorem database_rejects_unknown_filter_field :
    (∀ q ∈ (⟨⟨[("nope", ⟨"nope", .eq, ["1"]⟩)], by decide⟩, ⟨[⟨"createdAt", .asc⟩]⟩, 20, none⟩ : Spec).filters.values,
        Text.IsAscii q.field) ∧
      (∀ k ∈ (⟨⟨[("nope", ⟨"nope", .eq, ["1"]⟩)], by decide⟩, ⟨[⟨"createdAt", .asc⟩]⟩, 20, none⟩ : Spec).order.keys,
        Text.IsAscii k.field) ∧
      (∀ q ∈ (⟨⟨[("nope", ⟨"nope", .eq, ["1"]⟩)], by decide⟩, ⟨[⟨"createdAt", .asc⟩]⟩, 20, none⟩ : Spec).filters.values,
        q.operator.arity.accepts q.values.length) ∧
      (Repository.memory [(⟨1, "hello", "world", 2, 0, 0, ⟨60, 0⟩⟩ : Post)]).find
          ⟨⟨[("nope", ⟨"nope", .eq, ["1"]⟩)], by decide⟩, ⟨[⟨"createdAt", .asc⟩]⟩, 20, none⟩ =
        .error (.rejected (.unknownField "nope")) ∧
      ∃ e', (Error.unknownField "nope").SameCheck e' ∧ ∀ R', (postDatabase (some R')).find
          ⟨⟨[("nope", ⟨"nope", .eq, ["1"]⟩)], by decide⟩, ⟨[⟨"createdAt", .asc⟩]⟩, 20, none⟩ =
        .error (.rejected e') := by
  have hfields : ∀ q ∈ (⟨⟨[("nope", ⟨"nope", .eq, ["1"]⟩)], by decide⟩, ⟨[⟨"createdAt", .asc⟩]⟩, 20, none⟩ :
      Spec).filters.values, Text.IsAscii q.field := by
    simp [TextMap.values, Text.IsAscii]
  have hkeys : ∀ k ∈ (⟨⟨[("nope", ⟨"nope", .eq, ["1"]⟩)], by decide⟩, ⟨[⟨"createdAt", .asc⟩]⟩, 20, none⟩ :
      Spec).order.keys, Text.IsAscii k.field := by
    simp [Text.IsAscii]
  have harity : ∀ q ∈ (⟨⟨[("nope", ⟨"nope", .eq, ["1"]⟩)], by decide⟩, ⟨[⟨"createdAt", .asc⟩]⟩, 20, none⟩ :
      Spec).filters.values, q.operator.arity.accepts q.values.length := by
    decide
  have hmem : (Repository.memory [(⟨1, "hello", "world", 2, 0, 0, ⟨60, 0⟩⟩ : Post)]).find
      ⟨⟨[("nope", ⟨"nope", .eq, ["1"]⟩)], by decide⟩, ⟨[⟨"createdAt", .asc⟩]⟩, 20, none⟩ =
      .error (.rejected (.unknownField "nope")) := by
    decide +kernel
  exact ⟨hfields, hkeys, harity, hmem, database_rejects_what_memory_rejects hfields hkeys harity hmem⟩

/-- Over no rows the in-memory store never meets a filter, so it accepts a filter on a field
posts do not have, which the database rejects. -/
theorem memory_accepts_unknown_field_without_rows :
    (Repository.memory ([] : List Post)).find
        ⟨⟨[("nope", ⟨"nope", .eq, ["1"]⟩)], by decide⟩, ⟨[⟨"createdAt", .asc⟩]⟩, 20, none⟩ = .ok [] ∧
      (postDatabase (some [])).find
        ⟨⟨[("nope", ⟨"nope", .eq, ["1"]⟩)], by decide⟩, ⟨[⟨"createdAt", .asc⟩]⟩, 20, none⟩ =
        .error (.rejected (.unknownField "nope")) := by
  have hfields : postFields = ⟨postFields.entries⟩ := rfl
  rw [postDatabase, hfields, postFields_entries]
  decide +kernel

end Stores

end Folio
