import Folio.Proofs.Order
import Mathlib

namespace Folio.OrderBy

inductive Step where
  | set (field : String) (dir : SortDir)
  | tiebreaker (field : String) (dir : SortDir)
  deriving DecidableEq, Repr

def Step.field : Step → String
  | .set f _ => f
  | .tiebreaker f _ => f

def Step.tiebreakerDir? : Step → Option SortDir
  | .set _ _ => none
  | .tiebreaker _ d => some d

def Step.apply (o : OrderBy) : Step → OrderBy
  | .set f d => o.set f d
  | .tiebreaker f d => o.ensureTiebreaker f d

def run (steps : List Step) : OrderBy := steps.foldl Step.apply {}

def lastSet (steps : List Step) (f : String) : Option SortDir :=
  (steps.filterMap fun s => match s with
    | .set g d => if g = f then some d else none
    | .tiebreaker _ _ => none).getLast?

/-- The call of a run that first names a field: the one that puts it in the order. -/
def inserter? (steps : List Step) (f : String) : Option Step := steps.find? (·.field == f)

/-- The direction a run gives a field: that of its last setting, or else that of the tiebreaker
that added it; none for a field the run never names. -/
def dirOf (steps : List Step) (f : String) : Option SortDir :=
  (lastSet steps f).or ((inserter? steps f).bind Step.tiebreakerDir?)

/-- The order a run describes: the fields in the order they were first named, each with the
direction the run gives it. -/
def spec (steps : List Step) : OrderBy :=
  ⟨(steps.map Step.field).eraseDups.map fun f => ⟨f, (dirOf steps f).getD .asc⟩⟩

theorem run_append_singleton (steps : List Step) (s : Step) :
    run (steps ++ [s]) = Step.apply (run steps) s := by
  simp [run, List.foldl_append]

section Describe

variable (steps : List Step) (x : String)

theorem lastSet_eq_none_iff : lastSet steps x = none ↔ ∀ d, Step.set x d ∉ steps := by
  unfold lastSet
  rw [List.getLast?_eq_none_iff, List.filterMap_eq_nil_iff]
  constructor
  · intro h d hd
    simpa using h _ hd
  · intro h s hs
    cases s with
    | set g d =>
      have hg : g ≠ x := fun hg => h d (hg ▸ hs)
      simp [hg]
    | tiebreaker g d => rfl

theorem inserter?_eq_none_iff : inserter? steps x = none ↔ x ∉ steps.map Step.field := by
  simp [inserter?, List.find?_eq_none]

theorem inserter?_spec {s : Step} (h : inserter? steps x = some s) : s ∈ steps ∧ s.field = x :=
  ⟨List.mem_of_find?_eq_some h, by simpa using List.find?_some h⟩

theorem inserter?_append (s : Step) :
    inserter? (steps ++ [s]) x = (inserter? steps x).or (if s.field = x then some s else none) := by
  unfold inserter?
  rw [List.find?_append]
  by_cases h : s.field = x <;> simp [h]

theorem inserter?_append_of_mem {x : String} (hx : x ∈ steps.map Step.field) (s : Step) :
    inserter? (steps ++ [s]) x = inserter? steps x := by
  obtain ⟨s', hs'⟩ := Option.ne_none_iff_exists'.mp
    (mt (inserter?_eq_none_iff steps x).mp (not_not.mpr hx))
  rw [inserter?_append, hs', Option.some_or]

theorem dirOf_eq_none_iff : dirOf steps x = none ↔ x ∉ steps.map Step.field := by
  unfold dirOf
  rw [Option.or_eq_none_iff]
  constructor
  · rintro ⟨hl, hi⟩
    rw [← inserter?_eq_none_iff]
    cases hs : inserter? steps x with
    | none => rfl
    | some s =>
      obtain ⟨hmem, hf⟩ := inserter?_spec steps x hs
      rw [hs] at hi
      cases s with
      | set g d =>
        -- the call that names the field first sets it, so the field has a last setting
        obtain rfl : g = x := hf
        exact absurd hmem ((lastSet_eq_none_iff steps g).mp hl d)
      | tiebreaker g d => simp [Step.tiebreakerDir?] at hi
  · intro hx
    refine ⟨(lastSet_eq_none_iff steps x).mpr fun d hd => hx (List.mem_map.mpr ⟨_, hd, rfl⟩), ?_⟩
    rw [(inserter?_eq_none_iff steps x).mpr hx, Option.bind_none]

theorem exists_dirOf_of_mem {x : String} (hx : x ∈ steps.map Step.field) :
    ∃ e, dirOf steps x = some e :=
  Option.ne_none_iff_exists'.mp (mt (dirOf_eq_none_iff steps x).mp (not_not.mpr hx))

theorem dirOf_append_set (f : String) (d : SortDir) :
    dirOf (steps ++ [.set f d]) x = if x = f then some d else dirOf steps x := by
  unfold dirOf
  rw [inserter?_append]
  unfold lastSet
  by_cases h : x = f
  · subst h
    simp
  · simp [h, Ne.symm h, Step.field]

theorem dirOf_append_tiebreaker (f : String) (d : SortDir) :
    dirOf (steps ++ [.tiebreaker f d]) x = (dirOf steps x).or (if x = f then some d else none) := by
  by_cases hx : x ∈ steps.map Step.field
  · -- a field named before keeps its direction
    obtain ⟨e, he⟩ := exists_dirOf_of_mem steps hx
    rw [he, Option.some_or, ← he]
    unfold dirOf
    rw [inserter?_append_of_mem steps hx]
    simp [lastSet]
  · have hn := (dirOf_eq_none_iff steps x).mpr hx
    have hl : lastSet steps x = none := (Option.or_eq_none_iff.mp hn).1
    rw [hn, Option.none_or]
    unfold dirOf
    rw [inserter?_append, (inserter?_eq_none_iff steps x).mpr hx, Option.none_or]
    have hl' : lastSet (steps ++ [.tiebreaker f d]) x = none := by simpa [lastSet] using hl
    by_cases h : x = f
    · subst h
      simp [hl', Step.field, Step.tiebreakerDir?]
    · simp [hl', h, Ne.symm h, Step.field]

end Describe

theorem get?_spec (steps : List Step) (x : String) : (spec steps).get? x = dirOf steps x := by
  unfold get? spec
  rw [List.find?_map]
  by_cases hx : x ∈ steps.map Step.field
  · have hfind : (steps.map Step.field).eraseDups.find? (fun f => f == x) = some x := by
      cases h : (steps.map Step.field).eraseDups.find? (fun f => f == x) with
      | none =>
        rw [List.find?_eq_none] at h
        exact absurd (List.mem_eraseDups.mpr hx) fun hm => by simpa using h x hm
      | some y => simpa using List.find?_some h
    obtain ⟨e, he⟩ := exists_dirOf_of_mem steps hx
    simp [hfind, he]
  · have hfind : (steps.map Step.field).eraseDups.find? (fun f => f == x) = none := by
      rw [List.find?_eq_none]
      intro y hy hyx
      obtain rfl : y = x := beq_iff_eq.mp hyx
      exact hx (List.mem_eraseDups.mp hy)
    simp [hfind, (dirOf_eq_none_iff steps x).mpr hx]

theorem spec_append_set (steps : List Step) (f : String) (d : SortDir) :
    spec (steps ++ [.set f d]) = (spec steps).set f d := by
  unfold spec OrderBy.set
  rw [OrderKey.setIn_eraseDups]
  simp only [List.map_append, List.map_singleton, Step.field]
  congr 1
  exact List.map_congr_left fun x _ => by rw [dirOf_append_set]; split_ifs <;> rfl

theorem spec_append_tiebreaker (steps : List Step) (f : String) (d : SortDir) :
    spec (steps ++ [.tiebreaker f d]) = (spec steps).ensureTiebreaker f d := by
  unfold ensureTiebreaker
  rw [get?_spec]
  unfold spec
  simp only [List.map_append, List.map_singleton, Step.field, eraseDups_append_singleton,
    dirOf_append_tiebreaker]
  by_cases hf : f ∈ steps.map Step.field
  · -- the field is there: every field keeps the direction it had
    obtain ⟨e, he⟩ := exists_dirOf_of_mem steps hf
    rw [if_pos hf, he, Option.isNone_some, if_neg Bool.false_ne_true]
    congr 1
    refine List.map_congr_left fun x hx => ?_
    obtain ⟨e, he⟩ := exists_dirOf_of_mem steps (List.mem_eraseDups.mp hx)
    rw [he, Option.some_or]
  · have hnone := (dirOf_eq_none_iff steps f).mpr hf
    rw [if_neg hf, hnone, Option.isNone_none, if_pos rfl]
    simp only [List.map_append, List.map_singleton, hnone, Option.none_or]
    congr 2
    refine List.map_congr_left fun x hx => ?_
    have hxf : x ≠ f := fun h => hf (h ▸ List.mem_eraseDups.mp hx)
    rw [if_neg hxf, Option.or_none]

/-- A run builds the order it describes. -/
theorem run_eq_spec (steps : List Step) : run steps = spec steps := by
  induction steps using List.reverseRecOn with
  | nil => rfl
  | append_singleton steps s ih =>
    rw [run_append_singleton, ih]
    cases s with
    | set f d => exact (spec_append_set steps f d).symm
    | tiebreaker f d => exact (spec_append_tiebreaker steps f d).symm

theorem fields_run (steps : List Step) :
    (run steps).keys.map OrderKey.field = (steps.map Step.field).eraseDups := by
  rw [run_eq_spec]
  simp [spec, Function.comp_def]

theorem get?_run (steps : List Step) (x : String) : (run steps).get? x = dirOf steps x := by
  rw [run_eq_spec, get?_spec]

theorem primaryDir_run (steps : List Step) :
    (run steps).primaryDir = (steps.head?.bind fun s => dirOf steps s.field).getD .asc := by
  rw [run_eq_spec]
  cases steps with
  | nil => rfl
  | cons s rest => simp [spec, primaryDir, List.eraseDups_cons]

section Tiebreaker

variable (o : OrderBy) (f : String) (d : SortDir)

theorem get?_ensureTiebreaker_self : (o.ensureTiebreaker f d).get? f = (o.get? f).or (some d) := by
  unfold ensureTiebreaker
  cases h : o.get? f with
  | none =>
    have hfind : o.keys.find? (fun k => k.field == f) = none := by
      simpa [get?] using h
    simp [get?, List.find?_append, hfind]
  | some e => simp [h]

theorem ensureTiebreaker_ensureTiebreaker (d' : SortDir) :
    (o.ensureTiebreaker f d).ensureTiebreaker f d' = o.ensureTiebreaker f d := by
  have h := get?_ensureTiebreaker_self o f d
  generalize o.ensureTiebreaker f d = p at h ⊢
  unfold ensureTiebreaker
  rw [h]
  cases o.get? f <;> rfl

theorem keys_prefix_ensureTiebreaker : o.keys <+: (o.ensureTiebreaker f d).keys := by
  unfold ensureTiebreaker
  split_ifs
  · exact List.prefix_append _ _
  · exact List.prefix_refl _

end Tiebreaker

/-- Sort orders built from the empty order by any run of settings and tiebreakers list each
field once, in the order the run first names it; a field's direction is that of its last
setting, or else that of the tiebreaker that added it; the primary direction is that of the
field named first. A tiebreaker on any order keeps every key in place, and repeating it does
nothing. -/
theorem run_order_invariant (steps : List Step) :
    ((run steps).keys.map OrderKey.field).Nodup ∧
    (run steps).keys.map OrderKey.field = (steps.map Step.field).eraseDups ∧
    (∀ f, (run steps).get? f = dirOf steps f) ∧
    (run steps).primaryDir = (steps.head?.bind fun s => dirOf steps s.field).getD .asc ∧
    ∀ (o : OrderBy) (f : String) (d d' : SortDir),
      (o.ensureTiebreaker f d).ensureTiebreaker f d' = o.ensureTiebreaker f d ∧
      o.keys <+: (o.ensureTiebreaker f d).keys := by
  refine ⟨?_, fields_run steps, get?_run steps, primaryDir_run steps, fun o f d d' =>
    ⟨ensureTiebreaker_ensureTiebreaker o f d d', keys_prefix_ensureTiebreaker o f d⟩⟩
  rw [fields_run]
  exact eraseDups_nodup _

example : (run [.set "createdAt" .asc, .set "title" .desc, .set "createdAt" .desc,
    .tiebreaker "id" .desc, .tiebreaker "id" .asc]).signedTokens = "-createdAt,-title,-id" := by
  decide

end Folio.OrderBy
