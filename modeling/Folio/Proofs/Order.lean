import Folio.Order
import Mathlib

namespace Folio

theorem eraseDups_nodup {α : Type} [BEq α] [LawfulBEq α] (l : List α) : l.eraseDups.Nodup := by
  cases hl : l with
  | nil => simp
  | cons a rest =>
    rw [List.eraseDups_cons]
    refine List.nodup_cons.mpr ⟨fun ha => ?_, eraseDups_nodup _⟩
    have := List.mem_filter.mp (List.mem_eraseDups.mp ha)
    simp at this
termination_by l.length
decreasing_by
  have := List.length_filter_le (fun b => !b == a) rest
  simp_all only [List.length_cons]
  omega

theorem eraseDups_append_singleton {α : Type} [BEq α] [LawfulBEq α] (l : List α) (a : α) :
    (l ++ [a]).eraseDups = if a ∈ l then l.eraseDups else l.eraseDups ++ [a] := by
  rw [List.eraseDups_append]
  split_ifs with h
  · have hnil : [a].removeAll l = [] := by simpa [List.removeAll] using h
    rw [hnil, List.eraseDups_nil, List.append_nil]
  · have hone : [a].removeAll l = [a] := by simpa [List.removeAll] using h
    rw [hone, List.eraseDups_cons, List.filter_nil, List.eraseDups_nil]

/-- The order that direction assignments describe: each field once, in the order of its first
assignment, with the direction of its last. -/
def OrderBy.ofAssignments (l : List (String × SortDir)) : OrderBy :=
  ⟨(l.map Prod.fst).eraseDups.map fun f => ⟨f, (l.reverse.lookup f).getD .asc⟩⟩

@[simp] theorem OrderBy.ofAssignments_nil : OrderBy.ofAssignments [] = {} := rfl

theorem OrderKey.setIn_map {F : List String} (hF : F.Nodup) (g : String → SortDir) (f : String)
    (d : SortDir) :
    setIn (F.map fun x => ⟨x, g x⟩) f d =
      if f ∈ F then F.map (fun x => ⟨x, if x = f then d else g x⟩)
      else F.map (fun x => ⟨x, g x⟩) ++ [⟨f, d⟩] := by
  induction F with
  | nil => simp [setIn]
  | cons x F ih =>
    obtain ⟨hx, hF⟩ := List.nodup_cons.mp hF
    simp only [List.map_cons, setIn]
    by_cases hxf : x = f
    · -- the field is the first one, and the others differ from it
      subst hxf
      have hrest : F.map (fun y => (⟨y, if y = x then d else g y⟩ : OrderKey)) =
          F.map fun y => ⟨y, g y⟩ :=
        List.map_congr_left fun y hy => by rw [if_neg (fun h : y = x => hx (h ▸ hy))]
      simp [hrest]
    · rw [if_neg hxf, ih hF]
      by_cases hf : f ∈ F
      · simp [hf, hxf]
      · have hf' : f ∉ x :: F := by simp [hf, Ne.symm hxf]
        simp [hf, hf']

/-- Setting a field on fields listed in the order they were first named is naming it once more:
the fields named before keep their place, and only the set one changes direction. -/
theorem OrderKey.setIn_eraseDups (F : List String) (g : String → SortDir) (f : String)
    (d : SortDir) :
    setIn (F.eraseDups.map fun x => ⟨x, g x⟩) f d =
      (F ++ [f]).eraseDups.map fun x => ⟨x, if x = f then d else g x⟩ := by
  rw [setIn_map (eraseDups_nodup F), eraseDups_append_singleton]
  by_cases hf : f ∈ F
  · rw [if_pos (List.mem_eraseDups.mpr hf), if_pos hf]
  · -- a new field comes last, after fields that all differ from it
    rw [if_neg (mt List.mem_eraseDups.mp hf), if_neg hf, List.map_append, List.map_singleton,
      if_pos rfl]
    congr 1
    exact List.map_congr_left fun x hx =>
      by rw [if_neg (fun h : x = f => hf (h ▸ List.mem_eraseDups.mp hx))]

theorem lookup_reverse_append (l : List (String × SortDir)) (f x : String) (d : SortDir) :
    (l ++ [(f, d)]).reverse.lookup x = if x = f then some d else l.reverse.lookup x := by
  rw [List.reverse_append, List.reverse_singleton, List.singleton_append, List.lookup_cons]
  by_cases h : x = f
  · subst h
    simp
  · rw [if_neg h, beq_false_of_ne h]

theorem OrderBy.set_ofAssignments (l : List (String × SortDir)) (f : String) (d : SortDir) :
    (ofAssignments l).set f d = ofAssignments (l ++ [(f, d)]) := by
  unfold ofAssignments set
  rw [OrderKey.setIn_eraseDups]
  simp only [List.map_append, List.map_singleton]
  congr 1
  exact List.map_congr_left fun x _ => by rw [lookup_reverse_append]; split_ifs <;> rfl

theorem OrderBy.set_empty (f : String) (d : SortDir) : OrderBy.set {} f d = ofAssignments
    [(f, d)] := by
  rw [← ofAssignments_nil, set_ofAssignments]
  rfl

theorem OrderBy.foldl_set_ofAssignments (l : List (String × SortDir)) :
    ∀ l' : List (String × SortDir),
      l'.foldl (fun o a => o.set a.1 a.2) (ofAssignments l) = ofAssignments (l ++ l')
  | [] => by simp
  | a :: l' => by
    rw [List.foldl_cons, set_ofAssignments, foldl_set_ofAssignments (l ++ [(a.1, a.2)]) l',
      List.append_assoc]
    rfl

end Folio
