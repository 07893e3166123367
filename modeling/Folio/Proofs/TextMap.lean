import Folio.TextMap
import Mathlib

namespace Folio.TextMap

variable {β : Type}

theorem ext_entries {m₁ m₂ : TextMap β} (h : m₁.entries = m₂.entries) : m₁ = m₂ := by
  cases m₁
  cases m₂
  cases h
  rfl

theorem find?_insertEntry_self (l : List (String × β)) (k : String) (v : β) :
    (insertEntry l k v).find? (·.1 == k) = some (k, v) := by
  induction l with
  | nil => simp [insertEntry]
  | cons a l ih =>
    unfold insertEntry
    split_ifs with hlt heq
    · simp
    · simp
    · rw [List.find?_cons_of_neg (by simpa using Ne.symm heq), ih]

theorem find?_insertEntry_other (l : List (String × β)) {k k' : String} (v : β) (h : k' ≠ k) :
    (insertEntry l k v).find? (·.1 == k') = l.find? (·.1 == k') := by
  induction l with
  | nil => simp [insertEntry, Ne.symm h]
  | cons a l ih =>
    unfold insertEntry
    split_ifs with hlt heq
    · rw [List.find?_cons_of_neg (by simpa using Ne.symm h)]
    · subst heq
      rw [List.find?_cons_of_neg (by simpa using Ne.symm h),
        List.find?_cons_of_neg (by simpa using Ne.symm h)]
    · simp only [List.find?_cons, ih]

@[simp] theorem entries_insert (m : TextMap β) (k : String) (v : β) :
    (m.insert k v).entries = insertEntry m.entries k v := rfl

@[simp] theorem get?_empty (k : String) : ({} : TextMap β).get? k = none := rfl

theorem get?_insert (m : TextMap β) (k k' : String) (v : β) :
    (m.insert k v).get? k' = if k' = k then some v else m.get? k' := by
  unfold get? insert
  split_ifs with h
  · subst h; simp [find?_insertEntry_self]
  · simp only [find?_insertEntry_other _ _ h]

@[simp] theorem get?_insert_self (m : TextMap β) (k : String) (v : β) :
    (m.insert k v).get? k = some v := by simp [get?_insert]

theorem get?_insert_of_ne (m : TextMap β) {k k' : String} (v : β) (h : k' ≠ k) :
    (m.insert k v).get? k' = m.get? k' := by simp [get?_insert, h]

theorem exists_mem_of_get? {m : TextMap β} {k : String} {v : β} (h : m.get? k = some v) :
    ∃ e ∈ m.entries, e.1 = k := by
  unfold get? at h
  obtain ⟨e, he, -⟩ := Option.map_eq_some_iff.mp h
  exact ⟨e, List.mem_of_find?_eq_some he, by simpa using List.find?_some he⟩

theorem mem_of_get? {m : TextMap β} {k : String} {v : β} (h : m.get? k = some v) :
    (k, v) ∈ m.entries := by
  unfold get? at h
  obtain ⟨e, he, rfl⟩ := Option.map_eq_some_iff.mp h
  have hk : e.1 = k := by simpa using List.find?_some he
  rw [← hk]
  exact List.mem_of_find?_eq_some he

theorem lookup_cons_eq (a : String × β) (l : List (String × β)) (k : String) :
    (a :: l).lookup k = if k = a.1 then some a.2 else l.lookup k := by
  obtain ⟨k', v⟩ := a
  by_cases h : k = k'
  · subst h
    simp [List.lookup]
  · simp [List.lookup, beq_false_of_ne h, h]

theorem get?_eq_lookup (m : TextMap β) (k : String) : m.get? k = m.entries.lookup k := by
  unfold get?
  induction m.entries with
  | nil => rfl
  | cons a l ih =>
    rw [lookup_cons_eq, List.find?_cons]
    by_cases h : k = a.1
    · simp [h]
    · simp [beq_false_of_ne (Ne.symm h), if_neg h, ih]

theorem lookup_eq_none_of_le {a : String × β} {l : List (String × β)} (h : SortedKeys (a :: l))
    {k : String} (hk : k < a.1 ∨ k = a.1) : l.lookup k = none := by
  rw [List.lookup_eq_none_iff]
  intro b hb
  have hab := List.rel_of_pairwise_cons h hb
  rw [bne_iff_ne]
  rintro rfl
  rcases hk with hk | hk
  · exact String.lt_irrefl _ (String.lt_trans hk hab)
  · rw [hk] at hab; exact String.lt_irrefl _ hab

theorem lookup_of_mem {l : List (String × β)} (h : SortedKeys l) {e : String × β} (he : e ∈ l) :
    l.lookup e.1 = some e.2 := by
  induction l with
  | nil => simp at he
  | cons a l ih =>
    rw [lookup_cons_eq]
    rcases List.mem_cons.mp he with rfl | he
    · simp
    · have hlt := List.rel_of_pairwise_cons h he
      rw [if_neg (String.ne_of_lt hlt).symm, ih (List.pairwise_cons.mp h).2 he]

theorem get?_of_mem {m : TextMap β} {e : String × β} (he : e ∈ m.entries) :
    m.get? e.1 = some e.2 := by
  rw [get?_eq_lookup, lookup_of_mem m.sorted he]

theorem lookup_filter {l : List (String × β)} (h : SortedKeys l) (f : String × β → Bool)
    (k : String) : (l.filter f).lookup k = (l.lookup k).filter fun v => f (k, v) := by
  induction l with
  | nil => rfl
  | cons a l ih =>
    have ht := ih (List.pairwise_cons.mp h).2
    rw [List.filter_cons, lookup_cons_eq]
    by_cases hk : k = a.1
    · subst hk
      rw [if_pos rfl, Option.filter_some, Prod.mk.eta]
      split_ifs with hf
      · rw [lookup_cons_eq, if_pos rfl]
      · rw [ht, lookup_eq_none_of_le h (.inr rfl), Option.filter_none]
    · rw [if_neg hk]
      split_ifs
      · rw [lookup_cons_eq, if_neg hk, ht]
      · exact ht

/-- A key below every key of a sorted list is found in a list that starts with it, and not in
the sorted one. -/
theorem lookup_ne_of_lt {a b : String × β} {l₁ l₂ : List (String × β)} (h₂ : SortedKeys (b :: l₂))
    (hlt : a.1 < b.1) : (a :: l₁).lookup a.1 ≠ (b :: l₂).lookup a.1 := by
  rw [lookup_cons_eq, lookup_cons_eq, if_pos rfl, if_neg (String.ne_of_lt hlt),
    lookup_eq_none_of_le h₂ (.inl hlt)]
  exact Option.some_ne_none _

theorem eq_of_lookup : ∀ {l₁ l₂ : List (String × β)}, SortedKeys l₁ → SortedKeys l₂ →
    (∀ k, l₁.lookup k = l₂.lookup k) → l₁ = l₂
  | [], [], _, _, _ => rfl
  | [], b :: l₂, _, _, h => by simpa [lookup_cons_eq] using h b.1
  | a :: l₁, [], _, _, h => by simpa [lookup_cons_eq] using h a.1
  | a :: l₁, b :: l₂, h₁, h₂, h => by
    -- the least keys agree, since each list finds its own least key
    have hab : a.1 = b.1 := by
      by_contra hne
      rcases lt_or_gt_of_ne hne with hlt | hgt
      · exact lookup_ne_of_lt h₂ hlt (h a.1)
      · exact lookup_ne_of_lt h₁ hgt (h b.1).symm
    have hv : a.2 = b.2 := by
      have := h a.1
      rw [lookup_cons_eq, lookup_cons_eq, if_pos rfl, if_pos hab] at this
      exact Option.some.inj this
    have htail : l₁ = l₂ := by
      refine eq_of_lookup (List.pairwise_cons.mp h₁).2 (List.pairwise_cons.mp h₂).2 fun k => ?_
      by_cases hk : k = a.1
      · rw [lookup_eq_none_of_le h₁ (.inr hk), lookup_eq_none_of_le h₂ (.inr (hk.trans hab))]
      · have := h k
        rwa [lookup_cons_eq, lookup_cons_eq, if_neg hk, if_neg fun h' => hk (h'.trans hab.symm)]
          at this
    rw [Prod.ext hab hv, htail]

theorem ext_get? {m₁ m₂ : TextMap β} (h : ∀ k, m₁.get? k = m₂.get? k) : m₁ = m₂ :=
  ext_entries (eq_of_lookup m₁.sorted m₂.sorted fun k => by rw [← get?_eq_lookup, h, get?_eq_lookup])

theorem insert_comm (m : TextMap β) {k k' : String} (v v' : β) (h : k ≠ k') :
    (m.insert k v).insert k' v' = (m.insert k' v').insert k v := by
  refine ext_get? fun j => ?_
  simp only [get?_insert]
  -- only a key equal to both `k` and `k'` could tell the two orders apart
  by_cases hk : j = k
  · rw [if_pos hk, if_neg fun hk' => h (hk.symm.trans hk'), if_pos hk]
  · rw [if_neg hk, if_neg hk]

/-- Entries inserted one by one into a map, in list order. -/
def insertAll (m : TextMap β) (l : List (String × β)) : TextMap β :=
  l.foldl (fun m e => m.insert e.1 e.2) m

theorem get?_insertAll_of_not_mem {m : TextMap β} {k : String} :
    ∀ {l : List (String × β)}, (∀ e ∈ l, e.1 ≠ k) → (m.insertAll l).get? k = m.get? k
  | [], _ => rfl
  | e :: l, h => by
    rw [insertAll, List.foldl_cons, ← insertAll, get?_insertAll_of_not_mem fun e' he' =>
      h e' (List.mem_cons_of_mem e he'), get?_insert_of_ne _ _ (h e (List.mem_cons_self ..)).symm]

theorem get?_insertAll (m : TextMap β) (l : List (String × β)) (k : String) :
    (m.insertAll l).get? k = (l.reverse.lookup k).or (m.get? k) := by
  induction l generalizing m with
  | nil => rfl
  | cons e l ih =>
    obtain ⟨k', v⟩ := e
    rw [insertAll, List.foldl_cons, ← insertAll, ih, get?_insert, List.reverse_cons,
      List.lookup_append, Option.or_assoc]
    by_cases h : k = k'
    · simp [h]
    · simp [h, List.lookup_cons, beq_false_of_ne h]

theorem keys_ne_insertAll {m : TextMap β} {k : String} (hm : ∀ e ∈ m.entries, e.1 ≠ k) :
    ∀ {l : List (String × β)}, (∀ e ∈ l, e.1 ≠ k) → ∀ e ∈ (m.insertAll l).entries, e.1 ≠ k
  | [], _ => hm
  | e :: l, h => by
    rw [insertAll, List.foldl_cons, ← insertAll]
    refine keys_ne_insertAll (fun e' he' => ?_) fun e' he' => h e' (List.mem_cons_of_mem e he')
    rcases mem_insertEntry he' with rfl | he'
    · exact h _ List.mem_cons_self
    · exact hm e' he'

theorem insertAll_insert (m : TextMap β) {k : String} (v : β) :
    ∀ {l : List (String × β)}, (∀ e ∈ l, e.1 ≠ k) →
      (m.insert k v).insertAll l = (m.insertAll l).insert k v
  | [], _ => rfl
  | e :: l, h => by
    simp only [insertAll, List.foldl_cons]
    rw [insert_comm m v e.2 (h e (List.mem_cons_self ..)).symm]
    exact insertAll_insert (m.insert e.1 e.2) v fun e' he' => h e' (List.mem_cons_of_mem e he')

theorem insertAll_perm {l l' : List (String × β)} (hp : l.Perm l') :
    (l.map Prod.fst).Nodup → ∀ m : TextMap β, m.insertAll l = m.insertAll l' := by
  induction hp with
  | nil => intro _ m; rfl
  | cons e _ ih =>
    intro hl m
    exact ih (List.nodup_cons.mp hl).2 (m.insert e.1 e.2)
  | swap e e' l =>
    intro hl m
    -- the two first keys differ, so their inserts commute
    have hne : e'.1 ≠ e.1 := fun h => (List.nodup_cons.mp hl).1 (by simp [h])
    simp only [insertAll, List.foldl_cons, insert_comm m e'.2 e.2 hne]
  | trans h₁ _ ih₁ ih₂ =>
    intro hl m
    rw [ih₁ hl m, ih₂ ((h₁.map Prod.fst).nodup_iff.mp hl) m]

theorem insertEntry_of_lt {l : List (String × β)} {k : String} (v : β)
    (h : ∀ e ∈ l, e.1 < k) : insertEntry l k v = l ++ [(k, v)] := by
  induction l with
  | nil => rfl
  | cons a l ih =>
    have ha := h a (List.mem_cons_self ..)
    rw [insertEntry, if_neg (String.lt_asymm ha), if_neg (String.ne_of_lt ha).symm,
      ih fun e he => h e (List.mem_cons_of_mem a he), List.cons_append]

theorem insertEntry_split {l : List (String × β)} {k : String} (v : β) (h : ∀ e ∈ l, e.1 ≠ k) :
    ∃ l₁ l₂, l = l₁ ++ l₂ ∧ insertEntry l k v = l₁ ++ (k, v) :: l₂ := by
  induction l with
  | nil => exact ⟨[], [], rfl, rfl⟩
  | cons a l ih =>
    rw [insertEntry]
    split_ifs with hlt heq
    · exact ⟨[], a :: l, rfl, rfl⟩
    · exact absurd heq.symm (h a (List.mem_cons_self ..))
    · obtain ⟨l₁, l₂, rfl, he⟩ := ih fun e he => h e (List.mem_cons_of_mem a he)
      exact ⟨a :: l₁, l₂, rfl, by rw [he, List.cons_append]⟩

theorem entries_insertAll_of_sorted :
    ∀ {m : TextMap β} {l : List (String × β)}, SortedKeys (m.entries ++ l) →
      (m.insertAll l).entries = m.entries ++ l
  | _, [], _ => by simp [insertAll]
  | m, a :: l, h => by
    have hm : ∀ e ∈ m.entries, e.1 < a.1 := fun e he =>
      (List.pairwise_append.mp h).2.2 e he a (List.mem_cons_self ..)
    have ha : (m.insert a.1 a.2).entries = m.entries ++ [a] := insertEntry_of_lt a.2 hm
    simp only [insertAll, List.foldl_cons]
    have hsorted : SortedKeys ((m.insert a.1 a.2).entries ++ l) := by
      rw [ha, List.append_assoc, List.singleton_append]
      exact h
    rw [← insertAll, entries_insertAll_of_sorted hsorted, ha, List.append_assoc,
      List.singleton_append]

/-- A map is rebuilt by inserting its entries into the empty map. -/
theorem empty_insertAll_entries (m : TextMap β) : ({} : TextMap β).insertAll m.entries = m :=
  ext_entries (entries_insertAll_of_sorted (by simpa using m.sorted))

theorem get?_eq_lookup_reverse (m : TextMap β) (k : String) :
    m.get? k = m.entries.reverse.lookup k := by
  have h := get?_insertAll ({} : TextMap β) m.entries k
  rw [empty_insertAll_entries] at h
  simpa using h

end Folio.TextMap
