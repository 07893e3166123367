namespace Folio

/-- Entries in strictly increasing key order (code point order, which is also the byte order of
the UTF-8 encoding), so that each key occurs once. -/
def TextMap.SortedKeys {β : Type} (l : List (String × β)) : Prop :=
  l.Pairwise fun a b => a.1 < b.1

instance {β : Type} (l : List (String × β)) : Decidable (TextMap.SortedKeys l) :=
  inferInstanceAs (Decidable (l.Pairwise _))

theorem TextMap.sortedKeys_nil {β : Type} : TextMap.SortedKeys ([] : List (String × β)) :=
  List.Pairwise.nil

/-- A map from texts: its entries, sorted by key with distinct keys. -/
structure TextMap (β : Type) where
  entries : List (String × β) := []
  sorted : TextMap.SortedKeys entries := by exact TextMap.sortedKeys_nil
  deriving DecidableEq, Repr

namespace TextMap

variable {β : Type}

def insertEntry : List (String × β) → String → β → List (String × β)
  | [], k, v => [(k, v)]
  | (k', v') :: rest, k, v =>
    if k < k' then (k, v) :: (k', v') :: rest
    else if k = k' then (k, v) :: rest
    else (k', v') :: insertEntry rest k v

theorem mem_insertEntry {l : List (String × β)} {k : String} {v : β} {e : String × β}
    (h : e ∈ insertEntry l k v) : e = (k, v) ∨ e ∈ l := by
  induction l with
  | nil => exact .inl (List.mem_singleton.mp h)
  | cons a l ih =>
    unfold insertEntry at h
    split at h
    · exact List.mem_cons.mp h
    · split at h
      · exact (List.mem_cons.mp h).imp_right (List.mem_cons_of_mem a)
      · rcases List.mem_cons.mp h with rfl | h
        · exact .inr List.mem_cons_self
        · exact (ih h).imp_right (List.mem_cons_of_mem _)

theorem sorted_insertEntry {l : List (String × β)} (k : String) (v : β) (h : SortedKeys l) :
    SortedKeys (insertEntry l k v) := by
  induction l with
  | nil => exact List.pairwise_singleton _ _
  | cons a l ih =>
    obtain ⟨ha, hl⟩ := List.pairwise_cons.mp h
    unfold insertEntry
    by_cases hlt : k < a.1
    · rw [if_pos hlt]
      refine List.Pairwise.cons (fun b hb => ?_) h
      rcases List.mem_cons.mp hb with rfl | hb
      · exact hlt
      · exact String.lt_trans hlt (ha b hb)
    by_cases heq : k = a.1
    · rw [if_neg hlt, if_pos heq, heq]
      exact List.Pairwise.cons ha hl
    · rw [if_neg hlt, if_neg heq]
      -- the new key lies beyond the head, so the head stays first
      have hgt : a.1 < k := Std.lt_of_le_of_ne (String.not_lt.mp hlt) (Ne.symm heq)
      refine List.Pairwise.cons (fun b hb => ?_) (ih hl)
      rcases mem_insertEntry hb with rfl | hb
      · exact hgt
      · exact ha b hb

def insert (m : TextMap β) (k : String) (v : β) : TextMap β :=
  ⟨insertEntry m.entries k v, sorted_insertEntry k v m.sorted⟩

def get? (m : TextMap β) (k : String) : Option β := (m.entries.find? fun e => e.1 == k).map (·.2)

def size (m : TextMap β) : Nat := m.entries.length

def values (m : TextMap β) : List β := m.entries.map (·.2)

end TextMap

end Folio
