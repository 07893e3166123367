import Folio.Link
import Folio.Proofs.TextMap
import Folio.Proofs.Text.Decimal
import Mathlib

namespace Folio.Request

open Folio.TextMap

/-- The page size that a recorded value asks for, if it reads as one. -/
def readTake (v : String) : Option Nat :=
  let t := Text.trim v
  if t.isEmpty then some defaultTake else (positive? t).filter (· ≤ maxOffset)

/-- The creation-time direction that a recorded value asks for, if it reads as one. -/
def readDir (v : String) : Option SortDir :=
  let t := Text.trim v
  if t.isEmpty then some .asc else (SortDir.parse t).toOption

/-- The page size of a parameter map: what its `take` value reads as, or the default. -/
def takeOf (m : TextMap String) : Nat := ((m.get? takeKey).bind readTake).getD defaultTake

def dirOf (m : TextMap String) : SortDir := ((m.get? createdAtKey).bind readDir).getD .asc

/-- What a successful assignment did: recorded the parameter, and read a page, page size or
direction from it when its key names one. -/
theorem assign_eq_ok {r r' : Request} {k v : String} (h : r.assign k v = (r', none)) :
    r'.params = r.params.insert k v ∧
    (k = pageKey → (r'.page = none ↔ (Text.trim v).isEmpty)) ∧ (k ≠ pageKey → r'.page = r.page) ∧
    (k = takeKey → readTake v = some r'.take) ∧ (k ≠ takeKey → r'.take = r.take) ∧
    (k = createdAtKey → readDir v = some r'.createdAtDir) ∧
    (k ≠ createdAtKey → r'.createdAtDir = r.createdAtDir) := by
  have hpt : pageKey ≠ takeKey := by decide
  have hpc : pageKey ≠ createdAtKey := by decide
  have htc : takeKey ≠ createdAtKey := by decide
  unfold assign at h
  dsimp only at h
  split_ifs at h with hp ht hc hc
  all_goals repeat' split at h
  -- the failing branches answer an error; in the others `r'` is the recorded request
  all_goals cases h
  all_goals
    refine ⟨rfl, ?_, ?_, ?_, ?_, ?_, ?_⟩ <;> intro hk <;>
      simp_all [readTake, readDir, record, Except.toOption]

theorem set_of_reads {r : Request} {k v : String} (hp : r.page = none)
    (hpage : k = pageKey → (Text.trim v).isEmpty) (htake : k = takeKey → (readTake v).isSome)
    (hdir : k = createdAtKey → (readDir v).isSome) : ∃ r', r.set k v = .ok r' := by
  unfold set assign
  dsimp only
  split_ifs with h₁ h₂ h₃ h₄ h₅ h₆
  · exact ⟨_, rfl⟩
  · exact absurd (hpage h₁) h₂
  · exact ⟨{ r with take := defaultTake }.record k v, by simp [offsetError?, hp]⟩
  · obtain ⟨n, hn⟩ := Option.isSome_iff_exists.mp (htake h₃)
    simp only [readTake, h₄, Bool.false_eq_true, if_false] at hn
    exact ⟨{ r with take := n }.record k v, by simp [hn, offsetError?, hp]⟩
  · exact ⟨_, rfl⟩
  · obtain ⟨d, hd⟩ := Option.isSome_iff_exists.mp (hdir h₅)
    simp only [readDir, h₆] at hd
    cases hparse : SortDir.parse (Text.trim v) with
    | ok d' => exact ⟨_, rfl⟩
    | error e => simp [hparse, Except.toOption] at hd
  · exact ⟨_, rfl⟩

theorem assign_of_set {r r' : Request} {k v : String} (h : r.set k v = .ok r') :
    r.assign k v = (r', none) := by
  unfold set at h
  split at h
  · next r'' he => cases h; exact he
  · cases h

theorem takeOf_insert (m : TextMap String) (k v : String) :
    takeOf (m.insert k v) = if k = takeKey then (readTake v).getD defaultTake else takeOf m := by
  unfold takeOf
  split_ifs with h
  · subst h; simp
  · rw [get?_insert_of_ne _ _ (Ne.symm h)]

theorem dirOf_insert (m : TextMap String) (k v : String) :
    dirOf (m.insert k v) = if k = createdAtKey then (readDir v).getD .asc else dirOf m := by
  unfold dirOf
  split_ifs with h
  · subst h; simp
  · rw [get?_insert_of_ne _ _ (Ne.symm h)]

/-- Recording `v` at `k` keeps the page size read back from the parameters, when a `take` value
is read as the new page size and any other key leaves the page size alone. -/
theorem take_of_insert {r r' : Request} {k v : String} (hp : r'.params = r.params.insert k v)
    (h : r.take = takeOf r.params) (htake : k = takeKey → readTake v = some r'.take)
    (htake' : k ≠ takeKey → r'.take = r.take) : r'.take = takeOf r'.params := by
  rw [hp, takeOf_insert]
  split_ifs with hk
  · rw [htake hk]; rfl
  · rw [htake' hk, h]

theorem dir_of_insert {r r' : Request} {k v : String} (hp : r'.params = r.params.insert k v)
    (h : r.createdAtDir = dirOf r.params)
    (hdir : k = createdAtKey → readDir v = some r'.createdAtDir)
    (hdir' : k ≠ createdAtKey → r'.createdAtDir = r.createdAtDir) :
    r'.createdAtDir = dirOf r'.params := by
  rw [hp, dirOf_insert]
  split_ifs with hk
  · rw [hdir hk]; rfl
  · rw [hdir' hk, h]

/-- A value that reads as what its key names: a blank page, a page size or a direction. -/
def ValueReads (k v : String) : Prop :=
  (k = pageKey → (Text.trim v).isEmpty) ∧ (k = takeKey → (readTake v).isSome) ∧
    (k = createdAtKey → (readDir v).isSome)

theorem foldlM_set_of_reads : ∀ {l : List (String × String)} {q : Request}, q.page = none →
    q.take = takeOf q.params → q.createdAtDir = dirOf q.params →
    (∀ e ∈ l, ValueReads e.1 e.2) →
    l.foldlM (fun r kv => r.set kv.1 kv.2) q = .ok ⟨none, takeOf (q.params.insertAll l),
      dirOf (q.params.insertAll l), q.params.insertAll l⟩
  | [], q, hp, ht, hd, _ => by
    obtain ⟨page, take, dir, params⟩ := q
    simp_all [insertAll]
    rfl
  | e :: l, q, hp, ht, hd, hl => by
    have he := hl e (List.mem_cons_self ..)
    obtain ⟨q', hq'⟩ := set_of_reads hp he.1 he.2.1 he.2.2
    obtain ⟨hparams, hpage, hpage', htake, htake', hdir, hdir'⟩ := assign_eq_ok (assign_of_set hq')
    -- the request after the first value is again a cursor request read from its parameters
    have hp' : q'.page = none := by
      by_cases hk : e.1 = pageKey
      · exact (hpage hk).mpr (he.1 hk)
      · rw [hpage' hk, hp]
    have ht' : q'.take = takeOf q'.params := by
      rw [hparams, takeOf_insert]
      split_ifs with hk
      · rw [htake hk]; rfl
      · rw [htake' hk, ht]
    have hd' : q'.createdAtDir = dirOf q'.params := by
      rw [hparams, dirOf_insert]
      split_ifs with hk
      · rw [hdir hk]; rfl
      · rw [hdir' hk, hd]
    rw [List.foldlM_cons, hq']
    simp only [bind, Except.bind]
    rw [foldlM_set_of_reads hp' ht' hd' fun e' he' => hl e' (List.mem_cons_of_mem e he'), hparams]
    rfl

theorem forall_get?_of_insert {r r' : Request} {k v K : String} {P : String → Prop}
    (hp : r'.params = r.params.insert k v) (h : ∀ w, r.get? K = some w → P w)
    (hk : k = K → P v) : ∀ w, r'.get? K = some w → P w := by
  intro w hw
  rw [Request.get?, hp, get?_insert] at hw
  split_ifs at hw with hK
  · cases hw
    exact hk hK.symm
  · exact h w hw

/-- A request whose page size and direction are those its parameters read as, whose recorded
page size and direction read well, and whose recorded page is blank when it asks for none. -/
structure Recorded (r : Request) : Prop where
  take : r.take = takeOf r.params
  dir : r.createdAtDir = dirOf r.params
  takeReads : ∀ v, r.get? takeKey = some v → (readTake v).isSome
  dirReads : ∀ v, r.get? createdAtKey = some v → (readDir v).isSome
  page : r.page = none → ∀ v, r.get? pageKey = some v → (Text.trim v).isEmpty

theorem recorded_empty : Recorded {} :=
  ⟨rfl, rfl, by simp [get?], by simp [get?], by simp [get?]⟩

theorem Recorded.assign {r r' : Request} {k v : String} (h : Recorded r)
    (ha : r.assign k v = (r', none)) : Recorded r' := by
  obtain ⟨hparams, hpage, hpage', htake, htake', hdir, hdir'⟩ := assign_eq_ok ha
  have hget : ∀ j, r'.get? j = if j = k then some v else r.get? j := fun j => by
    rw [Request.get?, hparams, get?_insert]; rfl
  refine ⟨take_of_insert hparams h.take htake htake', dir_of_insert hparams h.dir hdir hdir',
    forall_get?_of_insert hparams h.takeReads fun hk => by rw [htake hk]; rfl,
    forall_get?_of_insert hparams h.dirReads fun hk => by rw [hdir hk]; rfl, fun hn w hw => ?_⟩
  -- a blank page number leaves the request without one; any other key keeps the old page
  rw [hget] at hw
  split_ifs at hw with hk
  · cases hw; exact (hpage hk.symm).mp hn
  · exact h.page (by rwa [← hpage' (Ne.symm hk)]) w hw

theorem Recorded.foldlM_set {l : List (String × String)} :
    ∀ {r r' : Request}, Recorded r → l.foldlM (fun r kv => r.set kv.1 kv.2) r = .ok r' →
      Recorded r' := by
  induction l with
  | nil => intro r r' h hf; cases hf; exact h
  | cons e l ih =>
    intro r r' h hf
    rw [List.foldlM_cons] at hf
    cases hs : r.set e.1 e.2 with
    | error err => simp [hs, bind, Except.bind] at hf
    | ok q =>
      simp only [hs, bind, Except.bind] at hf
      exact ih (h.assign (assign_of_set hs)) hf

theorem recorded_ofPairs {ps : List (String × String)} {r : Request} (h : ofPairs ps = .ok r) :
    Recorded r := recorded_empty.foldlM_set h

theorem sorted_linkParams (r : Request) : SortedKeys (linkParams r) :=
  r.params.sorted.sublist List.filter_sublist

def linkParamMap (r : Request) : TextMap String := ⟨linkParams r, sorted_linkParams r⟩

theorem get?_linkParamMap (r : Request) (k : String) :
    (linkParamMap r).get? k =
      (r.params.get? k).filter fun v => !v.isEmpty && k != afterKey && k != beforeKey := by
  rw [get?_eq_lookup, get?_eq_lookup]
  exact lookup_filter r.params.sorted _ k

theorem read_linkParamMap (r : Request) {k : String}
    (hk : k ≠ afterKey ∧ k ≠ beforeKey) {α : Type} (f : String → Option α) (d : α)
    (hf : f "" = some d) :
    (((linkParamMap r).get? k).bind f).getD d = ((r.params.get? k).bind f).getD d := by
  rw [get?_linkParamMap]
  cases r.params.get? k with
  | none => rfl
  | some v =>
    by_cases he : v.isEmpty
    · rw [String.isEmpty_iff.mp he]
      simp [Option.filter_some, hf]
    · simp [Option.filter_some, he, hk.1, hk.2]

theorem takeOf_linkParamMap (r : Request) : takeOf (linkParamMap r) = takeOf r.params :=
  read_linkParamMap r (by decide) readTake defaultTake rfl

theorem dirOf_linkParamMap (r : Request) : dirOf (linkParamMap r) = dirOf r.params :=
  read_linkParamMap r (by decide) readDir .asc rfl

/-- The cursor request that the next link of `r` reads back as: the parameters the link
carries, with the boundary after (or before) the id text `s`. -/
def followed (r : Request) (s : String) : Request :=
  ⟨none, r.take, r.createdAtDir, (linkParamMap r).insert r.createdAtDir.boundaryKey s⟩

theorem boundaryKey_cases (d : SortDir) : d.boundaryKey = afterKey ∨ d.boundaryKey = beforeKey := by
  cases d <;> simp [SortDir.boundaryKey]

/-- The parameters of a next link, set again in order, give back the cursor request with the
boundary parameter added. -/
theorem ofPairs_linkParams {r : Request} (hr : Recorded r) (hc : r.page = none) (s : String) :
    ofPairs (linkParams r ++ [(r.createdAtDir.boundaryKey, s)]) = .ok (r.followed s) := by
  have hk : r.createdAtDir.boundaryKey ≠ pageKey ∧ r.createdAtDir.boundaryKey ≠ takeKey ∧
      r.createdAtDir.boundaryKey ≠ createdAtKey := by
    rcases boundaryKey_cases r.createdAtDir with h | h <;> rw [h] <;> decide
  have hreads : ∀ e ∈ linkParams r ++ [(r.createdAtDir.boundaryKey, s)], ValueReads e.1 e.2 := by
    intro e he
    rcases List.mem_append.mp he with he | he
    · have hget : r.get? e.1 = some e.2 :=
        get?_of_mem (List.mem_of_mem_filter he)
      exact ⟨fun hk => hr.page hc e.2 (hk ▸ hget), fun hk => hr.takeReads e.2 (hk ▸ hget),
        fun hk => hr.dirReads e.2 (hk ▸ hget)⟩
    · rw [List.mem_singleton] at he
      subst he
      exact ⟨fun h => absurd h hk.1, fun h => absurd h hk.2.1, fun h => absurd h hk.2.2⟩
  have hparams : ({} : TextMap String).insertAll (linkParams r ++ [(r.createdAtDir.boundaryKey, s)]) =
      (linkParamMap r).insert r.createdAtDir.boundaryKey s := by
    have h₀ : ({} : TextMap String).insertAll (linkParams r) = linkParamMap r :=
      empty_insertAll_entries (linkParamMap r)
    unfold insertAll at h₀ ⊢
    rw [List.foldl_append, h₀]
    rfl
  unfold ofPairs
  rw [foldlM_set_of_reads rfl rfl rfl hreads]
  simp only [hparams, takeOf_insert, dirOf_insert, if_neg hk.2.1, if_neg hk.2.2,
    takeOf_linkParamMap, dirOf_linkParamMap, ← hr.take, ← hr.dir]
  rfl

/-- A next link drops the boundary it was followed with: the request read from a link carries
on the same parameters as the request the link was made for. -/
theorem linkParams_followed (r : Request) (s : String) : linkParams
    (r.followed s) = linkParams r := by
  have hk := boundaryKey_cases r.createdAtDir
  have hf : ∀ e ∈ linkParams r, (!e.2.isEmpty && e.1 != afterKey && e.1 != beforeKey) = true :=
    fun e he => (List.mem_filter.mp he).2
  obtain ⟨l₁, l₂, hl, hins⟩ := @insertEntry_split String (linkParams r)
    r.createdAtDir.boundaryKey s fun e he hek => by
      have := hf e he
      rcases hk with h | h <;> rw [h] at hek <;> simp [hek] at this
  have hlp : linkParams (r.followed s) = (insertEntry (linkParams r) r.createdAtDir.boundaryKey s).filter
      fun e => !e.2.isEmpty && e.1 != afterKey && e.1 != beforeKey := rfl
  rw [hlp, hins, List.filter_append, List.filter_cons_of_neg (by
      rcases hk with h | h <;> rw [h] <;> simp [afterKey, beforeKey]),
    ← List.filter_append, ← hl]
  exact List.filter_eq_self.mpr hf

theorem followed_followed (r : Request) (s s' : String) :
    (r.followed s).followed s' = r.followed s' := by
  rw [followed, show linkParamMap (r.followed s) = linkParamMap r from
    ext_entries (linkParams_followed r s)]
  rfl

theorem readTake_pos {v : String} {n : Nat} (h : readTake v = some n) : 0 < n := by
  unfold readTake at h
  dsimp only at h
  split_ifs at h
  · cases h
    decide
  · obtain ⟨hp, -⟩ := Option.filter_eq_some_iff.mp h
    obtain ⟨-, hn⟩ := Option.filter_eq_some_iff.mp hp
    simpa using hn

theorem Recorded.take_pos {r : Request} (hr : r.Recorded) : 0 < r.take := by
  rw [hr.take, takeOf]
  cases h : (r.params.get? takeKey).bind readTake with
  | none => decide
  | some n => exact readTake_pos (Option.bind_eq_some_iff.mp h).choose_spec.2

end Folio.Request
