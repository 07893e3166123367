import Folio.Proofs.Request
import Mathlib

namespace Folio.Request

open Folio.TextMap

def readPage (v : String) : Option Nat :=
  let t := Text.trim v
  if t.isEmpty then none else positive? t

def pageOf (m : TextMap String) : Option Nat := (m.get? pageKey).bind readPage

theorem pageOf_insert (m : TextMap String) (k v : String) :
    pageOf (m.insert k v) = if k = pageKey then readPage v else pageOf m := by
  unfold pageOf
  split_ifs with h
  · subst h; simp
  · rw [get?_insert_of_ne _ _ (Ne.symm h)]

@[simp] theorem Step.apply_set (r : Request) (k v : String) :
    Step.apply r (.set k v) = r.assign k v := rfl

section Assign

variable {r r' : Request} {k v : String}

/-- A failed assignment records nothing. It leaves the request as it was, or keeps the page
number or page size it read before the offset check refused it. -/
theorem assign_eq_error {e : Error} (h : r.assign k v = (r', some e)) :
    r' = r ∨ (k = pageKey ∧ ∃ p, readPage v = some p ∧ r' = { r with page := some p }) ∨
      (k = takeKey ∧ ∃ n, readTake v = some n ∧ r' = { r with take := n }) := by
  unfold assign at h
  dsimp only at h
  split_ifs at h with hp hb ht hb' hc hb''
  · -- a blank page number leaves no offset to check
    simp [offsetError?] at h
  · split at h
    · rename_i p hpos
      split at h
      · obtain ⟨rfl, -⟩ := Prod.mk.inj h
        exact .inr (.inl ⟨hp, p, by simp [readPage, hb, hpos], rfl⟩)
      · cases h
    · obtain ⟨rfl, -⟩ := Prod.mk.inj h
      exact .inl rfl
  · split at h
    · obtain ⟨rfl, -⟩ := Prod.mk.inj h
      exact .inr (.inr ⟨ht, defaultTake, by simp [readTake, hb'], rfl⟩)
    · cases h
  · split at h
    · rename_i n hn
      split at h
      · obtain ⟨rfl, -⟩ := Prod.mk.inj h
        exact .inr (.inr ⟨ht, n, by simp [readTake, hb', hn], rfl⟩)
      · cases h
    · obtain ⟨rfl, -⟩ := Prod.mk.inj h
      exact .inl rfl
  · cases h
  · split at h
    · cases h
    · obtain ⟨rfl, -⟩ := Prod.mk.inj h
      exact .inl rfl
  · cases h

theorem page_of_assign_eq_ok (h : r.assign pageKey v = (r', none)) : r'.page = readPage v := by
  unfold assign at h
  simp only [if_true] at h
  simp only [readPage]
  split_ifs at h ⊢ with hb
  · split at h
    · cases h
    · obtain ⟨rfl, -⟩ := Prod.mk.inj h
      rfl
  · split at h
    · rename_i p hp
      split at h
      · cases h
      · obtain ⟨rfl, -⟩ := Prod.mk.inj h
        exact hp.symm
    · cases h

end Assign

theorem positive?_pos {t : String} {n : Nat} (h : positive? t = some n) : 0 < n := by
  simpa using (Option.filter_eq_some_iff.mp h).2

theorem readPage_pos {v : String} {p : Nat} (h : readPage v = some p) : 0 < p := by
  unfold readPage at h
  dsimp only at h
  split_ifs at h
  exact positive?_pos h

theorem readTake_le {v : String} {n : Nat} (h : readTake v = some n) : n ≤ maxOffset := by
  unfold readTake at h
  dsimp only at h
  split_ifs at h
  · cases h
    decide
  · simpa using (Option.filter_eq_some_iff.mp h).2

theorem positive?_toString {n : Nat} (h₀ : 0 < n) (h : n < 2 ^ 64) : positive?
    (toString n) = some n := by
  unfold positive?
  rw [Text.Decimal.u64?_toString (by unfold Text.Decimal.u64Max; omega)]
  simp [h₀]

theorem toString_ne_empty (n : Nat) : (toString n).isEmpty = false := by
  simp [Nat.toString_eq_repr, ← String.toList_inj, Nat.toList_repr, Nat.toDigits_ne_nil]

theorem readPage_toString {n : Nat} (h₀ : 0 < n) (h : n < 2 ^ 64) : readPage
    (toString n) = some n := by
  simp only [readPage, Text.trim_toString_nat, toString_ne_empty, Bool.false_eq_true,
    if_false, positive?_toString h₀ h]

theorem readTake_toString {n : Nat} (h₀ : 0 < n) (h : n ≤ maxOffset) :
    readTake (toString n) = some n := by
  have h' : n < 2 ^ 64 := by unfold maxOffset at h; omega
  simp only [readTake, Text.trim_toString_nat, toString_ne_empty, Bool.false_eq_true,
    if_false, positive?_toString h₀ h', Option.filter_some, h, decide_true, if_true]

theorem readDir_text (d : SortDir) : readDir d.text = some d := by
  cases d <;> decide

/-- A page size in `1 ..= maxOffset`, and a positive page number if there is one. -/
structure Bounded (r : Request) : Prop where
  take_pos : 0 < r.take
  take_le : r.take ≤ maxOffset
  page_pos : ∀ p, r.page = some p → 0 < p

theorem bounded_empty : Bounded {} := ⟨by decide, by decide, by simp⟩

theorem Bounded.assign {r : Request} (h : Bounded r) (k v : String) : Bounded (r.assign k v).1 := by
  rcases hr : r.assign k v with ⟨r', _ | e⟩
  · obtain ⟨-, -, hpage', htake, htake', -, -⟩ := assign_eq_ok hr
    refine ⟨?_, ?_, fun p hp => ?_⟩
    · by_cases hk : k = takeKey
      · exact readTake_pos (htake hk)
      · exact htake' hk ▸ h.take_pos
    · by_cases hk : k = takeKey
      · exact readTake_le (htake hk)
      · exact htake' hk ▸ h.take_le
    · by_cases hk : k = pageKey
      · subst hk
        exact readPage_pos (page_of_assign_eq_ok hr ▸ hp)
      · exact h.page_pos p (hpage' hk ▸ hp)
  · rcases assign_eq_error hr with rfl | ⟨-, q, hq, rfl⟩ | ⟨-, n, hn, rfl⟩
    · exact h
    · refine ⟨h.take_pos, h.take_le, fun p hp => ?_⟩
      cases hp
      exact readPage_pos hq
    · exact ⟨readTake_pos hn, readTake_le hn, h.page_pos⟩

theorem Bounded.apply {r : Request} (h : Bounded r) (s : Step) : Bounded (Step.apply r s).1 := by
  cases s with
  | set k v => exact h.assign k v
  | withPage p =>
    refine ⟨h.take_pos, h.take_le, fun q hq => ?_⟩
    cases hq
    exact lt_max_of_lt_right Nat.one_pos
  | withTake t =>
    refine ⟨?_, min_le_right _ _, h.page_pos⟩
    exact lt_min (lt_max_of_lt_right Nat.one_pos) (by decide)
  | withCreatedAtDir d => exact ⟨h.take_pos, h.take_le, h.page_pos⟩

/-- Every run keeps page sizes and page numbers in range, failed steps included. -/
theorem Bounded.runSteps {r : Request} (h : Bounded r) (steps : List Step) :
    Bounded (r.runSteps steps) := by
  induction steps generalizing r with
  | nil => exact h
  | cons s steps ih => exact ih (h.apply s)

/-- Parameters whose `order__createdAt` value reads as the request's direction. -/
structure ReadsDir (r : Request) : Prop where
  dir : r.createdAtDir = dirOf r.params

theorem readsDir_empty : ReadsDir {} := ⟨rfl⟩

theorem ReadsDir.of_insert {r r' : Request} (h : ReadsDir r) {k v : String}
    (hk : k ≠ createdAtKey) (hp : r'.params = r.params.insert k v)
    (hd : r'.createdAtDir = r.createdAtDir) : ReadsDir r' :=
  ⟨by rw [hp, dirOf_insert, if_neg hk, hd]; exact h.dir⟩

theorem ReadsDir.apply {r : Request} (h : ReadsDir r) (s : Step) : ReadsDir (Step.apply r s).1 := by
  cases s with
  | set k v =>
    show ReadsDir (r.assign k v).1
    rcases hr : r.assign k v with ⟨r', _ | e⟩
    · obtain ⟨hparams, -, -, -, -, hdir, hdir'⟩ := assign_eq_ok hr
      refine ⟨?_⟩
      rw [hparams, dirOf_insert]
      split_ifs with hk
      · rw [hdir hk]; rfl
      · rw [hdir' hk, h.dir]
    · -- a failed step records nothing and keeps the direction
      rcases assign_eq_error hr with rfl | ⟨-, q, -, rfl⟩ | ⟨-, n, -, rfl⟩
      · exact h
      · exact ⟨h.dir⟩
      · exact ⟨h.dir⟩
  | withPage p => exact h.of_insert (by decide) rfl rfl
  | withTake t => exact h.of_insert (by decide) rfl rfl
  | withCreatedAtDir d =>
    refine ⟨?_⟩
    show d = dirOf (r.params.insert createdAtKey d.text)
    rw [dirOf_insert, if_pos rfl, readDir_text]
    rfl

theorem ReadsDir.runSteps {r : Request} (h : ReadsDir r) (steps : List Step) :
    ReadsDir (r.runSteps steps) := by
  induction steps generalizing r with
  | nil => exact h
  | cons s steps ih => exact ih (h.apply s)

/-- A request whose page number, page size and direction are what its parameters read as, and
whose recorded page number, page size and direction are values that read: so the defaults stand
only for keys the parameters lack. -/
structure ReadsBack (r : Request) : Prop where
  page : r.page = pageOf r.params
  take : r.take = takeOf r.params
  dir : r.createdAtDir = dirOf r.params
  pageReads : ∀ v, r.get? pageKey = some v → (Text.trim v).isEmpty ∨ (readPage v).isSome
  takeReads : ∀ v, r.get? takeKey = some v → (readTake v).isSome
  dirReads : ∀ v, r.get? createdAtKey = some v → (readDir v).isSome

theorem readsBack_empty : ReadsBack {} :=
  ⟨rfl, rfl, rfl, by simp [get?], by simp [get?], by simp [get?]⟩

def ofParams (m : TextMap String) : Request := ⟨pageOf m, takeOf m, dirOf m, m⟩

theorem ReadsBack.eq {r : Request} (h : ReadsBack r) : r = ofParams r.params := by
  obtain ⟨page, take, dir, params⟩ := r
  obtain ⟨hp, ht, hd, -⟩ := h
  simp only at hp ht hd
  rw [ofParams, ← hp, ← ht, ← hd]

theorem ReadsBack.insert {r r' : Request} (h : ReadsBack r) {k v : String}
    (hp : r'.params = r.params.insert k v)
    (hpage : k = pageKey → r'.page = readPage v ∧ ((Text.trim v).isEmpty ∨ (readPage v).isSome))
    (hpage' : k ≠ pageKey → r'.page = r.page)
    (htake : k = takeKey → readTake v = some r'.take) (htake' : k ≠ takeKey → r'.take = r.take)
    (hdir : k = createdAtKey → readDir v = some r'.createdAtDir)
    (hdir' : k ≠ createdAtKey → r'.createdAtDir = r.createdAtDir) : ReadsBack r' := by
  refine ⟨?_, take_of_insert hp h.take htake htake', dir_of_insert hp h.dir hdir hdir',
    forall_get?_of_insert hp h.pageReads fun hk => (hpage hk).2,
    forall_get?_of_insert hp h.takeReads fun hk => by rw [htake hk]; rfl,
    forall_get?_of_insert hp h.dirReads fun hk => by rw [hdir hk]; rfl⟩
  rw [hp, pageOf_insert]
  split_ifs with hk
  · exact (hpage hk).1
  · rw [hpage' hk, h.page]

theorem pageReads_of_assign {r r' : Request} {v : String} (h : r.assign pageKey v = (r', none)) :
    (Text.trim v).isEmpty ∨ (readPage v).isSome := by
  obtain ⟨-, hpage, -⟩ := assign_eq_ok h
  cases hv : readPage v with
  | none => exact .inl ((hpage rfl).mp (by rw [page_of_assign_eq_ok h, hv]))
  | some p => exact .inr rfl

/-- A step whose page number fits a 64-bit word, as every page number a caller can pass does. -/
def Step.FitsWord : Step → Prop
  | .withPage p => p < 2 ^ 64
  | _ => True

instance : DecidablePred Step.FitsWord
  | .withPage p => inferInstanceAs (Decidable (p < 2 ^ 64))
  | .set _ _ => isTrue trivial
  | .withTake _ => isTrue trivial
  | .withCreatedAtDir _ => isTrue trivial

theorem ReadsBack.apply {r r' : Request} (h : ReadsBack r) {s : Step} (hs : s.FitsWord)
    (ha : Step.apply r s = (r', none)) : ReadsBack r' := by
  have hpt : pageKey ≠ takeKey := by decide
  have hpc : pageKey ≠ createdAtKey := by decide
  have htc : takeKey ≠ createdAtKey := by decide
  cases s with
  | set k v =>
    rw [Step.apply_set] at ha
    obtain ⟨hparams, -, hpage', htake, htake', hdir, hdir'⟩ := assign_eq_ok ha
    refine h.insert hparams (fun hk => ?_) hpage' htake htake' hdir hdir'
    subst hk
    exact ⟨page_of_assign_eq_ok ha, pageReads_of_assign ha⟩
  | withPage p =>
    obtain ⟨rfl, -⟩ := Prod.mk.inj ha
    -- the page number recorded is the one set, at least 1
    have hread : readPage (toString (max p 1)) = some (max p 1) :=
      readPage_toString (lt_max_of_lt_right Nat.one_pos) (max_lt hs (by decide))
    exact h.insert rfl (fun _ => ⟨hread.symm, .inr (by rw [hread]; rfl)⟩) (absurd rfl)
      (fun hk => absurd hk hpt) (fun _ => rfl) (fun hk => absurd hk hpc) (fun _ => rfl)
  | withTake t =>
    obtain ⟨rfl, -⟩ := Prod.mk.inj ha
    -- the page size recorded is the one set, clamped to `1 ..= maxOffset`
    have hread : readTake (toString (min (max t 1) maxOffset)) = some (min (max t 1) maxOffset) :=
      readTake_toString (lt_min (lt_max_of_lt_right Nat.one_pos) (by decide)) (min_le_right _ _)
    exact h.insert rfl (fun hk => absurd hk.symm hpt) (fun _ => rfl) (fun _ => hread)
      (absurd rfl) (fun hk => absurd hk htc) (fun _ => rfl)
  | withCreatedAtDir d =>
    obtain ⟨rfl, -⟩ := Prod.mk.inj ha
    exact h.insert rfl (fun hk => absurd hk.symm hpc) (fun _ => rfl)
      (fun hk => absurd hk.symm htc) (fun _ => rfl) (fun _ => readDir_text d) (absurd rfl)

/-- A run whose steps all succeed ends in a request that its parameters read back as. -/
theorem ReadsBack.applySteps {steps : List Step} (hs : ∀ s ∈ steps, s.FitsWord) :
    ∀ {r r' : Request}, ReadsBack r → r.applySteps steps = .ok r' → ReadsBack r' := by
  induction steps with
  | nil => intro r r' h ha; cases ha; exact h
  | cons s steps ih =>
    intro r r' h ha
    rcases hq : Step.apply r s with ⟨q, _ | e⟩
    · rw [Request.applySteps, hq] at ha
      exact ih (fun s' hs' => hs s' (List.mem_cons_of_mem s hs'))
        (h.apply (hs s List.mem_cons_self) hq) ha
    · rw [Request.applySteps, hq] at ha; cases ha

theorem applySteps_eq_runSteps {steps : List Step} :
    ∀ {r r' : Request}, r.applySteps steps = .ok r' → r' = r.runSteps steps := by
  induction steps with
  | nil => intro r r' ha; cases ha; rfl
  | cons s steps ih =>
    intro r r' ha
    rcases hq : Step.apply r s with ⟨q, _ | e⟩
    · rw [Request.applySteps, hq] at ha
      rw [ih ha]
      simp only [Request.runSteps, List.foldl_cons, hq]
    · rw [Request.applySteps, hq] at ha; cases ha

/-- From the empty request, every run of builder steps keeps the page size in `1 ..= maxOffset`
and any page number positive, failed steps included; and a run whose steps all succeed, with page
numbers that fit 64 bits, ends in the request its parameters read as: page number, page size and
direction. -/
theorem runSteps_bounded_readsBack (steps : List Step) :
    Bounded (({} : Request).runSteps steps) ∧
      ((∀ s ∈ steps, s.FitsWord) → ∀ r, ({} : Request).applySteps steps = .ok r →
        r = ({} : Request).runSteps steps ∧ ReadsBack r) :=
  ⟨bounded_empty.runSteps steps, fun hs _ ha =>
    ⟨applySteps_eq_runSteps ha, readsBack_empty.applySteps hs ha⟩⟩

/-- A page size with blanks around it, a page number and a direction in lower case, set in turn,
read back from the parameters they leave. -/
theorem runSteps_reads_back_sized_page :
    (∀ s ∈ [Step.set "take" " 5 ", .withPage 3, .set "order__createdAt" "desc"], s.FitsWord) ∧
      ∃ r, ({} : Request).applySteps [.set "take" " 5 ", .withPage 3, .set "order__createdAt" "desc"] =
        .ok r ∧ r = ({} : Request).runSteps [.set "take" " 5 ", .withPage 3,
          .set "order__createdAt" "desc"] ∧ ReadsBack r := by
  have hs : ∀ s ∈ [Step.set "take" " 5 ", .withPage 3, .set "order__createdAt" "desc"],
      s.FitsWord := by decide
  have hok : (({} : Request).applySteps
      [.set "take" " 5 ", .withPage 3, .set "order__createdAt" "desc"]).isOk = true := by
    decide +kernel
  cases ha : ({} : Request).applySteps [.set "take" " 5 ", .withPage 3, .set "order__createdAt" "desc"] with
  | error e => simp [ha, Except.isOk, Except.toBool] at hok
  | ok r =>
    have h := (runSteps_bounded_readsBack
      [.set "take" " 5 ", .withPage 3, .set "order__createdAt" "desc"]).2 hs r ha
    exact ⟨hs, r, rfl, h⟩

end Folio.Request
