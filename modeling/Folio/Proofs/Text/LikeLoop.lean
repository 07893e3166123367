import Folio.Text.LikeLoop
import Folio.Proofs.Text.Like
import Mathlib

namespace Folio.Text

/-- The recursive matcher's answer once a literal run has ended, `onRetry` when it failed. -/
def LikeRun.resume (onRetry : Bool) : LikeRun → Bool
  | .done ok => ok
  | .star q u => likeAfterStar q u
  | .retry => onRetry

@[simp] theorem LikeRun.resume_done (o ok : Bool) : (LikeRun.done ok).resume o = ok := rfl

@[simp] theorem LikeRun.resume_star (o : Bool) (q u : List Char) :
    (LikeRun.star q u).resume o = likeAfterStar q u := rfl

@[simp] theorem LikeRun.resume_retry (o : Bool) : LikeRun.retry.resume o = o := rfl

theorem likeRun_literal {c d : Char} {p t : List Char} (hm : (c == '_' || c == d) = true) :
    likeRun (c :: p) (d :: t) = likeRun p t := by
  rw [likeRun, if_pos hm]

theorem likeRun_star {d : Char} {p t : List Char} (hd : d ≠ '%') :
    likeRun ('%' :: p) (d :: t) = .star p (d :: t) := by
  simp [likeRun, Ne.symm hd]

theorem likeMatch_eq_resume (p t : List Char) : likeMatch p t = (likeRun p t).resume false := by
  have h := likeMatch_eq_run p t
  cases hr : likeRun p t <;> simpa [hr] using h

theorem likeAfterStar_eq_resume (p t : List Char) :
    likeAfterStar p t = (likeRun p t).resume (likeAfterStar p t.tail) := by
  have h := likeAfterStar_eq_run p t
  cases hr : likeRun p t with
  | done ok => simpa [hr] using h
  | star q u => simpa [hr] using h
  | retry =>
    -- a run on the empty text never fails, so the text has a first character
    cases t with
    | nil => simp [likeRun] at hr
    | cons d rest => simpa [hr] using h

namespace LikeLoop

variable {p t : List Char} {s s' : LikeLoop} {c d : Char}

theorem step_of_text_end (ht : t.length ≤ s.ti) : step p t s = finish p s.pi := by
  simp [step, Nat.not_lt.mpr ht]

theorem step_of_pattern_end (ht : s.ti < t.length) (hp : p.length ≤ s.pi) :
    step p t s = retreat s.back := by
  simp [step, ht, Nat.not_lt.mpr hp]

theorem step_of_chars (hc : p[s.pi]? = some c) (hd : t[s.ti]? = some d) :
    step p t s =
      if c == '_' || c == d then .next ⟨s.pi + 1, s.ti + 1, s.back⟩
      else if c == '%' then .next ⟨s.pi + 1, s.ti, some (s.pi, s.ti)⟩
      else retreat s.back := by
  obtain ⟨hp, rfl⟩ := List.getElem?_eq_some_iff.mp hc
  obtain ⟨ht, rfl⟩ := List.getElem?_eq_some_iff.mp hd
  by_cases hu : p[s.pi] = '_' <;> simp [step, hp, ht, hu]

theorem retreat_eq_next {b : Option (Nat × Nat)} (h : retreat b = .next s') :
    ∃ bp bt, b = some (bp, bt) ∧ s' = ⟨bp + 1, bt + 1, some (bp, bt + 1)⟩ := by
  cases b with
  | none => cases h
  | some pt =>
    cases h
    exact ⟨pt.1, pt.2, rfl, rfl⟩

theorem retreat_eq_exit {b : Option (Nat × Nat)} {ok : Bool} (h : retreat b = .exit ok) :
    b = none ∧ ok = false := by
  cases b with
  | none =>
    cases h
    exact ⟨rfl, rfl⟩
  | some pt => cases h

theorem retreat_ne_outOfRange (b : Option (Nat × Nat)) : retreat b ≠ .outOfRange := by
  cases b <;> simp [retreat]

theorem finish_ne_next (p : List Char) (pi : Nat) : finish p pi ≠ .next s' := by
  unfold finish
  split <;> simp

/-- Everything a turn can do: return once the text is used up, take a literal, record a `%`,
or go back when the literal run fails at the positions. -/
theorem step_cases (p t : List Char) (s : LikeLoop) :
    (t.length ≤ s.ti ∧ step p t s = finish p s.pi) ∨
    (∃ c d, p[s.pi]? = some c ∧ t[s.ti]? = some d ∧ (c == '_' || c == d) = true ∧
      step p t s = .next ⟨s.pi + 1, s.ti + 1, s.back⟩) ∨
    (∃ d, p[s.pi]? = some '%' ∧ t[s.ti]? = some d ∧ d ≠ '%' ∧
      step p t s = .next ⟨s.pi + 1, s.ti, some (s.pi, s.ti)⟩) ∨
    (s.ti < t.length ∧ likeRun (p.drop s.pi) (t.drop s.ti) = .retry ∧
      step p t s = retreat s.back) := by
  rcases Nat.lt_or_ge s.ti t.length with ht | ht
  · have hT := List.drop_eq_getElem_cons ht
    rcases Nat.lt_or_ge s.pi p.length with hp | hp
    · have hc := List.getElem?_eq_getElem hp
      have hd := List.getElem?_eq_getElem ht
      have hP := List.drop_eq_getElem_cons hp
      rw [step_of_chars hc hd]
      by_cases hm : (p[s.pi] == '_' || p[s.pi] == t[s.ti]) = true
      · exact .inr (.inl ⟨_, _, hc, hd, hm, if_pos hm⟩)
      · by_cases hs : p[s.pi] = '%'
        · -- a `%` that is no literal here meets a character other than `%`
          have hd' : t[s.ti] ≠ '%' := by
            intro h
            simp [hs, h] at hm
          refine .inr (.inr (.inl ⟨_, hs ▸ hc, hd, hd', ?_⟩))
          rw [if_neg hm, if_pos (by simpa using hs)]
        · refine .inr (.inr (.inr ⟨ht, ?_, ?_⟩))
          · rw [hP, hT, likeRun, if_neg hm, if_neg (by simpa using hs)]
          · rw [if_neg hm, if_neg (by simpa using hs)]
    · refine .inr (.inr (.inr ⟨ht, ?_, step_of_pattern_end ht hp⟩))
      rw [List.drop_of_length_le hp, hT, likeRun]
  · exact .inl ⟨ht, step_of_text_end ht⟩

/-- A turn is out of range only at the slice after the loop, with the pattern position past the
pattern's end: each character is read at a position checked just before. -/
theorem step_eq_outOfRange_iff :
    step p t s = .outOfRange ↔ t.length ≤ s.ti ∧ p.length < s.pi := by
  rcases step_cases p t s with ⟨ht, hf⟩ | ⟨c, d, -, hd, -, hl⟩ | ⟨d, -, hd, -, hl⟩ | ⟨ht, -, hr⟩
  · rw [hf, finish]
    split <;> simp <;> omega
  · have ht := (List.getElem?_eq_some_iff.mp hd).1
    simp only [hl, reduceCtorEq, false_iff]
    omega
  · have ht := (List.getElem?_eq_some_iff.mp hd).1
    simp only [hl, reduceCtorEq, false_iff]
    omega
  · simp only [hr, retreat_ne_outOfRange, false_iff]
    omega

/-- What holds of every state the loop reaches: the pattern position is within the pattern, and
the point to come back to lies behind both positions. -/
structure Inv (p : List Char) (s : LikeLoop) : Prop where
  pi_le : s.pi ≤ p.length
  back_lt : ∀ bp bt, s.back = some (bp, bt) → bp < s.pi ∧ bt ≤ s.ti

theorem inv_start : Inv p start :=
  ⟨Nat.zero_le _, fun _ _ h => by cases h⟩

theorem Inv.step_ne_outOfRange (h : Inv p s) : step p t s ≠ .outOfRange :=
  fun ho => absurd (step_eq_outOfRange_iff.mp ho).2 (Nat.not_lt.mpr h.pi_le)

theorem Inv.next (h : Inv p s) (hs : step p t s = .next s') : Inv p s' := by
  rcases step_cases p t s with ⟨-, hf⟩ | ⟨c, d, hc, -, -, hl⟩ | ⟨d, hc, -, -, hl⟩ | ⟨-, -, hr⟩
  · exact absurd (hf ▸ hs) (finish_ne_next p s.pi)
  · -- a literal moves both positions on and keeps the point
    cases hl.symm.trans hs
    refine ⟨(List.getElem?_eq_some_iff.mp hc).1, fun bp bt hb => ?_⟩
    obtain ⟨hbp, hbt⟩ := h.back_lt bp bt hb
    exact ⟨Nat.lt_succ_of_lt hbp, Nat.le_succ_of_le hbt⟩
  · -- a `%` becomes the point, at the current text position
    cases hl.symm.trans hs
    refine ⟨(List.getElem?_eq_some_iff.mp hc).1, fun bp bt hb => ?_⟩
    cases hb
    exact ⟨Nat.lt_succ_self _, le_rfl⟩
  · -- a turn back resumes right after the point's `%`
    obtain ⟨bp, bt, hb, rfl⟩ := retreat_eq_next (hr.symm.trans hs)
    obtain ⟨hbp, -⟩ := h.back_lt bp bt hb
    refine ⟨hbp.trans_le h.pi_le, fun bp' bt' hb' => ?_⟩
    cases hb'
    exact ⟨Nat.lt_succ_self _, le_rfl⟩

/-- The measure of a state, compared lexicographically: the text left after the point's text
position, the pattern left after the point's `%`, and the text left after the text position.
With no point, the first two stand one above the largest value a point can give. -/
def measure (p t : List Char) (s : LikeLoop) : ℕ ×ₗ ℕ ×ₗ ℕ :=
  match s.back with
  | some (bp, bt) => toLex (t.length - bt, toLex (p.length - bp, t.length - s.ti))
  | none => toLex (t.length + 1, toLex (p.length + 1, t.length - s.ti))

theorem lex_lt_iff {a b c a' b' c' : ℕ} :
    toLex (a', toLex (b', c')) < toLex (a, toLex (b, c)) ↔
      a' < a ∨ a' = a ∧ (b' < b ∨ b' = b ∧ c' < c) := by
  simp only [Prod.Lex.toLex_lt_toLex]

theorem measure_lt (h : Inv p s) (hs : step p t s = .next s') :
    measure p t s' < measure p t s := by
  rcases step_cases p t s with ⟨-, hf⟩ | ⟨c, d, -, hd, -, hl⟩ | ⟨d, hc, hd, -, hl⟩ | ⟨ht, -, hr⟩
  · exact absurd (hf ▸ hs) (finish_ne_next p s.pi)
  · -- a literal keeps the point and moves the text position on
    have ht := (List.getElem?_eq_some_iff.mp hd).1
    cases hl.symm.trans hs
    rcases hb : s.back with _ | ⟨bp, bt⟩
    all_goals
      simp only [measure, hb]
      rw [lex_lt_iff]
      omega
  · -- a `%` puts the point at the text position: nearer the text's end, or at a later `%`
    have hp := (List.getElem?_eq_some_iff.mp hc).1
    have ht := (List.getElem?_eq_some_iff.mp hd).1
    cases hl.symm.trans hs
    rcases hb : s.back with _ | ⟨bp, bt⟩
    · simp only [measure, hb]
      rw [lex_lt_iff]
      omega
    · have := h.back_lt bp bt hb
      simp only [measure, hb]
      rw [lex_lt_iff]
      omega
  · -- a turn back lets the point's `%` take one more character
    obtain ⟨bp, bt, hb, rfl⟩ := retreat_eq_next (hr.symm.trans hs)
    have := h.back_lt bp bt hb
    simp only [measure, hb]
    rw [lex_lt_iff]
    omega

def fallback (p t : List Char) : Option (Nat × Nat) → Bool
  | some (bp, bt) => likeAfterStar (p.drop (bp + 1)) (t.drop (bt + 1))
  | none => false

/-- What the recursive matcher gives from a state of the loop: the literal run from its two
positions, falling back on the point to come back to when the run fails. -/
def value (p t : List Char) (s : LikeLoop) : Bool :=
  (likeRun (p.drop s.pi) (t.drop s.ti)).resume (fallback p t s.back)

theorem value_start : value p t start = likeMatch p t := by
  simp only [value, start, fallback, List.drop_zero, likeMatch_eq_resume]

theorem drop_eq_cons_of_getElem? {l : List Char} {i : Nat} (h : l[i]? = some c) :
    l.drop i = c :: l.drop (i + 1) := by
  obtain ⟨hi, rfl⟩ := List.getElem?_eq_some_iff.mp h
  exact List.drop_eq_getElem_cons hi

theorem value_next (hs : step p t s = .next s') : value p t s' = value p t s := by
  rcases step_cases p t s with ⟨-, hf⟩ | ⟨c, d, hc, hd, hm, hl⟩ | ⟨d, hc, hd, hd', hl⟩ | ⟨-, hr, hb⟩
  · exact absurd (hf ▸ hs) (finish_ne_next p s.pi)
  · -- a literal: the run goes on from the next positions
    cases hl.symm.trans hs
    simp only [value]
    rw [drop_eq_cons_of_getElem? hc, drop_eq_cons_of_getElem? hd, likeRun_literal hm]
  · -- a `%`: the rest of the pattern is matched from here, falling back on the `%` taking
    -- this character
    cases hl.symm.trans hs
    simp only [value, fallback]
    rw [drop_eq_cons_of_getElem? hc, drop_eq_cons_of_getElem? hd, likeRun_star hd',
      LikeRun.resume_star, likeAfterStar_eq_resume _ (d :: _), List.tail_cons]
  · -- a turn back: the `%` of the point takes one more character
    obtain ⟨bp, bt, hback, rfl⟩ := retreat_eq_next (hb.symm.trans hs)
    simp only [value, fallback, hr, hback, LikeRun.resume_retry]
    rw [likeAfterStar_eq_resume (p.drop (bp + 1)) (t.drop (bt + 1)), List.tail_drop]

theorem value_exit {ok : Bool} (hs : step p t s = .exit ok) : value p t s = ok := by
  rcases step_cases p t s with ⟨ht, hf⟩ | ⟨c, d, -, -, -, hl⟩ | ⟨d, -, -, -, hl⟩ | ⟨-, hr, hb⟩
  · -- the text is used up: the run ends with the rest of the pattern
    rw [hf, finish] at hs
    split at hs
    · cases hs
      simp only [value, List.drop_of_length_le ht, likeRun, LikeRun.resume_done]
    · cases hs
  · cases hl.symm.trans hs
  · cases hl.symm.trans hs
  · -- the run fails with no point to go back to
    obtain ⟨hback, rfl⟩ := retreat_eq_exit (hb.symm.trans hs)
    simp only [value, hr, hback, fallback, LikeRun.resume_retry]

/-- From a state that keeps the invariant, the loop returns that state's value; the recursion
runs on the measure, which every turn lowers. -/
theorem Inv.returns {s : LikeLoop} (h : Inv p s) : Returns p t s (value p t s) := by
  cases hs : step p t s with
  | next s' => exact .next hs (value_next hs ▸ (h.next hs).returns)
  | exit ok => exact (value_exit hs).symm ▸ .exit hs
  | outOfRange => exact absurd hs h.step_ne_outOfRange
termination_by measure p t s
decreasing_by exact measure_lt h hs

/-- The loop returns one answer at most: every turn has one outcome. -/
theorem Returns.unique {a b : Bool} (ha : Returns p t s a) (hb : Returns p t s b) : a = b := by
  induction ha with
  | exit hs =>
    cases hb with
    | exit hs' => exact Step.exit.inj (hs.symm.trans hs')
    | next hs' => cases hs.symm.trans hs'
  | next hs _ ih =>
    cases hb with
    | exit hs' => cases hs.symm.trans hs'
    | next hs' hb' =>
      cases hs.symm.trans hs'
      exact ih hb'

theorem returns_start_iff (p t : List Char) (ok : Bool) :
    Returns p t start ok ↔ ok = likeMatch p t := by
  have h : Returns p t start (likeMatch p t) := value_start ▸ inv_start.returns
  exact ⟨fun h' => h'.unique h, fun e => e ▸ h⟩

def Reachable (p t : List Char) : LikeLoop → Prop :=
  Relation.ReflTransGen (fun s s' => step p t s = .next s') start

theorem Reachable.inv (h : Reachable p t s) : Inv p s := by
  induction h with
  | refl => exact inv_start
  | tail _ hs ih => exact ih.next hs

/-- The matching loop ends on every pattern and text and returns what `likeMatch` gives, and
nothing else. Every state it passes through has its pattern position within the pattern, so the
slice after the loop is in range; no turn reads a position out of range; and every turn that goes
round again lowers the measure. -/
theorem returns_likeMatch_in_range (p t : List Char) :
    (∀ ok, Returns p t start ok ↔ ok = likeMatch p t) ∧
      ∀ s, Reachable p t s →
        s.pi ≤ p.length ∧ step p t s ≠ .outOfRange ∧
          ∀ s', step p t s = .next s' → measure p t s' < measure p t s := by
  refine ⟨returns_start_iff p t, fun s hs => ?_⟩
  have h := hs.inv
  exact ⟨h.pi_le, h.step_ne_outOfRange, fun s' hn => measure_lt h hn⟩

/-- The loop on the pattern `%a` and the text `ba`, after it has gone back once to the `%`. -/
theorem returns_likeMatch_in_range_after_retreat :
    Reachable ['%', 'a'] ['b', 'a'] ⟨1, 1, some (0, 1)⟩ ∧
      (1 ≤ ['%', 'a'].length ∧ step ['%', 'a'] ['b', 'a'] ⟨1, 1, some (0, 1)⟩ ≠ .outOfRange ∧
        ∀ s', step ['%', 'a'] ['b', 'a'] ⟨1, 1, some (0, 1)⟩ = .next s' →
          measure ['%', 'a'] ['b', 'a'] s' < measure ['%', 'a'] ['b', 'a'] ⟨1, 1, some (0, 1)⟩) := by
  have hr : Reachable ['%', 'a'] ['b', 'a'] ⟨1, 1, some (0, 1)⟩ :=
    .tail (.tail .refl (show step _ _ start = .next ⟨1, 0, some (0, 0)⟩ by decide)) (by decide)
  exact ⟨hr, (returns_likeMatch_in_range _ _).2 _ hr⟩

end LikeLoop

end Folio.Text
