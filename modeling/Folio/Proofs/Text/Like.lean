import Folio.Text.Like
import Folio.Proofs.Text.Lower
import Mathlib

namespace Folio.Text

/-- The texts a pattern matches: `%` any run of characters, `_` any one character, any other
character itself. -/
inductive Like : List Char → List Char → Prop
  | nil : Like [] []
  | starNil {p t : List Char} : Like p t → Like ('%' :: p) t
  | starCons {p t : List Char} (d : Char) : Like ('%' :: p) t → Like ('%' :: p) (d :: t)
  | one {p t : List Char} (d : Char) : Like p t → Like ('_' :: p) (d :: t)
  | char {p t : List Char} (c : Char) : c ≠ '%' → c ≠ '_' → Like p t → Like (c :: p) (c :: t)

namespace Like

variable {c d : Char} {p t : List Char}

theorem nil_iff : Like [] t ↔ t = [] := by
  constructor
  · intro h
    cases h
    rfl
  · rintro rfl
    exact .nil

theorem nil_text_iff : Like p [] ↔ ∀ c ∈ p, c = '%' := by
  induction p with
  | nil => simp [nil_iff]
  | cons c p ih =>
    constructor
    · intro h
      cases h with
      | starNil h => simpa using ih.mp h
    · intro h
      obtain rfl := h c List.mem_cons_self
      exact .starNil (ih.mpr fun x hx => h x (List.mem_cons_of_mem _ hx))

theorem star_cons_iff : Like ('%' :: p) (d :: t) ↔ Like p (d :: t) ∨ Like ('%' :: p) t := by
  constructor
  · intro h
    cases h with
    | starNil h => exact .inl h
    | starCons _ h => exact .inr h
    | char _ hc => exact absurd rfl hc
  · rintro (h | h)
    · exact .starNil h
    · exact .starCons d h

theorem star_nil_iff : Like ('%' :: p) [] ↔ Like p [] := by
  constructor
  · intro h
    cases h with
    | starNil h => exact h
  · exact .starNil

theorem star_iff : Like ('%' :: p) t ↔ ∃ k, Like p (t.drop k) := by
  induction t with
  | nil => simp [star_nil_iff]
  | cons d t ih =>
    rw [star_cons_iff, ih]
    constructor
    · rintro (h | ⟨k, hk⟩)
      · exact ⟨0, h⟩
      · exact ⟨k + 1, hk⟩
    · rintro ⟨_ | k, hk⟩
      · exact .inl hk
      · exact .inr ⟨k, hk⟩

theorem char_iff (hc : c ≠ '%') : Like (c :: p) (d :: t) ↔ (c = '_' ∨ c = d) ∧ Like p t := by
  constructor
  · intro h
    cases h with
    | starNil => exact absurd rfl hc
    | starCons => exact absurd rfl hc
    | one _ h => exact ⟨.inl rfl, h⟩
    | char _ _ _ h => exact ⟨.inr rfl, h⟩
  · rintro ⟨rfl | rfl, h⟩
    · exact .one d h
    · by_cases hu : c = '_'
      · subst hu
        exact .one _ h
      · exact .char c hc hu h

theorem not_char_nil (hc : c ≠ '%') : ¬Like (c :: p) [] := by
  intro h
  cases h
  exact hc rfl

theorem tail (hc : c ≠ '%') {s : List Char} (h : Like (c :: p) s) : Like p s.tail := by
  cases s with
  | nil => exact absurd h (not_char_nil hc)
  | cons d t => exact ((char_iff hc).mp h).2

theorem literal (hm : (c == '_' || c == d) = true) (h : Like p t) : Like (c :: p) (d :: t) := by
  by_cases hp : c = '%'
  · subst hp
    have hd : d = '%' := by
      simp only [Bool.or_eq_true, beq_iff_eq] at hm
      rcases hm with h | h
      · cases h
      · exact h.symm
    subst hd
    exact .starCons _ (.starNil h)
  · refine (char_iff hp).mpr ⟨?_, h⟩
    simpa using hm

end Like

theorem ne_percent_of_literal {c d : Char} (hd : d ≠ '%') (hm : (c == '_' || c == d) = true) :
    c ≠ '%' := by
  rintro rfl
  simp only [Bool.or_eq_true, beq_iff_eq] at hm
  rcases hm with h | h
  · cases h
  · exact hd h.symm

section Sound

variable {p t : List Char}

theorem like_of_likeRun_done (h : likeRun p t = .done true) : Like p t := by
  induction p, t using likeRun.induct with
  | case1 p =>
    rw [likeRun] at h
    have hall : p.all (· == '%') = true := LikeRun.done.inj h
    exact Like.nil_text_iff.mpr fun c hc => by simpa using List.all_eq_true.mp hall c hc
  | case2 c p d t hm ih =>
    rw [likeRun, if_pos hm] at h
    exact Like.literal hm (ih h)
  | case3 c p d t hm hs => rw [likeRun, if_neg hm, if_pos hs] at h; cases h
  | case4 c p d t hm hs => rw [likeRun, if_neg hm, if_neg hs] at h; cases h
  | case5 d t => simp [likeRun] at h

theorem like_of_likeRun_star {q u : List Char} (h : likeRun p t = .star q u)
    (hs : Like ('%' :: q) u) : Like p t := by
  induction p, t using likeRun.induct with
  | case1 p => simp [likeRun] at h
  | case2 c p d t hm ih =>
    rw [likeRun, if_pos hm] at h
    exact Like.literal hm (ih h)
  | case3 c p d t hm hs' =>
    rw [likeRun, if_neg hm, if_pos hs'] at h
    cases h
    rw [beq_iff_eq.mp hs']
    exact hs
  | case4 c p d t hm hs' => rw [likeRun, if_neg hm, if_neg hs'] at h; cases h
  | case5 d t => simp [likeRun] at h

theorem likeAfterStar_eq_run (p t : List Char) :
    likeAfterStar p t = match likeRun p t with
      | .done ok => ok
      | .star q u => likeAfterStar q u
      | .retry => match t with
        | [] => false
        | _ :: rest => likeAfterStar p rest := by
  rw [likeAfterStar]
  split <;> rename_i h <;> simp only [h]
  cases t <;> rfl

theorem likeMatch_eq_run (p t : List Char) :
    likeMatch p t = match likeRun p t with
      | .done ok => ok
      | .star q u => likeAfterStar q u
      | .retry => false := by
  induction p, t using likeRun.induct with
  | case1 p => rw [likeMatch_nil_text, likeRun]
  | case2 c p d t hm ih => rw [likeMatch, likeRun, if_pos hm, if_pos hm, ih]
  | case3 c p d t hm hs => rw [likeMatch, likeRun, if_neg hm, if_neg hm, if_pos hs, if_pos hs]
  | case4 c p d t hm hs => rw [likeMatch, likeRun, if_neg hm, if_neg hm, if_neg hs, if_neg hs]
  | case5 d t => rfl

theorem like_of_likeAfterStar (h : likeAfterStar p t = true) : Like ('%' :: p) t := by
  induction p, t using likeAfterStar.induct with
  | case1 p t ok hr =>
    rw [likeAfterStar_eq_run, hr] at h
    cases h
    exact .starNil (like_of_likeRun_done hr)
  | case2 p t q u hr _ ih =>
    rw [likeAfterStar_eq_run, hr] at h
    exact .starNil (like_of_likeRun_star hr (ih h))
  | case3 p hr => simp [likeRun] at hr
  | case4 p d rest hr ih =>
    -- the `%` took one more character
    rw [likeAfterStar_eq_run, hr] at h
    exact .starCons d (ih h)

theorem like_of_likeMatch (h : likeMatch p t = true) : Like p t := by
  rw [likeMatch_eq_run] at h
  split at h
  · next hr => exact like_of_likeRun_done (h ▸ hr)
  · next q u hr => exact like_of_likeRun_star hr (like_of_likeAfterStar h)
  · cases h

end Sound

section Complete

variable {p t : List Char}

theorem likeRun_star_suffix {q u : List Char}
    (h : likeRun p t = .star q u) : q <:+ p ∧ u <:+ t := by
  induction p, t using likeRun.induct with
  | case1 p => simp [likeRun] at h
  | case2 c p d t hm ih =>
    rw [likeRun, if_pos hm] at h
    obtain ⟨hq, hu⟩ := ih h
    exact ⟨hq.trans (List.suffix_cons c p), hu.trans (List.suffix_cons d t)⟩
  | case3 c p d t hm hs =>
    rw [likeRun, if_neg hm, if_pos hs] at h
    cases h
    exact ⟨List.suffix_cons c _, List.suffix_refl _⟩
  | case4 c p d t hm hs => rw [likeRun, if_neg hm, if_neg hs] at h; cases h
  | case5 d t => simp [likeRun] at h

theorem Like.drop_of_literal {c d : Char} (hd : d ≠ '%') (hm : (c == '_' || c == d) = true)
    {k : Nat} (hk : Like (c :: p) ((d :: t).drop k)) : ∃ j, Like p (t.drop j) := by
  have hc := ne_percent_of_literal hd hm
  cases k with
  | zero => exact ⟨0, ((Like.char_iff hc).mp hk).2⟩
  | succ k =>
    have hk' := Like.tail hc hk
    rw [List.drop_succ_cons, ← List.drop_one, List.drop_drop] at hk'
    exact ⟨k + 1, by simpa [Nat.add_comm] using hk'⟩

theorem eq_true_of_likeRun_done {ok : Bool} (ht : '%' ∉ t) (h : likeRun p t = .done ok) :
    ∀ k, Like p (t.drop k) → ok = true := by
  induction p, t using likeRun.induct with
  | case1 p =>
    intro k hk
    rw [likeRun] at h
    cases h
    simpa [Like.nil_text_iff] using hk
  | case2 c p d t hm ih =>
    rw [likeRun, if_pos hm] at h
    intro k hk
    obtain ⟨j, hj⟩ := Like.drop_of_literal (fun hd => ht (hd ▸ List.mem_cons_self)) hm hk
    exact ih (fun hm' => ht (List.mem_cons_of_mem d hm')) h j hj
  | case3 c p d t hm hs => rw [likeRun, if_neg hm, if_pos hs] at h; cases h
  | case4 c p d t hm hs => rw [likeRun, if_neg hm, if_neg hs] at h; cases h
  | case5 d t => simp [likeRun] at h

theorem star_of_likeRun_star {q u : List Char} (ht : '%' ∉ t) (h : likeRun p t = .star q u) :
    ∀ k, Like p (t.drop k) → Like ('%' :: q) u := by
  induction p, t using likeRun.induct with
  | case1 p => simp [likeRun] at h
  | case2 c p d t hm ih =>
    rw [likeRun, if_pos hm] at h
    intro k hk
    obtain ⟨j, hj⟩ := Like.drop_of_literal (fun hd => ht (hd ▸ List.mem_cons_self)) hm hk
    exact ih (fun hm' => ht (List.mem_cons_of_mem d hm')) h j hj
  | case3 c p d t hm hs =>
    rw [likeRun, if_neg hm, if_pos hs] at h
    cases h
    intro k hk
    rw [beq_iff_eq.mp hs, Like.star_iff] at hk
    obtain ⟨j, hj⟩ := hk
    rw [List.drop_drop] at hj
    exact Like.star_iff.mpr ⟨_, hj⟩
  | case4 c p d t hm hs => rw [likeRun, if_neg hm, if_neg hs] at h; cases h
  | case5 d t => simp [likeRun] at h

theorem not_like_of_likeRun_retry (ht : '%' ∉ t) (h : likeRun p t = .retry) : ¬Like p t := by
  induction p, t using likeRun.induct with
  | case1 p => simp [likeRun] at h
  | case2 c p d t hm ih =>
    rw [likeRun, if_pos hm] at h
    have hd : d ≠ '%' := fun hd => ht (hd ▸ List.mem_cons_self)
    intro hl
    exact ih (fun hm' => ht (List.mem_cons_of_mem d hm')) h
      ((Like.char_iff (ne_percent_of_literal hd hm)).mp hl).2
  | case3 c p d t hm hs => rw [likeRun, if_neg hm, if_pos hs] at h; cases h
  | case4 c p d t hm hs =>
    -- neither `_` nor the text's character
    intro hl
    have hc : c ≠ '%' := by simpa using hs
    exact hm (by simpa using ((Like.char_iff hc).mp hl).1)
  | case5 d t => intro hl; exact List.cons_ne_nil d t (Like.nil_iff.mp hl)

/-- Past a `%`, on a text without `%`, the greedy matcher decides the language of that `%` and
the rest of the pattern. -/
theorem likeAfterStar_iff (ht : '%' ∉ t) : likeAfterStar p t = true ↔ Like ('%' :: p) t := by
  induction p, t using likeAfterStar.induct with
  | case1 p t ok hr =>
    rw [likeAfterStar_eq_run, hr, Like.star_iff]
    constructor
    · rintro rfl
      exact ⟨0, like_of_likeRun_done hr⟩
    · rintro ⟨k, hk⟩
      exact eq_true_of_likeRun_done ht hr k hk
  | case2 p t q u hr _ ih =>
    have hu : '%' ∉ u := fun hm => ht ((likeRun_star_suffix hr).2.subset hm)
    rw [likeAfterStar_eq_run, hr]
    dsimp only
    rw [ih hu]
    constructor
    · intro hs
      exact .starNil (like_of_likeRun_star hr hs)
    · intro hs
      obtain ⟨k, hk⟩ := Like.star_iff.mp hs
      exact star_of_likeRun_star ht hr k hk
  | case3 p hr => simp [likeRun] at hr
  | case4 p d rest hr ih =>
    -- no match starts here, so the `%` moves on by one character
    rw [likeAfterStar_eq_run, hr]
    dsimp only
    rw [ih fun hm => ht (List.mem_cons_of_mem d hm), Like.star_cons_iff]
    exact ⟨.inr, fun h => h.resolve_left (not_like_of_likeRun_retry ht hr)⟩

/-- On a text with no `%`, the greedy matcher decides the language of the pattern. -/
theorem likeMatch_iff_like (ht : '%' ∉ t) : likeMatch p t = true ↔ Like p t := by
  rw [likeMatch_eq_run]
  split
  · next ok hr =>
    exact ⟨fun h => like_of_likeRun_done (h ▸ hr), eq_true_of_likeRun_done ht hr 0⟩
  · next q u hr =>
    have hu : '%' ∉ u := fun hm => ht ((likeRun_star_suffix hr).2.subset hm)
    rw [likeAfterStar_iff hu]
    exact ⟨like_of_likeRun_star hr, star_of_likeRun_star ht hr 0⟩
  · next hr =>
    exact ⟨fun h => absurd h Bool.false_ne_true, fun hl => absurd hl (not_like_of_likeRun_retry ht hr)⟩

end Complete

theorem Char.toLower_eq_underscore {c : Char} : c.toLower = '_' ↔ c = '_' := by
  constructor
  · intro h
    have hn := congrArg Char.toNat h
    rw [Char.toNat_toLower] at hn
    have h95 : ('_' : Char).toNat = 95 := rfl
    split_ifs at hn <;> [omega; exact Char.toNat_inj.mp hn]
  · rintro rfl
    rfl

/-- The database's language is the language of pattern and text folded to ASCII lower case. -/
theorem likeText_iff_like (p t : List Char) :
    likeText p t = true ↔ Like (p.map Char.toLower) (t.map Char.toLower) := by
  induction p generalizing t with
  | nil => simp [likeText.eq_1, Like.nil_iff]
  | cons c p ih =>
    by_cases hp : c = '%'
    · subst hp
      induction t with
      | nil => simp [likeText.eq_2, ih, Like.star_nil_iff, Char.toLower]
      | cons d t iht =>
        rw [likeText.eq_3, Bool.or_eq_true, ih, iht]
        exact (Like.star_cons_iff (p := p.map Char.toLower)).symm
    · have hp' : c.toLower ≠ '%' := fun h => hp (Char.toLower_eq_percent.mp h)
      cases t with
      | nil =>
        rw [likeText.eq_6 c p hp]
        exact iff_of_false (by simp) (Like.not_char_nil hp')
      | cons d t =>
        rw [List.map_cons, List.map_cons, Like.char_iff hp', ← ih t]
        by_cases hu : c = '_'
        · subst hu
          simp [likeText.eq_4]
        · have hu' : c.toLower ≠ '_' := fun h => hu (Char.toLower_eq_underscore.mp h)
          rw [likeText.eq_5 c p d t hp hu]
          simp [hu']

/-- On a text with no `%`, pattern and text free of ASCII capitals, the greedy matcher decides the
database's language. -/
theorem likeMatch_eq_likeText {p t : List Char} (hp : ∀ c ∈ p, c.toLower = c)
    (ht : ∀ d ∈ t, d ≠ '%' ∧ d.toLower = d) : likeMatch p t = likeText p t := by
  have hpm : p.map Char.toLower = p := (List.map_congr_left hp).trans p.map_id'
  have htm : t.map Char.toLower = t :=
    (List.map_congr_left fun d hd => (ht d hd).2).trans t.map_id'
  apply Bool.eq_iff_iff.mpr
  rw [likeText_iff_like, hpm, htm]
  exact likeMatch_iff_like fun hm => (ht '%' hm).1 rfl

/-- The in-memory store lower-cases pattern and text as Unicode does; the database lower-cases
the pattern so too but folds only the ASCII letters of the text, and ignores the case of ASCII
letters. On an ASCII text with no `%` the two matches agree. -/
theorem likeMatch_lowercase (pattern : String) {s : String} (hs : IsAscii s) (hp : '%' ∉ s.toList) :
    likeMatch (lowercase pattern).toList (lowercase s).toList =
      likeText (lowercase pattern).toList (asciiLower s).toList := by
  rw [lowercase_of_ascii hs]
  apply likeMatch_eq_likeText (lowercase_toLower pattern)
  intro d hd
  refine ⟨?_, asciiLower_toLower s d hd⟩
  rintro rfl
  simp only [asciiLower, String.toList_ofList, List.mem_map] at hd
  obtain ⟨x, hx, hxd⟩ := hd
  exact hp (Char.toLower_eq_percent.mp hxd ▸ hx)

/-- Characters with no wildcard among them: each stands for itself in a pattern. -/
def WildcardFree (s : List Char) : Prop := ∀ c ∈ s, c ≠ '%' ∧ c ≠ '_'

instance : DecidablePred WildcardFree := fun s =>
  decidable_of_iff (s.all fun c => c != '%' && c != '_') (by simp [WildcardFree])

namespace Like

variable {p t : List Char}

theorem literals_iff {s : List Char} (hs : WildcardFree s) :
    Like (s ++ p) t ↔ ∃ u, t = s ++ u ∧ Like p u := by
  induction s generalizing t with
  | nil => simp
  | cons c s ih =>
    have hc := hs c List.mem_cons_self
    cases t with
    | nil => exact iff_of_false (not_char_nil hc.1) fun ⟨_, h, _⟩ => List.cons_ne_nil _ _ h.symm
    | cons d t =>
      rw [List.cons_append, char_iff hc.1, ih fun x hx => hs x (List.mem_cons_of_mem c hx)]
      constructor
      · rintro ⟨hcd | rfl, u, rfl, hu⟩
        · exact absurd hcd hc.2
        · exact ⟨u, rfl, hu⟩
      · rintro ⟨u, h, hu⟩
        obtain ⟨rfl, rfl⟩ := List.cons_eq_cons.mp h
        exact ⟨.inr rfl, u, rfl, hu⟩

theorem percent_any (t : List Char) : Like ['%'] t :=
  star_iff.mpr ⟨t.length, by simp [nil_iff]⟩

/-- `%s%`, with `s` free of wildcards, matches exactly the texts that contain `s`. -/
theorem contains_iff {s : List Char} (hs : WildcardFree s) :
    Like ('%' :: s ++ ['%']) t ↔ s <:+: t := by
  rw [List.cons_append, star_iff]
  constructor
  · rintro ⟨k, hk⟩
    obtain ⟨u, hu, -⟩ := (literals_iff hs).mp hk
    exact ⟨t.take k, u, by rw [List.append_assoc, ← hu, List.take_append_drop]⟩
  · rintro ⟨a, b, rfl⟩
    refine ⟨a.length, (literals_iff hs).mpr ⟨b, ?_, percent_any b⟩⟩
    simp [List.append_assoc]

end Like

theorem wildcardFree_lowercase {q : String} (hq : WildcardFree q.toList) :
    WildcardFree (lowercase q).toList := by
  intro c hc
  unfold lowercase at hc
  rw [String.toList_ofList] at hc
  constructor
  · rintro rfl
    exact (hq '%' (mem_lowerFrom_low (by decide) (by decide) _ _ hc)).1 rfl
  · rintro rfl
    exact (hq '_' (mem_lowerFrom_low (by decide) (by decide) _ _ hc)).2 rfl

theorem percent_not_mem_lowercase {t : String} (ht : '%' ∉ t.toList) :
    '%' ∉ (lowercase t).toList := by
  intro h
  unfold lowercase at h
  rw [String.toList_ofList] at h
  exact ht (mem_lowerFrom_low (by decide) (by decide) _ _ h)

end Folio.Text
