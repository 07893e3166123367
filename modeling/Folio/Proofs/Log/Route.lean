import Folio.Log.Route
import Mathlib

namespace Folio.Log

/-- The entry with the longest key among those a test picks; the first of equal length. -/
def longest {β : Type} (hit : String → Bool) (entries : List (String × β)) :
    Option (String × β) :=
  (entries.filter fun e => hit e.1).argmax fun e => e.1.length

theorem foldl_longest {β : Type} (step : Option (String × β) → String × β → Option (String × β))
    (hstep : ∀ a x, step a x = List.argAux (fun b c => c.1.length < b.1.length) a x)
    (l : List (String × β)) : l.foldl step none = l.argmax fun e => e.1.length := by
  unfold List.argmax
  congr 1
  funext a x
  exact hstep a x

/-- The level filter applies the level of the longest prefix it names, else its fallback. -/
theorem Targets.threshold_eq (f : Targets) (t : String) :
    f.threshold t = ((longest (·.isPrefixOf t) f.byPrefix).map Prod.snd).getD f.fallback := by
  unfold Targets.threshold
  dsimp only
  rw [foldl_longest]
  · -- the matches are filtered by the same test, written as a pattern
    split
    next a b heq =>
      have h : longest (·.isPrefixOf t) f.byPrefix = some (a, b) := heq
      rw [h]
      rfl
    next heq =>
      have h : longest (·.isPrefixOf t) f.byPrefix = none := heq
      rw [h]
      rfl
  · intro a x
    cases a <;> rfl

/-- The router picks the file of the longest key the target lies under, else its fallback. -/
theorem Router.resolve_eq (r : Router) (t : String) :
    r.resolve t = ((longest (underTarget t) r.byTarget).map Prod.snd).or r.fallback := by
  unfold Router.resolve
  dsimp only
  rw [foldl_longest]
  · split
    next a b heq =>
      have h : longest (underTarget t) r.byTarget = some (a, b) := heq
      rw [h]
      rfl
    next heq =>
      have h : longest (underTarget t) r.byTarget = none := heq
      rw [h]
      rfl
  · intro a x
    cases a <;> rfl

section Longest

variable {β : Type} {hit : String → Bool} {l : List (String × β)} {e : String × β}

theorem longest_mem (h : longest hit l = some e) : e ∈ l ∧ hit e.1 = true := by
  have := List.mem_filter.mp (List.argmax_mem (Option.mem_def.mpr h))
  exact ⟨this.1, by simpa using this.2⟩

theorem longest_max (h : longest hit l = some e) {e' : String × β} (he' : e' ∈ l)
    (hh : hit e'.1 = true) : e'.1.length ≤ e.1.length :=
  List.le_of_mem_argmax (f := fun e : String × β => e.1.length)
    (List.mem_filter.mpr ⟨he', by simpa using hh⟩) (Option.mem_def.mpr h)

theorem longest_eq_none : longest hit l = none ↔ ∀ e ∈ l, hit e.1 = false := by
  unfold longest
  rw [List.argmax_eq_none, List.filter_eq_nil_iff]
  simp

theorem longest_eq_some_iff (hkeys : (l.map Prod.fst).Nodup)
    (hone : ∀ k k', hit k = true → hit k' = true → k.length = k'.length → k = k') :
    longest hit l = some e ↔
      e ∈ l ∧ hit e.1 = true ∧ ∀ e' ∈ l, hit e'.1 = true → e'.1.length ≤ e.1.length := by
  constructor
  · intro h
    exact ⟨(longest_mem h).1, (longest_mem h).2, fun e' he' hh => longest_max h he' hh⟩
  · rintro ⟨he, hh, hmax⟩
    cases h : longest hit l with
    | none => exact absurd hh (by simp [(longest_eq_none.mp h) e he])
    | some e' =>
      obtain ⟨he', hh'⟩ := longest_mem h
      -- both are longest, so they have one key, and distinct keys make them one entry
      have hkey : e'.1 = e.1 :=
        hone _ _ hh' hh (le_antisymm (hmax e' he' hh') (longest_max h he hh))
      exact congrArg some (List.inj_on_of_nodup_map hkeys he' he hkey)

theorem longest_map {γ : Type} (g : β → γ) (l : List (String × β)) :
    longest hit (l.map fun e => (e.1, g e.2)) = (longest hit l).map fun e => (e.1, g e.2) := by
  unfold longest
  rw [List.filter_map]
  -- the test reads only the key, which the map keeps
  have htest : ((fun e => hit e.1) ∘ fun e : String × β => (e.1, g e.2)) = fun e => hit e.1 := rfl
  rw [htest]
  generalize l.filter (fun e => hit e.1) = m
  induction m with
  | nil => rfl
  | cons a rest ih =>
    rw [List.map_cons, List.argmax_cons, List.argmax_cons, ih]
    cases List.argmax (fun e => e.1.length) rest with
    | none => rfl
    | some c =>
      dsimp only [Option.map_some]
      split_ifs <;> rfl

end Longest

theorem isPrefixOf_iff {p s : String} : p.isPrefixOf s = true ↔ p.toList <+: s.toList :=
  String.startsWith_string_iff

theorem eq_of_isPrefixOf {t k k' : String} (hk : k.isPrefixOf t = true)
    (hk' : k'.isPrefixOf t = true) (hl : k.length = k'.length) : k = k' := by
  rw [isPrefixOf_iff] at hk hk'
  have hl' : k.toList.length = k'.toList.length := by rw [String.length_toList, String.length_toList, hl]
  exact String.toList_inj.mp ((List.prefix_of_prefix_length_le hk hk' hl'.le).eq_of_length hl')

theorem isPrefixOf_of_underTarget {t k : String} (h : underTarget t k = true) :
    k.isPrefixOf t = true := by
  rw [isPrefixOf_iff]
  unfold underTarget at h
  rcases Bool.or_eq_true_iff.mp h with h | h
  · obtain rfl := beq_iff_eq.mp h
    exact List.prefix_refl _
  · rw [isPrefixOf_iff, String.toList_append] at h
    exact (List.prefix_append _ _).trans h

/-- The sections other than the default one that name a file: those the file filter and the
router look a target up among. -/
def targetSections (cfg : List (String × Section)) : List (String × Section) :=
  cfg.filter fun e => e.1 != defaultSection && e.2.hasFile

/-- The section whose file level the file filter applies to a target: the one whose key is the
longest plain prefix of the target; none leaves the target to the default section. -/
def levelSection (cfg : List (String × Section)) (t : String) : Option (String × Section) :=
  longest (·.isPrefixOf t) (targetSections cfg)

/-- The section whose file takes a target's events: the one whose key is the longest that the
target is, or lies below in the module path; none leaves the target to the default file. -/
def fileSection (cfg : List (String × Section)) (t : String) : Option (String × Section) :=
  longest (underTarget t) (targetSections cfg)

def defaultFiled (cfg : List (String × Section)) : Option Section :=
  (cfg.lookup defaultSection).filter Section.hasFile

/-- The least level of a target's events that reach a file: that of its level section, else
that of the default section when it names a file; nothing reaches a file otherwise. -/
def levelOf (cfg : List (String × Section)) (t : String) : Threshold :=
  match levelSection cfg t with
  | some (_, s) => Threshold.parse s.fileLevel
  | none => (defaultFiled cfg).bind fun s => Threshold.parse s.fileLevel

/-- The file a target's events go to: that of its file section, else the default file. -/
def fileFor (cfg : List (String × Section)) (t : String) : Option String :=
  match fileSection cfg t with
  | some (_, s) => some (Text.trim s.file)
  | none => (defaultFiled cfg).map fun s => Text.trim s.file

theorem levelOf_eq (cfg : List (String × Section)) (t : String) :
    levelOf cfg t = ((levelSection cfg t).map fun e => Threshold.parse e.2.fileLevel).getD
      ((defaultFiled cfg).bind fun s => Threshold.parse s.fileLevel) := by
  unfold levelOf
  rcases levelSection cfg t with _ | ⟨k, s⟩
  · simp only [Option.map_none, Option.getD_none]
  · simp only [Option.map_some, Option.getD_some]

theorem fileFor_eq (cfg : List (String × Section)) (t : String) :
    fileFor cfg t = ((fileSection cfg t).map fun e => Text.trim e.2.file).or
      ((defaultFiled cfg).map fun s => Text.trim s.file) := by
  unfold fileFor
  rcases fileSection cfg t with _ | ⟨k, s⟩
  · simp only [Option.map_none, Option.none_or]
  · simp only [Option.map_some, Option.some_or]

/-- The file filter, with the default section's file open exactly when it names one, applies
the level of the target's level section, else the default section's. -/
theorem fileTargets_threshold (cfg : List (String × Section)) (t : String) :
    (fileTargets cfg (defaultFiled cfg).isSome).threshold t = levelOf cfg t := by
  rw [Targets.threshold_eq]
  have hby : (fileTargets cfg (defaultFiled cfg).isSome).byPrefix =
      (targetSections cfg).map fun e => (e.1, Threshold.parse e.2.fileLevel) := rfl
  have hfb : (fileTargets cfg (defaultFiled cfg).isSome).fallback =
      (defaultFiled cfg).bind fun s => Threshold.parse s.fileLevel := by
    unfold fileTargets defaultFiled
    cases cfg.lookup defaultSection with
    | none => rfl
    | some s => cases hs : s.hasFile <;> simp [hs, Option.filter]
  rw [hby, hfb, longest_map (fun s : Section => Threshold.parse s.fileLevel), levelOf_eq,
    Option.map_map]
  unfold levelSection
  simp only [Function.comp_def]

theorem lookup_filter {β : Type} (p : String × β → Bool) (k : String) :
    ∀ {l : List (String × β)}, (l.map Prod.fst).Nodup →
      (l.filter p).lookup k = (l.lookup k).filter fun v => p (k, v)
  | [], _ => rfl
  | (k', v) :: l, hl => by
    obtain ⟨hk', hrest⟩ := List.nodup_cons.mp hl
    by_cases hk : k = k'
    · subst hk
      -- the key is not found again further on
      have hnone : l.lookup k = none := by
        rw [List.lookup_eq_none_iff]
        intro a ha
        rw [bne_iff_ne]
        rintro rfl
        exact hk' (List.mem_map.mpr ⟨a, ha, rfl⟩)
      by_cases hp : p (k, v) = true
      · rw [List.filter_cons_of_pos hp]
        simp [Option.filter, hp]
      · rw [List.filter_cons_of_neg hp, lookup_filter p k hrest, hnone]
        simp [Option.filter, hp]
    · have hne : (k == k') = false := beq_false_of_ne hk
      by_cases hp : p (k', v) = true
      · rw [List.filter_cons_of_pos hp]
        simp [List.lookup_cons, hne, lookup_filter p k hrest]
      · rw [List.filter_cons_of_neg hp]
        simp [List.lookup_cons, hne, lookup_filter p k hrest]

section Opened

variable {cfg : List (String × Section)} {opens : String → Bool}

/-- When every named file opens, the router has the default section's file and the files of
the other sections that name one. -/
theorem router_of_opened (hkeys : (cfg.map Prod.fst).Nodup)
    (hopen : ∀ e ∈ cfg, e.2.hasFile = true → opens (Text.trim e.2.file) = true) :
    router cfg opens = ⟨(defaultFiled cfg).map fun s => Text.trim s.file,
      (targetSections cfg).map fun e => (e.1, Text.trim e.2.file)⟩ := by
  have hnamed : (cfg.filter fun e => e.2.hasFile && opens (Text.trim e.2.file)) =
      cfg.filter fun e => e.2.hasFile := by
    refine List.filter_congr fun e he => ?_
    cases hf : e.2.hasFile
    · rfl
    · simp [hopen e he hf]
  unfold router
  simp only
  congr 1
  · rw [show (cfg.filter fun (x : String × Section) => x.2.hasFile && opens (Text.trim x.2.file))
        = cfg.filter fun e => e.2.hasFile && opens (Text.trim e.2.file) from rfl, hnamed,
      lookup_filter _ _ hkeys]
    rfl
  · rw [show (cfg.filter fun (x : String × Section) => x.2.hasFile && opens (Text.trim x.2.file))
        = cfg.filter fun e => e.2.hasFile && opens (Text.trim e.2.file) from rfl, hnamed,
      List.filter_filter]
    rfl

/-- When every named file opens, an event goes to a file exactly when its level passes that of
its level section, and then to the file of its file section. -/
theorem fileOf_eq (hkeys : (cfg.map Prod.fst).Nodup)
    (hopen : ∀ e ∈ cfg, e.2.hasFile = true → opens (Text.trim e.2.file) = true) (e : Event) :
    fileOf cfg opens e =
      if (levelOf cfg e.target).admits e.level then fileFor cfg e.target else none := by
  unfold fileOf
  rw [router_of_opened hkeys hopen]
  dsimp only
  rw [Option.isSome_map, Targets.admits, fileTargets_threshold, Router.resolve_eq,
    longest_map (fun s : Section => Text.trim s.file), Option.map_map, fileFor_eq]
  unfold fileSection
  simp only [Function.comp_def]

end Opened

theorem nodup_targetSections {cfg : List (String × Section)} (hkeys : (cfg.map Prod.fst).Nodup) :
    ((targetSections cfg).map Prod.fst).Nodup :=
  hkeys.sublist (List.filter_sublist.map Prod.fst)

/-- The file section is the level section exactly when the target lies under the level
section's key, or neither exists. -/
theorem fileSection_eq_levelSection_iff {cfg : List (String × Section)}
    (hkeys : (cfg.map Prod.fst).Nodup) (t : String) :
    fileSection cfg t = levelSection cfg t ↔
      ∀ k s, levelSection cfg t = some (k, s) → underTarget t k = true := by
  constructor
  · intro h k s hl
    rw [← h] at hl
    exact (longest_mem hl).2
  · intro h
    cases hl : levelSection cfg t with
    | none =>
      -- no key is a plain prefix of the target, so the target lies under none
      refine longest_eq_none.mpr fun e he => ?_
      have hp := longest_eq_none.mp hl e he
      cases hu : underTarget t e.1
      · rfl
      · rw [isPrefixOf_of_underTarget hu] at hp
        cases hp
    | some ks =>
      obtain ⟨k, s⟩ := ks
      obtain ⟨hmem, -⟩ := longest_mem hl
      -- the longest plain prefix is also the longest key the target lies under
      refine (longest_eq_some_iff (nodup_targetSections hkeys) fun a b ha hb hab =>
        eq_of_isPrefixOf (isPrefixOf_of_underTarget ha) (isPrefixOf_of_underTarget hb) hab).mpr
        ⟨hmem, h k s hl, fun e' he' hh => longest_max hl he' (isPrefixOf_of_underTarget hh)⟩

/-- When every section that names a file has it opened, and the configuration names each
section once: the file filter applies to a target the file level of its level section (the one
whose key is the longest plain prefix of the target, among the sections other than the default
one that name a file), else that of the default section; an event goes to a file exactly when its
level is at or above that level, and the file is that of its file section (the one whose key is
the longest the target is or lies below in the module path), else the default file. The two
sections are the same exactly when the target lies under the level section's key. -/
theorem fileOf_level_and_file {cfg : List (String × Section)} {opens : String → Bool}
    (hkeys : (cfg.map Prod.fst).Nodup)
    (hopen : ∀ e ∈ cfg, e.2.hasFile = true → opens (Text.trim e.2.file) = true) (e : Event) :
    (fileTargets cfg (router cfg opens).fallback.isSome).threshold e.target =
        levelOf cfg e.target ∧
      (∀ F, fileOf cfg opens e = some F ↔
        (levelOf cfg e.target).admits e.level = true ∧ fileFor cfg e.target = some F) ∧
      (fileSection cfg e.target = levelSection cfg e.target ↔
        ∀ k s, levelSection cfg e.target = some (k, s) → underTarget e.target k = true) := by
  refine ⟨?_, fun F => ?_, fileSection_eq_levelSection_iff hkeys e.target⟩
  · rw [router_of_opened hkeys hopen, Option.isSome_map]
    exact fileTargets_threshold cfg e.target
  · rw [fileOf_eq hkeys hopen]
    split_ifs with h
    · exact ⟨fun hF => ⟨h, hF⟩, fun hF => hF.2⟩
    · exact ⟨fun hF => (by cases hF), fun hF => absurd hF.1 h⟩

/-- A default section and a section `listkit`, whose key is a plain prefix of the target
`listkit_db::repo` although that target does not lie under it. -/
def siblingConfig : List (String × Section) :=
  [("default", ⟨"off", "logs/default.log", "error", none, none⟩),
   ("listkit", ⟨"off", "logs/listkit.log", "trace", none, none⟩)]

def siblingEvent : Event := ⟨.trace, "listkit_db::repo", "list query", [], []⟩

theorem fileOf_level_and_file_sibling :
    (siblingConfig.map Prod.fst).Nodup ∧
      (∀ e ∈ siblingConfig, e.2.hasFile = true → (fun _ : String => true) (Text.trim e.2.file)) ∧
      fileOf siblingConfig (fun _ => true) siblingEvent = some "logs/default.log" := by
  have hkeys : (siblingConfig.map Prod.fst).Nodup := by decide
  have hopen : ∀ e ∈ siblingConfig, e.2.hasFile = true →
      (fun _ : String => true) (Text.trim e.2.file) := by decide
  obtain ⟨-, hfile, -⟩ :=
    @fileOf_level_and_file siblingConfig (fun _ => true) hkeys hopen siblingEvent
  have hlevel : levelOf siblingConfig siblingEvent.target = some .trace := by decide +kernel
  have hf : fileFor siblingConfig siblingEvent.target = some "logs/default.log" := by
    decide +kernel
  refine ⟨hkeys, hopen, (hfile _).mpr ⟨?_, hf⟩⟩
  rw [hlevel]
  decide

/-- The level of a trace event of `listkit_db::repo` comes from the section `listkit`, which
admits it, and the event is written to the default file. -/
theorem sibling_target_level_and_file_disagree :
    levelSection siblingConfig siblingEvent.target =
        some ("listkit", ⟨"off", "logs/listkit.log", "trace", none, none⟩) ∧
      fileOf siblingConfig (fun _ => true) siblingEvent = some "logs/default.log" := by
  decide +kernel

end Folio.Log
