import Folio.Store.Repository
import Folio.Store.Record
import Folio.Proofs.Text.Like
import Mathlib

namespace Folio.Store

open Folio.Filter Folio.Text

variable {α : Type} [Row α]

theorem build_like (field q : String) :
    Operator.like.build field q = .ok ⟨field, .like, ["%" ++ q ++ "%"]⟩ := rfl

/-- A `like` predicate on a text field matches the lower case of its first value against the
lower case of the text. -/
theorem satisfies_like_text {row : α} {field t : String} (pattern : String)
    (ht : lookup row field = .ok (.text t)) :
    satisfies row ⟨field, .like, [pattern]⟩ =
      .ok (likeMatch (lowercase pattern).toList (lowercase t).toList) := by
  rw [satisfies, ht]
  rfl

/-- The `like` filter built from a value free of wildcards keeps a row only when its text
contains the value, both in lower case, and keeps every such row whose text has no `%`. -/
theorem satisfies_like_build {row : α} {field q t : String} (hq : WildcardFree q.toList)
    (ht : lookup row field = .ok (.text t)) :
    ∃ pred b, Operator.like.build field q = .ok pred ∧ satisfies row pred = .ok b ∧
      (b = true → (lowercase q).toList <:+: (lowercase t).toList) ∧
      ('%' ∉ t.toList → b = decide ((lowercase q).toList <:+: (lowercase t).toList)) := by
  have hlq := wildcardFree_lowercase hq
  refine ⟨_, _, build_like field q, satisfies_like_text _ ht, fun hb => ?_, fun hpct => ?_⟩
  · have hl := like_of_likeMatch hb
    rw [lowercase_percent_wrap] at hl
    exact (Like.contains_iff hlq).mp hl
  · -- on a text with no `%` the matcher decides the language of `%q%`
    rw [Bool.eq_iff_iff, decide_eq_true_iff, lowercase_percent_wrap,
      likeMatch_iff_like (percent_not_mem_lowercase hpct)]
    exact Like.contains_iff hlq

/-- The greedy matcher accepts a text only in the language of the pattern, and accepts it whenever
it is in the language and has no `%`; so the `like` filter built from a value free of wildcards
keeps only rows whose text contains the value, in lower case, and all of them whose text has no
`%`. -/
theorem likeMatch_language (p t : List Char) :
    (likeMatch p t = true → Like p t) ∧ ('%' ∉ t → (likeMatch p t = true ↔ Like p t)) ∧
      ∀ {α : Type} [Row α] (row : α) (field q s : String), WildcardFree q.toList →
        lookup row field = .ok (.text s) →
        ∃ pred b, Operator.like.build field q = .ok pred ∧ satisfies row pred = .ok b ∧
          (b = true → (lowercase q).toList <:+: (lowercase s).toList) ∧
          ('%' ∉ s.toList → b = decide ((lowercase q).toList <:+: (lowercase s).toList)) :=
  ⟨like_of_likeMatch, likeMatch_iff_like, fun _ _ _ _ hq hs => satisfies_like_build hq hs⟩

/-- A search for `O 5` in a title with an underscore but no `%`: the filter keeps the post. -/
theorem likeMatch_language_on_sale_title :
    Like "%l_o".toList "hello".toList ∧
      ∃ pred, Operator.like.build "title" "O 5" = .ok pred ∧
        satisfies (⟨1, "Hello 50_off", "", 0, 0, 0, ⟨0, 0⟩⟩ : Post) pred = .ok true := by
  obtain ⟨hsound, -, hstore⟩ := likeMatch_language "%l_o".toList "hello".toList
  refine ⟨hsound (by decide +kernel), ?_⟩
  obtain ⟨pred, b, hb, hs, -, hdec⟩ :=
    hstore (⟨1, "Hello 50_off", "", 0, 0, 0, ⟨0, 0⟩⟩ : Post) "title" "O 5" "Hello 50_off"
      (by decide) rfl
  refine ⟨pred, hb, ?_⟩
  rw [hs, hdec (by decide)]
  decide +kernel

/-- A search for `0` in the title `50%_off`: the title contains it, yet the filter drops the
post, since the `%` in front of the value is used up on the title's `%`. -/
theorem like_filter_misses_after_percent :
    likeMatch "%0%".toList "50%_off".toList = false ∧ Like "%0%".toList "50%_off".toList ∧
      satisfies (⟨1, "50%_off", "", 0, 0, 0, ⟨0, 0⟩⟩ : Post) ⟨"title", .like, ["%0%"]⟩ = .ok false ∧
      (lowercase "0").toList <:+: (lowercase "50%_off").toList := by
  have hp : "%0%".toList = '%' :: ['0'] ++ ['%'] := by simp
  refine ⟨by decide +kernel, ?_, ?_, by decide +kernel⟩
  · rw [hp, Like.contains_iff (by decide)]
    decide
  · rw [satisfies_like_text _ rfl]
    decide +kernel

end Folio.Store
