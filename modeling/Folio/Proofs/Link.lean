import Folio.Proofs.Walk
import Mathlib

open Folio.TextMap

namespace Folio

theorem mem_linkParams {r : Request} {k v : String} :
    (k, v) ∈ linkParams r ↔ r.get? k = some v ∧ v ≠ "" ∧ k ≠ afterKey ∧ k ≠ beforeKey := by
  unfold linkParams
  rw [List.mem_filter]
  constructor
  · rintro ⟨hm, hkeep⟩
    simp only [Bool.and_eq_true, Bool.not_eq_true', String.isEmpty_eq_false_iff,
      bne_iff_ne] at hkeep
    exact ⟨get?_of_mem hm, hkeep.1.1, hkeep.1.2, hkeep.2⟩
  · rintro ⟨hget, hv, ha, hb⟩
    refine ⟨mem_of_get? hget, ?_⟩
    simp [hv, ha, hb]

/-- A next link encodes exactly what it claims. There is none without a last id. With the last
id's text `s`, on a base without a query, the link's query decodes to the request's parameters
with a value, in key order, less the two id boundaries, followed by the one boundary of the
direction (`more_than` ascending, `less_than` descending) set to `s`. -/
theorem nextLink_query_pairs (l : LinkConfig) (r : Request) (path : String)
    (d : SortDir) (s : String) :
    l.nextLink r path d none = .ok none ∧
      ∀ base, l.baseUrl path = .ok base → base.query = none →
        ∃ u, l.nextLink r path d (some s) = .ok (some u) ∧
          ∃ L, Url.Form.parse ((Url.queryOfText u).getD "") = L ++ [(d.boundaryKey, s)] ∧
            L.Pairwise (fun a b => a.1 < b.1) ∧
            ∀ k v, (k, v) ∈ L ↔ r.get? k = some v ∧ v ≠ "" ∧ k ≠ afterKey ∧ k ≠ beforeKey := by
  refine ⟨rfl, fun base hb hq => ?_⟩
  refine ⟨(Url.Form.appendPairs base (linkParams r ++ [(d.boundaryKey, s)])).serialize,
    by simp [LinkConfig.nextLink, hb, bind, Except.bind, pure, Except.pure], linkParams r, ?_,
    Request.sorted_linkParams r, fun k v => mem_linkParams⟩
  -- the base contributes no pairs, so the query holds exactly the appended ones
  rw [Url.parse_queryOfText_appendPairs (parse_of_baseUrl hb), hq, Option.getD_none,
    Url.Form.parse_empty, List.nil_append]

/-- The next link of a descending request on titles like `foo bar` with an old boundary below
50, past id 42: the title filter and the direction, then the new boundary only. -/
theorem nextLink_query_pairs_descending :
    ∃ base, ({ protocol := "https", host := "api.example.com" } : LinkConfig).baseUrl "/posts" =
        .ok base ∧ base.query = none ∧
      ∃ u, ({ protocol := "https", host := "api.example.com" } : LinkConfig).nextLink
          ⟨none, 20, .desc, ⟨[("order__createdAt", "DESC"), ("where__id__less_than", "50"),
            ("where__title__i_like", "foo bar")], by decide⟩⟩ "/posts" .desc (some "42") =
          .ok (some u) ∧
        ∃ L, Url.Form.parse ((Url.queryOfText u).getD "") = L ++ [(SortDir.desc.boundaryKey, "42")] ∧
          L.Pairwise (fun a b => a.1 < b.1) ∧
          ∀ k v, (k, v) ∈ L ↔ Request.get? ⟨none, 20, .desc, ⟨[("order__createdAt", "DESC"),
            ("where__id__less_than", "50"), ("where__title__i_like", "foo bar")], by decide⟩⟩ k =
              some v ∧ v ≠ "" ∧ k ≠ afterKey ∧ k ≠ beforeKey := by
  have hb : ({ protocol := "https", host := "api.example.com" } : LinkConfig).baseUrl "/posts" =
      .ok ⟨"https", "", "", some (.domain "api.example.com"), none, .segments ["posts"], none, none⟩ := by
    decide +kernel
  exact ⟨_, hb, rfl, (nextLink_query_pairs { protocol := "https", host := "api.example.com" }
    ⟨none, 20, .desc, ⟨[("order__createdAt", "DESC"), ("where__id__less_than", "50"),
      ("where__title__i_like", "foo bar")], by decide⟩⟩ "/posts" .desc "42").2 _ hb rfl⟩

end Folio
