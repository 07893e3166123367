import Folio.Paginate
import Folio.Proofs.Url.Query
import Folio.Proofs.Store.Memory
import Mathlib

open Folio.TextMap

namespace Folio

/-- The request a next link asks for: the form pairs of its query, set in order. -/
def Request.ofLink (link : String) : Except Error Request :=
  Request.ofPairs (Url.Form.parse ((Url.queryOfText link).getD ""))

/-- A client following next links from a request with at most `fuel` calls: the data of each
page in order, or the first failure; `none` when the fuel runs out. -/
def walk {α : Type} [Store.Row α] (links : LinkConfig) (repo : Store.Repository α)
    (o : Override) (path : String) : Nat → Request → Option (Except Store.Failure (List (List α)))
  | 0, _ => none
  | fuel + 1, r =>
    match (paginate links r repo o path).1 with
    | .error f => some (.error f)
    | .ok (.offset data _) => some (.ok [data])
    | .ok (.cursor data _ _ none) => some (.ok [data])
    | .ok (.cursor data _ _ (some link)) =>
      match Request.ofLink link with
      | .error e => some (.error (.rejected e))
      | .ok r' => (walk links repo o path fuel r').map fun pages => pages.map (data :: ·)

section Pages

variable {α : Type}

/-- Rows cut into pages of `take`: after a full page comes another, empty once the rows ran
out. -/
def pagesOf (take : Nat) (rows : List α) : List (List α) :=
  if 0 < take ∧ take ≤ rows.length then rows.take take :: pagesOf take (rows.drop take)
  else [rows]
termination_by rows.length
decreasing_by simp only [List.length_drop]; omega

theorem pagesOf_of_le {take : Nat} {rows : List α} (hk : 0 < take) (h : take ≤ rows.length) :
    pagesOf take rows = rows.take take :: pagesOf take (rows.drop take) := by
  rw [pagesOf, if_pos ⟨hk, h⟩]

theorem pagesOf_of_lt {take : Nat} {rows : List α} (h : rows.length < take) :
    pagesOf take rows = [rows] := by
  rw [pagesOf, if_neg (by omega)]

theorem flatten_pagesOf (take : Nat) (rows : List α) : (pagesOf take rows).flatten = rows := by
  fun_induction pagesOf take rows with
  | case1 rows h ih => rw [List.flatten_cons, ih, List.take_append_drop]
  | case2 rows h => simp

theorem length_pagesOf {take : Nat} (hk : 0 < take) (rows : List α) :
    (pagesOf take rows).length = rows.length / take + 1 := by
  fun_induction pagesOf take rows with
  | case1 rows h ih =>
    have hdiv : rows.length / take = (rows.length - take) / take + 1 := by
      rw [Nat.div_eq_sub_div hk h.2]
    rw [List.length_cons, ih, List.length_drop, hdiv]
  | case2 rows h =>
    have hlt : rows.length < take := by omega
    simp [Nat.div_eq_of_lt hlt]

theorem pagesOf_ne_nil (take : Nat) (rows : List α) : pagesOf take rows ≠ [] := by
  unfold pagesOf
  split_ifs <;> simp

theorem length_of_mem_dropLast_pagesOf (take : Nat) (rows : List α) :
    ∀ p ∈ (pagesOf take rows).dropLast, p.length = take := by
  fun_induction pagesOf take rows with
  | case1 rows h ih =>
    intro p hp
    rw [List.dropLast_cons_of_ne_nil (pagesOf_ne_nil take _), List.mem_cons] at hp
    rcases hp with rfl | hp
    · simp [h.2]
    · exact ih p hp
  | case2 rows h => simp

end Pages

section Cursor

/-- A cursor request's page: the rows the store finds for its query, the last id when the page
is full, and the link past it. -/
theorem paginate_cursor {α : Type} [Store.Row α] {links : LinkConfig} {r : Request}
    {repo : Store.Repository α} {o : Override} {path : String} {spec : Spec}
    (hc : r.page = none) (h : compose r o = .ok spec) :
    (paginate links r repo o path).1 = (repo.find spec).bind fun data =>
      match links.nextLink r path r.createdAtDir ((lastId data r.take).map toString) with
      | .error e => .error (.rejected e)
      | .ok next => .ok (.cursor data (lastId data r.take) data.length next) := by
  unfold paginate
  simp only [h, hc, Option.isSome_none, Bool.false_eq_true, if_false]
  cases repo.find spec with
  | error f => rfl
  | ok data =>
    dsimp only [Except.bind]
    cases links.nextLink r path r.createdAtDir ((lastId data r.take).map toString) <;> rfl

theorem nextLink_followed (links : LinkConfig) (r : Request) (s path : String) (d : SortDir)
    (x : Option String) : links.nextLink (r.followed s) path d x = links.nextLink r path d x := by
  simp only [LinkConfig.nextLink, Request.linkParams_followed]

theorem parse_of_baseUrl {links : LinkConfig} {path : String} {base : Url}
    (hb : links.baseUrl path = .ok base) : Url.parse (links.baseText path) = .ok base := by
  unfold LinkConfig.baseUrl at hb
  dsimp only at hb
  split at hb
  · next u hu => cases hb; exact hu
  · cases hb

/-- The link after a full page, on a base without a query, reads back as the request it was
made for, past the page's last id. -/
theorem ofLink_nextLink {links : LinkConfig} {path : String} {r : Request} (hr : r.Recorded)
    (hc : r.page = none) {base : Url} (hb : links.baseUrl path = .ok base)
    (hq : base.query = none) (s : String) :
    ∃ link, links.nextLink r path r.createdAtDir (some s) = .ok (some link) ∧
      Request.ofLink link = .ok (r.followed s) := by
  refine ⟨(Url.Form.appendPairs base (linkParams r ++ [(r.createdAtDir.boundaryKey, s)])).serialize,
    by simp [LinkConfig.nextLink, hb, bind, Except.bind, pure, Except.pure], ?_⟩
  rw [Request.ofLink, Url.parse_queryOfText_appendPairs (parse_of_baseUrl hb), hq,
    Option.getD_none, Url.Form.parse_empty, List.nil_append]
  exact Request.ofPairs_linkParams hr hc s

theorem baseUrl_of_nextLink {links : LinkConfig} {r : Request} {path s : String} {d : SortDir}
    {next : Option String} (h : links.nextLink r path d (some s) = .ok next) :
    ∃ base, links.baseUrl path = .ok base := by
  unfold LinkConfig.nextLink at h
  cases hb : links.baseUrl path with
  | error e => simp [hb, bind, Except.bind] at h
  | ok base => exact ⟨base, rfl⟩

/-- The next link of a cursor request read from query pairs, on a base without a query, exists
past any last id and reads back as a cursor request of the same page size and direction. When
the request filters no field under the name `id` and the pinned filters leave `id` alone, the
query it asks for is the first query with the boundary past the last id: every filter kept, the
boundary on `id`, the same order and page size, and no offset. -/
theorem compose_ofLink_nextLink {ps : List (String × String)} {r : Request} {o : Override}
    {links : LinkConfig} {path : String} {base : Url}
    (hr : Request.ofPairs ps = .ok r) (hc : r.page = none) (hb : links.baseUrl path = .ok base)
    (hq : base.query = none) (x : Int) :
    ∃ link r', links.nextLink r path r.createdAtDir (some (toString x)) = .ok (some link) ∧
      Request.ofLink link = .ok r' ∧ r'.page = none ∧ r'.take = r.take ∧
      r'.createdAtDir = r.createdAtDir ∧
      (r.FiltersNoId → (∀ e ∈ o.filters.entries, e.1 ≠ "id") → ∀ spec, compose r o = .ok spec →
        ∃ spec', compose r' o = .ok spec' ∧
          (∀ f p, spec.filters.get? f = some p → spec'.filters.get? f = some p) ∧
          spec'.filters.get? "id" = some (r.createdAtDir.boundary (toString x)) ∧
          spec'.order = spec.order ∧ spec'.limit = spec.limit ∧ spec'.offset = none) := by
  obtain ⟨link, hlink, hof⟩ :=
    ofLink_nextLink (Request.recorded_ofPairs hr) hc hb hq (toString x)
  refine ⟨link, _, hlink, hof, rfl, rfl, rfl, fun hnoid hpins spec h => ?_⟩
  have hne := compose_filters_ne_id hnoid hpins h
  have hoff : spec.offset = none := by
    rw [(compose_limit_offset h).2, Request.offset, hc]
    rfl
  refine ⟨_, compose_followed hc hnoid hpins h _, fun f p hp => ?_, get?_insert_self _ _ _, rfl,
    rfl, hoff⟩
  -- the query has no filter on `id`, so the boundary lands beside the others
  obtain ⟨e, he, rfl⟩ := exists_mem_of_get? hp
  rw [get?_insert_of_ne _ _ (hne e he)]
  exact hp

/-- The request for posts titled `b`, a post a page, followed past id 1. -/
theorem compose_ofLink_titled :
    ∃ link r', ({} : LinkConfig).nextLink ⟨none, 1, .asc, ⟨[("take", "1"),
        ("where__title", "b")], by decide⟩⟩ "posts" .asc (some (toString (1 : Int))) =
        .ok (some link) ∧
      Request.ofLink link = .ok r' ∧ r'.page = none ∧ r'.take = 1 ∧ r'.createdAtDir = .asc ∧
      ∃ spec', compose r' {} = .ok spec' ∧
        (∀ f p, (⟨[("title", ⟨"title", .eq, ["b"]⟩)], by decide⟩ : TextMap Filter.Predicate).get? f =
          some p → spec'.filters.get? f = some p) ∧
        spec'.filters.get? "id" = some (SortDir.asc.boundary (toString (1 : Int))) ∧
        spec'.order = ⟨[⟨"createdAt", .asc⟩]⟩ ∧ spec'.limit = 1 ∧ spec'.offset = none := by
  obtain ⟨link, r', hlink, hof, hp, ht, hd, hq⟩ :=
    @compose_ofLink_nextLink [("where__title", "b"), ("take", "1")]
      ⟨none, 1, .asc, ⟨[("take", "1"), ("where__title", "b")], by decide⟩⟩ {} {} "posts"
      ⟨"http", "", "", some (.domain "localhost"), some 8087, .segments ["posts"], none, none⟩
      rfl rfl (by decide +kernel) rfl 1
  have hspec : compose ⟨none, 1, .asc, ⟨[("take", "1"), ("where__title", "b")], by decide⟩⟩ {} =
      .ok ⟨⟨[("title", ⟨"title", .eq, ["b"]⟩)], by decide⟩, ⟨[⟨"createdAt", .asc⟩]⟩, 1, none⟩ := by
    decide +kernel
  exact ⟨link, r', hlink, hof, hp, ht, hd,
    hq (by decide +kernel) (fun _ h => absurd h List.not_mem_nil) _ hspec⟩

/-- A blank filter value still composes to a filter, but a next link drops blank values: the
request read back from the link no longer filters on the title. -/
theorem link_drops_blank_filter :
    Request.ofPairs [("where__title", "")] = .ok ⟨none, 20, .asc, ⟨[("where__title", "")], by decide⟩⟩ ∧
      compose ⟨none, 20, .asc, ⟨[("where__title", "")], by decide⟩⟩ {} =
        .ok ⟨⟨[("title", ⟨"title", .eq, [""]⟩)], by decide⟩, ⟨[⟨"createdAt", .asc⟩]⟩, 20, none⟩ ∧
      ({} : LinkConfig).nextLink ⟨none, 20, .asc, ⟨[("where__title", "")], by decide⟩⟩ "posts" .asc
          (some "1") = .ok (some "http://localhost:8087/posts?where__id__more_than=1") ∧
      Request.ofLink "http://localhost:8087/posts?where__id__more_than=1" =
        .ok ⟨none, 20, .asc, ⟨[("where__id__more_than", "1")], by decide⟩⟩ ∧
      compose ⟨none, 20, .asc, ⟨[("where__id__more_than", "1")], by decide⟩⟩ {} =
        .ok ⟨⟨[("id", ⟨"id", .gt, ["1"]⟩)], by decide⟩, ⟨[⟨"createdAt", .asc⟩]⟩, 20, none⟩ := by
  refine ⟨rfl, ?_, ?_, ?_, ?_⟩ <;> decide +kernel

theorem lastId_take {α : Type} [Store.Row α] {rows : List α} {take : Nat} (hk : 0 < take)
    (h : take ≤ rows.length) :
    lastId (rows.take take) take = some (Store.Row.id (rows.get ⟨take - 1, by omega⟩)) := by
  have hlen : (rows.take take).length = take := List.length_take_of_le h
  simp only [lastId, hk, decide_true, hlen, Bool.and_self, if_true, List.getLast?_take,
    Nat.pos_iff_ne_zero.mp hk, if_false, List.getElem?_eq_getElem (show take - 1 < rows.length by omega),
    Option.some_or, Option.map_some, List.get_eq_getElem]

theorem lastId_of_lt {α : Type} [Store.Row α] {data : List α} {take : Nat}
    (h : data.length < take) : lastId data take = none := by
  simp [lastId, Nat.ne_of_lt h]

end Cursor

section Boundary

theorem keep_followed {R S : List Post} {spec : Spec} (d : SortDir) {x : Int}
    (hne : ∀ e ∈ spec.filters.entries, e.1 ≠ "id")
    (hS : Store.keep spec.filters.values R = .ok S) (h₁ : Text.Decimal.i64Min ≤ x)
    (h₂ : x ≤ Text.Decimal.i64Max) :
    Store.keep (spec.filters.insert "id" (d.boundary (toString x))).values R =
      .ok (S.filter fun p => decide (d.Precedes x p.id)) := by
  obtain ⟨l₁, l₂, hsplit, hins⟩ := insertEntry_split (d.boundary (toString x)) hne
  have hvals : (spec.filters.insert "id" (d.boundary (toString x))).values =
      l₁.map (·.2) ++ d.boundary (toString x) :: l₂.map (·.2) := by
    rw [TextMap.values, entries_insert, hins, List.map_append, List.map_cons]
  have hvals₀ : spec.filters.values = l₁.map (·.2) ++ l₂.map (·.2) := by
    simp [TextMap.values, hsplit]
  rw [hvals]
  rw [hvals₀] at hS
  exact Store.keep_insert _ _ (fun p _ => Store.satisfies_boundary d p h₁ h₂) hS

theorem filter_precedes_eq_drop {d : SortDir} :
    ∀ {L : List Post}, L.Pairwise (fun a b => d.Precedes a.id b.id) → ∀ (i : Nat) (hi : i < L.length),
      L.filter (fun p => decide (d.Precedes L[i].id p.id)) = L.drop (i + 1)
  | [], _, i, hi => absurd hi (Nat.not_lt_zero i)
  | a :: L, hL, 0, _ => by
    rw [List.pairwise_cons] at hL
    rw [List.filter_cons_of_neg (by simpa using SortDir.precedes_irrefl d a.id),
      List.filter_eq_self.mpr fun b hb => by simpa using hL.1 b hb]
    rfl
  | a :: L, hL, i + 1, hi => by
    rw [List.pairwise_cons] at hL
    have hi' : i < L.length := by simp only [List.length_cons] at hi; omega
    have hb : L[i] ∈ L := List.getElem_mem hi'
    rw [List.getElem_cons_succ, List.filter_cons_of_neg
      (by simpa using SortDir.precedes_asymm (hL.1 _ hb)), filter_precedes_eq_drop hL.2 i hi']
    rfl

end Boundary

section Walk

/-- The walk's request after the first `j` rows of `L`: the first request, then the request
past the id of the last row shown. -/
def Request.after (r : Request) (L : List Post) : Nat → Request
  | 0 => r
  | j + 1 => match L[j]? with
    | some p => r.followed (toString p.id)
    | none => r

theorem Request.after_succ (r : Request) {L : List Post} {j : Nat} (h : j < L.length) :
    r.after L (j + 1) = r.followed (toString L[j].id) := by
  simp [Request.after, List.getElem?_eq_getElem h]

theorem Request.after_eq (r : Request) (L : List Post) (j : Nat) :
    r.after L j = r ∨ ∃ s, r.after L j = r.followed s := by
  cases j with
  | zero => exact .inl rfl
  | succ j =>
    cases h : L[j]? with
    | some p => exact .inr ⟨toString p.id, by simp only [Request.after, h]⟩
    | none => exact .inl (by simp [Request.after, h])

theorem Request.after_page {r : Request} (hc : r.page = none) (L : List Post) (j : Nat) :
    (r.after L j).page = none := by
  rcases r.after_eq L j with h | ⟨s, h⟩ <;> rw [h]
  · exact hc
  · rfl

theorem Request.after_take (r : Request) (L : List Post) (j : Nat) :
    (r.after L j).take = r.take := by
  rcases r.after_eq L j with h | ⟨s, h⟩ <;> rw [h]; rfl

theorem Request.after_createdAtDir (r : Request) (L : List Post) (j : Nat) :
    (r.after L j).createdAtDir = r.createdAtDir := by
  rcases r.after_eq L j with h | ⟨s, h⟩ <;> rw [h]; rfl

theorem nextLink_after (links : LinkConfig) (r : Request) (L : List Post) (j : Nat)
    (path : String) (d : SortDir) (x : Option String) :
    links.nextLink (r.after L j) path d x = links.nextLink r path d x := by
  rcases r.after_eq L j with h | ⟨s, h⟩ <;> rw [h]
  exact nextLink_followed links r s path d x

/-- What every step of the walk reads: the first request, its query and the posts it keeps,
and `L`, those posts in the id order of the request's direction. -/
structure Walkable (R S L : List Post) (r : Request) (o : Override) (spec : Spec) : Prop where
  recorded : r.Recorded
  cursor : r.page = none
  filtersNoId : r.FiltersNoId
  pinsNoId : ∀ e ∈ o.filters.entries, e.1 ≠ "id"
  orderFree : ∀ k ∈ o.order.keys, k.field ≠ createdAtField
  composed : compose r o = .ok spec
  kept : Store.keep spec.filters.values R = .ok S
  ids : R.Pairwise fun a b => a.id ≠ b.id
  range : ∀ p ∈ R, Text.Decimal.i64Min ≤ p.id ∧ p.id ≤ Text.Decimal.i64Max
  time : ∀ a ∈ R, ∀ b ∈ R, a.id < b.id → a.createdAt.compare b.createdAt = .lt
  perm : L.Perm S
  sorted : L.Pairwise fun a b => r.createdAtDir.Precedes a.id b.id
  lookups : ∀ row ∈ S, ∀ k ∈ (spec.order.ensureTiebreaker Store.tiebreakerField
    spec.order.primaryDir).keys, ∃ v, Store.lookup row k.field = .ok v

variable {R S L : List Post} {r : Request} {o : Override} {spec : Spec}

theorem Walkable.sublist (hw : Walkable R S L r o spec) : S.Sublist R :=
  Store.keep_sublist hw.kept

theorem Walkable.select_after (hw : Walkable R S L r o spec) {j : Nat} (hj : j ≤ L.length) :
    ∃ sq, compose (r.after L j) o = .ok sq ∧
      Store.select R sq = .ok ((L.drop j).take r.take, (L.drop j).length) := by
  obtain ⟨ks, hks⟩ : ∃ ks, spec.order.keys = ⟨createdAtField, r.createdAtDir⟩ :: ks := by
    have hhead := compose_order_head hw.recorded hw.orderFree hw.composed
    cases h : spec.order.keys with
    | nil => rw [h] at hhead; cases hhead
    | cons k ks => rw [h] at hhead; cases hhead; exact ⟨ks, rfl⟩
  have hdir : spec.order.primaryDir = r.createdAtDir := by simp [OrderBy.primaryDir, hks]
  obtain ⟨hlimit, hoffset⟩ := compose_limit_offset hw.composed
  have hoff : spec.offset = none := by rw [hoffset, Request.offset, hw.cursor]; rfl
  -- a query with the first request's order, page size and offset keeps rows in id order
  have hsel : ∀ {sq : Spec} {T : List Post}, sq.order = spec.order → sq.limit = spec.limit →
      sq.offset = spec.offset → Store.keep sq.filters.values R = .ok T → T.Sublist S →
      (L.drop j).Perm T → Store.select R sq = .ok ((L.drop j).take r.take, (L.drop j).length) := by
    intro sq T horder hlim hoff' hkeep hsub hperm
    have hTR : T.Sublist R := hsub.trans hw.sublist
    have h := Store.select_of_sorted hkeep (horder ▸ hks)
      (fun row hrow k hk => hw.lookups row (hsub.subset hrow) k (by rwa [horder, ← hdir] at hk))
      (hw.ids.sublist hTR) (fun a ha b hb => hw.time a (hTR.subset ha) b (hTR.subset hb)) hperm
      (hw.sorted.sublist (List.drop_sublist j L))
    rw [hoff', hoff, hlim, hlimit, Option.getD_none, List.drop_zero, ← hperm.length_eq] at h
    exact h
  cases j with
  | zero => exact ⟨spec, hw.composed, hsel rfl rfl rfl hw.kept (List.Sublist.refl S) hw.perm⟩
  | succ i =>
    have hi : i < L.length := by omega
    have hp : L[i] ∈ R := hw.sublist.subset (hw.perm.subset (List.getElem_mem hi))
    obtain ⟨h₁, h₂⟩ := hw.range _ hp
    have hcomp := compose_followed hw.cursor hw.filtersNoId hw.pinsNoId hw.composed
      (toString L[i].id)
    rw [← Request.after_succ r hi] at hcomp
    refine ⟨_, hcomp, ?_⟩
    -- past the boundary the store keeps the matching posts after row `i`: the rest of `L`
    refine hsel rfl rfl rfl (keep_followed _ (compose_filters_ne_id hw.filtersNoId hw.pinsNoId
      hw.composed) hw.kept h₁ h₂) List.filter_sublist ?_
    rw [← filter_precedes_eq_drop hw.sorted i hi]
    exact hw.perm.filter _

/-- With enough fuel, the walk from the request after `j` rows of `L` shows the rest of `L` in
pages: the induction carries the request after the rows shown so far. -/
theorem Walkable.walk_after {links : LinkConfig} {path : String} (hw : Walkable R S L r o spec)
    (hbase : r.take ≤ L.length → ∃ base, links.baseUrl path = .ok base ∧ base.query = none) :
    ∀ (n j : Nat), j ≤ L.length → (L.length - j) / r.take < n →
      walk links (.memory R) o path n (r.after L j) = some (.ok (pagesOf r.take (L.drop j))) := by
  have hk := hw.recorded.take_pos
  intro n
  induction n with
  | zero => intro j _ h; exact absurd h (Nat.not_lt_zero _)
  | succ n ih =>
    intro j hj hn
    obtain ⟨sq, hsq, hsel⟩ := hw.select_after hj
    have hpag := @paginate_cursor _ _ links (r.after L j) (Store.Repository.memory R) o path sq
      (Request.after_page hw.cursor L j) hsq
    have hfind : (Store.Repository.memory R).find sq = .ok ((L.drop j).take r.take) := by
      simp [Store.Repository.memory, hsel, Except.map, Except.mapError]
    rw [hfind] at hpag
    dsimp only [Except.bind] at hpag
    rw [Request.after_take, Request.after_createdAtDir, nextLink_after] at hpag
    by_cases hfull : r.take ≤ (L.drop j).length
    · -- a full page: its link is the request after its last row
      have hlen : r.take ≤ L.length - j := by simpa using hfull
      have hi : j + (r.take - 1) < L.length := by omega
      obtain ⟨base, hb, hq⟩ := hbase (by omega)
      obtain ⟨link, hlink, hof⟩ :=
        ofLink_nextLink hw.recorded hw.cursor hb hq (toString L[j + (r.take - 1)].id)
      have hlast : lastId ((L.drop j).take r.take) r.take = some L[j + (r.take - 1)].id := by
        rw [lastId_take hk hfull, List.get_eq_getElem, List.getElem_drop]
        rfl
      have hnext : r.followed (toString L[j + (r.take - 1)].id) = r.after L (j + r.take) := by
        rw [← Request.after_succ r hi, show j + (r.take - 1) + 1 = j + r.take by omega]
      have hfuel : (L.length - (j + r.take)) / r.take < n := by
        have hdiv := Nat.div_eq_sub_div hk hlen
        rw [show L.length - (j + r.take) = L.length - j - r.take by omega]
        omega
      rw [hlast, Option.map_some, hlink] at hpag
      rw [walk, hpag]
      dsimp only
      rw [hof]
      dsimp only
      rw [hnext, ih (j + r.take) (by omega) hfuel, pagesOf_of_le hk hfull, List.drop_drop]
      rfl
    · -- a page that is not full ends the walk
      have hlt : (L.drop j).length < r.take := by omega
      rw [List.take_of_length_le hlt.le, lastId_of_lt hlt] at hpag
      rw [walk, hpag, pagesOf_of_lt hlt]
      rfl

/-- Following next links from an accepted cursor request over posts whose creation times follow
their ids, on a link base without a query: every call succeeds, and the pages list each post
the request matches once, in the id order of its direction, every page but the last full, in
one call per full page and one more. -/
theorem walk_lists_matches_once {R S : List Post} {ps : List (String × String)} {r : Request}
    {o : Override} {links : LinkConfig} {path : String} {spec : Spec}
    (hids : R.Pairwise fun a b => a.id ≠ b.id)
    (hrange : ∀ p ∈ R, Text.Decimal.i64Min ≤ p.id ∧ p.id ≤ Text.Decimal.i64Max)
    (htime : ∀ a ∈ R, ∀ b ∈ R, a.id < b.id → a.createdAt.compare b.createdAt = .lt)
    (hr : Request.ofPairs ps = .ok r) (hc : r.page = none) (hnoid : r.FiltersNoId)
    (hpins : ∀ e ∈ o.filters.entries, e.1 ≠ "id")
    (horder : ∀ k ∈ o.order.keys, k.field ≠ createdAtField)
    (hbase : ∀ u, links.baseUrl path = .ok u → u.query = none)
    (hfirst : (paginate links r (.memory R) o path).1.isOk)
    (hspec : compose r o = .ok spec) (hS : Store.keep spec.filters.values R = .ok S) :
    ∃ pages, (∀ n, S.length / r.take < n →
        walk links (.memory R) o path n r = some (.ok pages)) ∧
      pages.flatten.Perm S ∧ pages.flatten.Pairwise (fun a b => r.createdAtDir.Precedes a.id b.id) ∧
      pages.length = S.length / r.take + 1 ∧ ∀ p ∈ pages.dropLast, p.length = r.take := by
  have hrec := Request.recorded_ofPairs hr
  have hk := hrec.take_pos
  rw [paginate_cursor hc hspec] at hfirst
  -- the first call's query was answered, so every kept post has its sort keys
  obtain ⟨res, hsel⟩ : ∃ res, Store.select R spec = .ok res := by
    cases h : Store.select R spec with
    | error e =>
      simp [Store.Repository.memory, h, Except.map, Except.mapError, Except.bind, Except.isOk,
        Except.toBool] at hfirst
    | ok res => exact ⟨res, rfl⟩
  have hwalk : Walkable R S (S.mergeSort (Store.idLe r.createdAtDir)) r o spec :=
    { recorded := hrec, cursor := hc, filtersNoId := hnoid, pinsNoId := hpins,
      orderFree := horder, composed := hspec, kept := hS, ids := hids, range := hrange,
      time := htime, perm := List.mergeSort_perm _ _,
      sorted := Store.pairwise_mergeSort_idLe _ (hids.sublist (Store.keep_sublist hS)),
      lookups := Store.lookup_of_select hsel hS }
  have hlen : (S.mergeSort (Store.idLe r.createdAtDir)).length = S.length :=
    (List.mergeSort_perm _ _).length_eq
  -- a full first page was linked, so the base parsed
  have hbase' : r.take ≤ (S.mergeSort (Store.idLe r.createdAtDir)).length →
      ∃ base, links.baseUrl path = .ok base ∧ base.query = none := by
    intro hle
    obtain ⟨sq, hsq, hsel₀⟩ := hwalk.select_after (Nat.zero_le _)
    rw [show r.after _ 0 = r from rfl, hspec] at hsq
    cases hsq
    rw [List.drop_zero] at hsel₀
    simp only [Store.Repository.memory, hsel₀, Except.map, Except.mapError, Except.bind,
      lastId_take hk hle, Option.map_some] at hfirst
    split at hfirst
    · simp [Except.isOk, Except.toBool] at hfirst
    · next next hl =>
      obtain ⟨base, hb⟩ := baseUrl_of_nextLink hl
      exact ⟨base, hb, hbase base hb⟩
  refine ⟨pagesOf r.take (S.mergeSort (Store.idLe r.createdAtDir)), fun n hn => ?_, ?_, ?_, ?_,
    length_of_mem_dropLast_pagesOf _ _⟩
  · have h := hwalk.walk_after hbase' n 0 (Nat.zero_le _) (by rwa [Nat.sub_zero, hlen])
    rwa [List.drop_zero] at h
  · rw [flatten_pagesOf]
    exact List.mergeSort_perm _ _
  · rw [flatten_pagesOf]
    exact hwalk.sorted
  · rw [length_pagesOf hk, hlen]

/-- Three posts a minute apart, and a request for those titled `b`, a post a page. -/
theorem walk_lists_titled_posts :
    ∃ pages : List (List Post), (∀ n, [(⟨2, "b", "", 0, 0, 0, ⟨120, 0⟩⟩ : Post)].length / 1 < n →
        walk {} (.memory ([⟨1, "a", "", 0, 0, 0, ⟨60, 0⟩⟩, ⟨2, "b", "", 0, 0, 0, ⟨120, 0⟩⟩,
          ⟨3, "c", "", 0, 0, 0, ⟨180, 0⟩⟩] : List Post)) {} "posts" n
          ⟨none, 1, .asc, ⟨[("take", "1"), ("where__title", "b")], by decide⟩⟩ = some (.ok pages)) ∧
      pages.flatten.Perm [(⟨2, "b", "", 0, 0, 0, ⟨120, 0⟩⟩ : Post)] ∧
      pages.flatten.Pairwise (fun a b => SortDir.asc.Precedes a.id b.id) ∧
      pages.length = [(⟨2, "b", "", 0, 0, 0, ⟨120, 0⟩⟩ : Post)].length / 1 + 1 ∧
      ∀ p ∈ pages.dropLast, p.length = 1 :=
  @walk_lists_matches_once
    [⟨1, "a", "", 0, 0, 0, ⟨60, 0⟩⟩, ⟨2, "b", "", 0, 0, 0, ⟨120, 0⟩⟩, ⟨3, "c", "", 0, 0, 0, ⟨180, 0⟩⟩]
    [⟨2, "b", "", 0, 0, 0, ⟨120, 0⟩⟩] [("where__title", "b"), ("take", "1")]
    ⟨none, 1, .asc, ⟨[("take", "1"), ("where__title", "b")], by decide⟩⟩ {} {} "posts"
    ⟨⟨[("title", ⟨"title", .eq, ["b"]⟩)], by decide⟩, ⟨[⟨"createdAt", .asc⟩]⟩, 1, none⟩
    (by decide) (by decide) (by decide) rfl rfl
    (by decide +kernel)
    (fun _ h => absurd h List.not_mem_nil) (fun _ h => absurd h List.not_mem_nil)
    (fun u hu => by
      have h : (LinkConfig.baseUrl {} "posts").toOption.map (·.query) = some none := by
        decide +kernel
      rw [hu] at h
      simpa [Except.toOption] using h)
    (by decide +kernel) (by decide +kernel) (by decide +kernel)

end Walk

end Folio
