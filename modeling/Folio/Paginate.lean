import Folio.Problem
import Folio.Envelope
import Folio.Link

namespace Folio

def paginateTarget : String := "listkit::paginate"

/-- The id after which the next page starts: the last row's, when the page is full. -/
def lastId {α : Type} [Store.Row α] (data : List α) (take : Nat) : Option Int :=
  if take > 0 && data.length = take then data.getLast?.map Store.Row.id else none

/-- Serves a list request from a store, with the log events of the call. -/
def paginate {α : Type} [Store.Row α] (links : LinkConfig) (r : Request) (repo : Store.Repository α)
    (o : Override) (path : String) : Except Store.Failure (Page α) × List Log.Event :=
  let span : Log.Span := ⟨"listkit.paginate", [("path", .text path), ("take", .num r.take)]⟩
  let event := fun (s : Log.Span) (msg : String) (fs : List (String × Log.Value)) =>
    ({ level := .debug, target := paginateTarget, message := msg, fields := fs, spans := [s] } :
      Log.Event)
  match compose r o with
  | .error e => (.error (.rejected e), [])
  | .ok spec =>
    let composed := event span "composed list query"
      [("filters", .num spec.filters.size), ("order", .text spec.order.signedTokens),
        ("offset", .text (Log.optionText spec.offset))]
    if r.page.isSome then
      let span := span.record "mode" (.text "offset")
      match repo.findAndCount spec with
      | .error f => (.error f, [composed])
      | .ok (data, total) =>
        (.ok (.offset data total),
          [composed, event span "offset page loaded"
            [("rows", .num data.length), ("total", .num total)]])
    else
      let span := span.record "mode" (.text "cursor")
      match repo.find spec with
      | .error f => (.error f, [composed])
      | .ok data =>
        let after := lastId data r.take
        match links.nextLink r path r.createdAtDir (after.map toString) with
        | .error e => (.error (.rejected e), [composed])
        | .ok next =>
          (.ok (.cursor data after data.length next),
            [composed, event span "cursor page loaded"
              [("rows", .num data.length), ("has_next", .flag next.isSome)]])

end Folio
