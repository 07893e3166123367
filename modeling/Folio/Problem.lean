import Folio.Store.Repository
import Folio.Log.Event
import Folio.Json

namespace Folio

structure Problem where
  kind : String
  title : String
  status : Nat
  detail : String
  occurrence : String
  code : String
  deriving DecidableEq, Repr

def problemTypeBase : String := "https://errors.example.com"

def Problem.client (code title detail path : String) : Problem :=
  ⟨problemTypeBase ++ "/" ++ code, title, 400, detail, path, code⟩

def Problem.server (code title detail path : String) : Problem :=
  ⟨"about:blank", title, 500, detail, path, code⟩

def Problem.isClient (p : Problem) : Bool := 400 ≤ p.status && p.status < 500

def Problem.toJson (p : Problem) : JsonValue :=
  .obj [("type", .str p.kind), ("title", .str p.title), ("status", .nat p.status),
    ("detail", .str p.detail), ("instance", .str p.occurrence), ("code", .str p.code)]

def Error.title : Error → String
  | .malformedKey _ => "Malformed Filter Key"
  | .unknownOperator _ => "Unknown Operator"
  | .valueShape .. => "Invalid Filter Value"
  | .orderDirection _ => "Invalid Order Direction"
  | .invalidTake _ => "Invalid Take"
  | .invalidPage _ => "Invalid Page"
  | .unknownField _ => "Unknown Field"
  | .typeMismatch .. => "Type Mismatch"
  | .linkBase _ => "Internal Server Error"

def errorTarget : String := "listkit::api::error"

def Error.problem (e : Error) (path : String) : Problem × List Log.Event :=
  if e.isClient then (Problem.client e.code e.title e.message path, [])
  else
    (Problem.server e.code e.title "An internal error occurred" path,
      [{ level := .error, target := errorTarget, message := "list link configuration is invalid",
         fields := [("error", .text e.message)] }])

def Store.Failure.problem (f : Store.Failure) (path : String) : Problem × List Log.Event :=
  match f with
  | .rejected e => e.problem path
  | .fault x =>
    (Problem.server "INTERNAL_DB" "Internal Database Error" "An internal database error occurred"
      path,
      [{ level := .error, target := errorTarget, message := "list repository call failed",
         fields := [("error", .text x.report)] }])

def Store.Failure.code : Store.Failure → String
  | .rejected e => e.code
  | .fault _ => "REPOSITORY"

def Store.Failure.message : Store.Failure → String
  | .rejected e => e.message
  | .fault x => x.context

end Folio
