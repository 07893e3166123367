import Folio.Request
import Folio.Url.Basic
import Folio.Url.Parse

namespace Folio

/-- Where links point: the scheme and the host, which may carry a port. -/
structure LinkConfig where
  protocol : String := "http"
  host : String := "localhost:8087"
  deriving DecidableEq, Repr

def afterKey : String := "where__id__more_than"

def beforeKey : String := "where__id__less_than"

def LinkConfig.baseText (l : LinkConfig) (path : String) : String :=
  l.protocol ++ "://" ++ l.host ++ "/" ++ String.ofList (path.toList.dropWhile (· = '/'))

def LinkConfig.baseUrl (l : LinkConfig) (path : String) : Except Error Url :=
  let raw := l.baseText path
  match Url.parse raw with
  | .ok u => .ok u
  | .error e => .error (.linkBase (raw ++ ": " ++ e.message))

def SortDir.boundaryKey : SortDir → String
  | .asc => afterKey
  | .desc => beforeKey

def linkParams (r : Request) : List (String × String) :=
  r.params.entries.filter fun (k, v) => !v.isEmpty && k != afterKey && k != beforeKey

/-- The link to the page after `lastId`, if there is a last id. -/
def LinkConfig.nextLink (l : LinkConfig) (r : Request) (path : String) (dir : SortDir)
    (lastId : Option String) : Except Error (Option String) :=
  match lastId with
  | none => .ok none
  | some id => do
    let base ← l.baseUrl path
    pure (some (Url.Form.appendPairs base (linkParams r ++ [(dir.boundaryKey, id)])).serialize)

end Folio
