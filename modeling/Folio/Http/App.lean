import Folio.Http.Target
import Folio.Paginate
import Folio.Store.Record
import Folio.Url.Basic

namespace Folio.Http

structure Response where
  status : Nat
  contentType : Option String
  body : Option JsonValue

def Response.json (status : Nat) (body : JsonValue) : Response :=
  ⟨status, some "application/json", some body⟩

def Response.problem (p : Problem) : Response :=
  ⟨p.status, some "application/problem+json", some p.toJson⟩

def Response.notFound : Response := ⟨404, none, none⟩

/-- The list request of a target's query string, or the problem of a bad one, located at the
target's path. -/
def extractRequest (t : Target) : Except Problem Request :=
  match Request.ofPairs (Url.Form.parse (t.query.getD "")) with
  | .ok r => .ok r
  | .error e => .error (e.problem t.path).1

def postsPath : String := "posts"

structure App where
  links : LinkConfig
  posts : Store.Repository Post

def App.get (app : App) (t : Target) : Response :=
  if t.path = "/health" then .json 200 (.obj [("status", .str "ok")])
  else if t.path = "/" ++ postsPath then
    match extractRequest t with
    | .error p => .problem p
    | .ok r =>
      match (paginate app.links r app.posts {} postsPath).1 with
      | .ok page => .json 200 (page.toJson Post.toJson)
      | .error f => .problem (f.problem ("/" ++ postsPath)).1
  else .notFound

end Folio.Http
