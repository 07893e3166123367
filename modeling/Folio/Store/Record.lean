import Folio.Field.Value
import Folio.Query
import Folio.Json

namespace Folio.Store

/-- A row of a listed resource. -/
class Row (α : Type) where
  id : α → Int
  createdAt : α → Time.Instant
  field? : α → String → Option Field.Value

def lookup {α : Type} [Row α] (row : α) (name : String) : Except Error Field.Value :=
  if Text.eqIgnoreAsciiCase name createdAtField then .ok (.time (Row.createdAt row))
  else match Row.field? row name with
    | some v => .ok v
    | none => .error (.unknownField name)

structure Record where
  id : Int
  createdAt : Time.Instant
  fields : List (String × Field.Value)
  deriving DecidableEq, Repr

instance : Row Record where
  id := Record.id
  createdAt := Record.createdAt
  field? r name := r.fields.lookup name

end Folio.Store

namespace Folio

structure Post where
  id : Int
  title : String
  content : String
  authorId : Int
  likeCount : Int
  commentCount : Int
  createdAt : Time.Instant
  deriving DecidableEq, Repr

/-- A field of a post by name, in any ASCII case. -/
def Post.field? (p : Post) (name : String) : Option Field.Value :=
  match Text.asciiLower name with
  | "id" => some (.int p.id)
  | "title" => some (.text p.title)
  | "content" => some (.text p.content)
  | "authorid" => some (.int p.authorId)
  | "likecount" => some (.int p.likeCount)
  | "commentcount" => some (.int p.commentCount)
  | _ => none

def Post.toJson (p : Post) : JsonValue :=
  .obj [("id", .int p.id), ("title", .str p.title), ("content", .str p.content),
    ("authorId", .int p.authorId), ("likeCount", .int p.likeCount),
    ("commentCount", .int p.commentCount), ("createdAt", .str p.createdAt.rfc3339)]

instance : Store.Row Post where
  id := Post.id
  createdAt := Post.createdAt
  field? := Post.field?

/-- The start of the demo data: 2024-01-01T00:00:00Z. -/
def seedEpoch : Time.Instant := Time.Instant.ofCivil 2024 1 1 0 0 0 0

def Post.generated (id : Nat) : Post :=
  ⟨id, "Generated post " ++ toString id, "Generated content " ++ toString id, 1, 0, 0,
    seedEpoch.addSeconds (60 * id)⟩

/-- The demo data set: posts `1` to `n`, one minute apart; none when `n` is not positive. -/
def Post.seed (n : Int) : List Post := (List.range n.toNat).map fun i => Post.generated (i + 1)

theorem Post.seed_length (n : Int) : (Post.seed n).length = n.toNat := by simp [Post.seed]

end Folio
