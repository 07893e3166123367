import Folio.Store.Record
import Folio.Store.Database

namespace Folio

def postColumns : List String :=
  ["id", "title", "content", "author_id", "like_count", "comment_count", "created_at"]

def Post.column (p : Post) : String → Field.Value
  | "id" => .int p.id
  | "title" => .text p.title
  | "content" => .text p.content
  | "author_id" => .int p.authorId
  | "like_count" => .int p.likeCount
  | "comment_count" => .int p.commentCount
  | "created_at" => Sql.stored (.time p.createdAt)
  | _ => .null

def postTable : Sql.Table Post := ⟨"posts", postColumns, Post.column⟩

/-- The field names of posts and their columns. -/
def postFields : Sql.FieldMap :=
  ({} : Sql.FieldMap)
    |>.insert "id" ⟨"id", .integer⟩
    |>.insert "title" ⟨"title", .text⟩
    |>.insert "content" ⟨"content", .text⟩
    |>.insert "authorId" ⟨"author_id", .integer⟩
    |>.insert "likeCount" ⟨"like_count", .integer⟩
    |>.insert "commentCount" ⟨"comment_count", .integer⟩
    |>.insert "createdAt" ⟨"created_at", .datetime⟩

def postDatabase (rows : Option (List Post)) : Store.Database Post := ⟨postTable, postFields, rows⟩

/-- The SQL of a spec's filters and order over the posts, without tiebreaker, limit or
offset. -/
def postQueryText (spec : Spec) : Except Error String := do
  let c ← Sql.compileAll postFields spec.filters.values
  let order ← spec.order.keys.mapM fun (k : OrderKey) => do
    let col ← postFields.resolve k.field
    pure (col.name, k.dir)
  pure { postTable.select c with order := order }.text

def predicateQueryText (m : Sql.FieldMap) (p : Filter.Predicate) : Except Error String := do
  let a ← Sql.compile m p
  pure (postTable.select ⟨[a]⟩).text

end Folio
