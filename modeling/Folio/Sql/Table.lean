import Folio.Sql.Statement
import Folio.Text.Like

namespace Folio.Sql

def storedInstant (t : Time.Instant) : String :=
  t.dateTimeText "T" ++ Time.fractionText (t.nanos % 1000000000) ++ "+00:00"

def stored : Field.Value → Field.Value
  | .time t => .text (storedInstant t)
  | .bool b => .int (if b then 1 else 0)
  | v => v

/-- Whether an atom holds of a row, given the row's stored column values. -/
def Atom.holds (column : String → Field.Value) : Atom → Bool
  | .compare c op v => op.holds ((column c).compare (stored v))
  | .between c lo hi =>
    (column c).compare (stored lo) != .lt && (column c).compare (stored hi) != .gt
  | .oneOf c vs => vs.any fun v => (column c).compare (stored v) == .eq
  | .lowerLike c p =>
    match column c with
    | .text s => Text.likeText p.toList (Text.asciiLower s).toList
    | _ => false
  | .never => false

/-- A table: its name, its columns, and the stored value of a column of a row. -/
structure Table (α : Type) where
  name : String
  columns : List String
  column : α → String → Field.Value

variable {α : Type}

def Table.select (t : Table α) (c : Condition) : Select := ⟨t.name, t.columns, c, [], none, none⟩

def Table.satisfies (t : Table α) (c : Condition) (row : α) : Bool := c.atoms.all (·.holds
    (t.column row))

def Table.compareBy (t : Table α) : List (String × SortDir) → α → α → Ordering
  | [], _, _ => .eq
  | (c, d) :: ks, a, b =>
    let o := (t.column a c).compare (t.column b c)
    let o := match d with
      | .asc => o
      | .desc => o.swap
    if o = .eq then t.compareBy ks a b else o

/-- The rows a statement selects, in its order, after its offset and within its limit. -/
def Table.run (t : Table α) (rows : List α) (s : Select) : List α :=
  let kept := rows.filter (t.satisfies s.condition)
  let sorted := kept.mergeSort fun a b => t.compareBy s.order a b != .gt
  let skipped := sorted.drop (s.offset.getD 0)
  match s.limit with
  | some n => skipped.take n
  | none => skipped

def Table.count (t : Table α) (rows : List α) (c : Condition) : Nat :=
  (rows.filter (t.satisfies c)).length

end Folio.Sql
