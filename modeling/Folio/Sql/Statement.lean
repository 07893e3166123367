import Folio.Sql.Condition
import Folio.Order

namespace Folio.Sql

def quoteName (s : String) : String := "\"" ++ s.replace "\"" "\"\"" ++ "\""

def quoteText (s : String) : String := "'" ++ s.replace "'" "''" ++ "'"

/-- An instant as an inline literal: date, time with six fraction digits, and the UTC offset. -/
def instantLiteral (t : Time.Instant) : String :=
  t.dateTimeText " " ++ "." ++ Time.padded 6 (t.nanos % 1000000000 / 1000) ++ " +00:00"

def literal : Field.Value → String
  | .null => "NULL"
  | .bool b => if b then "TRUE" else "FALSE"
  | .int i => toString i
  | .text s => quoteText s
  | .time t => quoteText (instantLiteral t)

def Atom.text : Atom → String
  | .compare c op v => quoteName c ++ " " ++ op.symbol ++ " " ++ literal v
  | .between c lo hi => quoteName c ++ " BETWEEN " ++ literal lo ++ " AND " ++ literal hi
  | .oneOf c vs => quoteName c ++ " IN (" ++ ", ".intercalate (vs.map literal) ++ ")"
  | .lowerLike c p => "LOWER(" ++ quoteName c ++ ") LIKE " ++ quoteText p
  | .never => "1=0"

def Atom.grouped : Atom → Bool
  | .between .. | .never => true
  | _ => false

def Condition.text (c : Condition) : String :=
  match c.atoms with
  | [] => "TRUE"
  | [a] => a.text
  | as => " AND ".intercalate (as.map fun a => if a.grouped then "(" ++ a.text ++ ")" else a.text)

/-- A select statement: all named columns of a table, a condition, sort keys by column, and an
optional limit and offset. -/
structure Select where
  table : String
  columns : List String
  condition : Condition := {}
  order : List (String × SortDir) := []
  limit : Option Nat := none
  offset : Option Nat := none
  deriving DecidableEq, Repr

def Select.text (s : Select) : String :=
  let qualified := fun c => quoteName s.table ++ "." ++ quoteName c
  let orderText := if s.order.isEmpty then ""
    else " ORDER BY " ++ ", ".intercalate (s.order.map fun (c, d) => qualified c ++ " " ++ d.text)
  let limitText := match s.limit with
    | some n => " LIMIT " ++ toString n
    | none => ""
  let offsetText := match s.offset with
    | some n => " OFFSET " ++ toString n
    | none => ""
  "SELECT " ++ ", ".intercalate (s.columns.map qualified) ++ " FROM " ++ quoteName s.table ++
    " WHERE " ++ s.condition.text ++ orderText ++ limitText ++ offsetText

end Folio.Sql
