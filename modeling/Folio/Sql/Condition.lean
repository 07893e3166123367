import Folio.Field.Value
import Folio.Text.Lower
import Folio.Filter.Predicate

namespace Folio.Sql

structure Column where
  name : String
  kind : Field.Kind
  deriving DecidableEq, Repr

/-- Field names of a resource and their columns, keyed by lower-cased name. -/
structure FieldMap where
  entries : List (String × Column) := []
  deriving DecidableEq, Repr

/-- Adds a field name for a column; a later name with the same lower case replaces an earlier. -/
def FieldMap.insert (m : FieldMap) (name : String) (c : Column) : FieldMap :=
  let k := Text.lowercase name
  ⟨(m.entries.filter fun e => e.1 != k) ++ [(k, c)]⟩

def FieldMap.get? (m : FieldMap) (name : String) : Option Column :=
  m.entries.lookup (Text.lowercase name)

def FieldMap.resolve (m : FieldMap) (name : String) : Except Error Column :=
  match m.get? name with
  | some c => .ok c
  | none => .error (.unknownField name)

theorem FieldMap.resolve_empty (name : String) :
    ({} : FieldMap).resolve name = .error (.unknownField name) := rfl

open Folio.Filter

inductive Compare where
  | eq
  | ne
  | gt
  | ge
  | lt
  | le
  deriving DecidableEq, Repr

def Compare.symbol : Compare → String
  | .eq => "="
  | .ne => "<>"
  | .gt => ">"
  | .ge => ">="
  | .lt => "<"
  | .le => "<="

def Compare.holds : Compare → Ordering → Bool
  | .eq, o => o == .eq
  | .ne, o => o != .eq
  | .gt, o => o == .gt
  | .ge, o => o != .lt
  | .lt, o => o == .lt
  | .le, o => o != .gt

inductive Atom where
  | compare (column : String) (op : Compare) (v : Field.Value)
  | between (column : String) (lo hi : Field.Value)
  | oneOf (column : String) (vs : List Field.Value)
  | lowerLike (column : String) (pattern : String)
  | never
  deriving DecidableEq, Repr

/-- A conjunction of atoms; the empty one always holds. -/
structure Condition where
  atoms : List Atom := []
  deriving DecidableEq, Repr

def Operator.comparison? : Operator → Option Compare
  | .eq => some .eq
  | .ne => some .ne
  | .gt => some .gt
  | .ge => some .ge
  | .lt => some .lt
  | .le => some .le
  | _ => none

def compile (m : FieldMap) (p : Predicate) : Except Error Atom := do
  let c ← m.resolve p.field
  if p.operator = .like then
    let pattern := p.first?.getD ""
    if c.kind ≠ .text then throw (.typeMismatch p.field pattern .text)
    return .lowerLike c.name (Text.lowercase pattern)
  let vs ← p.values.mapM (c.kind.coerce p.field)
  let shape : Except Error Atom := .error (.valueShape p.operator p.operator.arity vs.length)
  match Operator.comparison? p.operator, p.operator, vs with
  | some cmp, _, [v] => return .compare c.name cmp v
  | _, .between, [lo, hi] => return .between c.name lo hi
  | _, .oneOf, [] => return .never
  | _, .oneOf, _ => return .oneOf c.name vs
  | _, _, _ => shape

def compileAll (m : FieldMap) (ps : List Predicate) : Except Error Condition := do
  pure ⟨← ps.mapM (compile m)⟩

end Folio.Sql
