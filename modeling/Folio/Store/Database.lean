import Folio.Store.Repository
import Folio.Sql.Table

namespace Folio.Store

/-- A database table holding rows, or none when the table is missing. -/
structure Database (α : Type) where
  table : Sql.Table α
  fields : Sql.FieldMap
  rows : Option (List α)

variable {α : Type}

def missingTableCauses (name : String) : List String :=
  let base := "(code: 1) no such table: " ++ name
  let returned := "error returned from database: " ++ base
  ["Query Error: " ++ returned, returned, returned, base]

def Database.scan (db : Database α) (context : String) : Except Failure (List α) :=
  match db.rows with
  | some rs => .ok rs
  | none => .error (.fault ⟨context, missingTableCauses db.table.name⟩)

def Database.filtered (db : Database α) (spec : Spec) : Except Failure Sql.Condition :=
  (Sql.compileAll db.fields spec.filters.values).mapError .rejected

def Database.ordered (db : Database α) (spec : Spec) : Except Failure (List (String × SortDir)) :=
  let order := spec.order.ensureTiebreaker tiebreakerField spec.order.primaryDir
  (order.keys.mapM fun (k : OrderKey) => do
    let c ← db.fields.resolve k.field
    pure (c.name, k.dir)).mapError .rejected

def Database.statement (db : Database α) (c : Sql.Condition) (order : List (String × SortDir))
    (spec : Spec) : Sql.Select :=
  { db.table.select c with order := order, limit := some spec.limit, offset := spec.offset }

def Database.find (db : Database α) (spec : Spec) : Except Failure (List α) := do
  let c ← db.filtered spec
  let order ← db.ordered spec
  let rows ← db.scan "list query failed"
  pure (db.table.run rows (db.statement c order spec))

def Database.findAndCount (db : Database α) (spec : Spec) : Except Failure (List α × Nat) := do
  let c ← db.filtered spec
  let total := db.table.count (← db.scan "list count failed") c
  let order ← db.ordered spec
  let rows ← db.scan "list query failed"
  pure (db.table.run rows (db.statement c order spec), total)

def Database.repository (db : Database α) : Repository α := ⟨db.find, db.findAndCount⟩

end Folio.Store
