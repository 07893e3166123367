import Folio.Store.Record
import Folio.Text.Like
import Folio.Text.Lower

namespace Folio.Store

open Folio.Filter

def tiebreakerField : String := "id"

/-- Whether a comparison of a value with the first and second literal satisfies an operator. -/
def verdict (op : Operator) (cmp : Nat → Option Ordering) (anyEq : Bool) : Bool :=
  match op with
  | .eq => cmp 0 == some .eq
  | .ne => (cmp 0).any (· != .eq)
  | .gt => cmp 0 == some .gt
  | .ge => (cmp 0).any (· != .lt)
  | .lt => cmp 0 == some .lt
  | .le => (cmp 0).any (· != .gt)
  | .between => (cmp 0).any (· != .lt) && (cmp 1).any (· != .gt)
  | .oneOf => anyEq
  | .like => false

def satisfies {α : Type} [Row α] (row : α) (p : Predicate) : Except Error Bool := do
  let actual ← lookup row p.field
  if p.operator = .like then
    let pattern := p.first?.getD ""
    match actual with
    | .null => return false
    | .text t => return Text.likeMatch (Text.lowercase pattern).toList (Text.lowercase t).toList
    | v => throw (.typeMismatch p.field pattern v.kind)
  let literals ← p.values.mapM (actual.kind.coerce p.field)
  if actual = .null then return false
  let cmp := fun i => literals[i]?.map actual.compare
  return verdict p.operator cmp (literals.any (· = actual))

/-- Whether every predicate holds of a row, trying them in order and stopping at the first
that fails. -/
def passes {α : Type} [Row α] (row : α) : List Predicate → Except Error Bool
  | [] => .ok true
  | p :: ps => do
    if ← satisfies row p then passes row ps else pure false

def keep {α : Type} [Row α] (ps : List Predicate) : List α → Except Error (List α)
  | [] => .ok []
  | r :: rs => do
    let ok ← passes r ps
    let rest ← keep ps rs
    pure (if ok then r :: rest else rest)

def compareKeys : List OrderKey → List Field.Value → List Field.Value → Ordering
  | k :: ks, a :: as, b :: bs =>
    let o := a.compare b
    let o := match k.dir with
      | .asc => o
      | .desc => o.swap
    if o = .eq then compareKeys ks as bs else o
  | _, _, _ => .eq

/-- The matched rows of a spec, sorted and sliced, with the number matched before slicing. -/
def select {α : Type} [Row α] (rows : List α) (spec : Spec) : Except Error (List α × Nat) := do
  let kept ← keep spec.filters.values rows
  let order := spec.order.ensureTiebreaker tiebreakerField spec.order.primaryDir
  let keyed ← kept.mapM fun r => do
    let ks ← order.keys.mapM fun k => lookup r k.field
    pure (ks, r)
  let sorted := keyed.mergeSort fun a b => compareKeys order.keys a.1 b.1 != .gt
  let page := (sorted.drop (spec.offset.getD 0)).take spec.limit
  pure (page.map (·.2), kept.length)

/-- A storage fault: what was being done, and the chain of causes, outermost first. -/
structure Fault where
  context : String
  causes : List String := []
  deriving DecidableEq, Repr

def indentCause (label : String) (width : Nat) (cause : String) : String :=
  let pad := String.ofList (List.replicate width ' ')
  match cause.splitOn "\n" with
  | [] => label
  | first :: rest => label ++ first ++ String.join (rest.map fun l => "\n" ++ pad ++ l)

/-- The report of a fault: the context, then the causes, numbered when there are several. -/
def Fault.report (f : Fault) : String :=
  match f.causes with
  | [] => f.context
  | [c] => f.context ++ "\n\nCaused by:\n" ++ indentCause "    " 4 c
  | cs => f.context ++ "\n\nCaused by:" ++ String.join (cs.zipIdx.map fun (c, i) =>
      let n := toString i
      "\n" ++ indentCause (String.ofList (List.replicate (5 - n.length) ' ') ++ n ++ ": ") 7 c)

inductive Failure where
  | rejected (e : Error)
  | fault (f : Fault)
  deriving DecidableEq, Repr

/-- A store of rows: the rows of a spec, and the rows with the number of all matches. -/
structure Repository (α : Type) where
  find : Spec → Except Failure (List α)
  findAndCount : Spec → Except Failure (List α × Nat)

def Repository.memory {α : Type} [Row α] (rows : List α) : Repository α where
  find s := ((select rows s).map (·.1)).mapError .rejected
  findAndCount s := (select rows s).mapError .rejected

end Folio.Store
