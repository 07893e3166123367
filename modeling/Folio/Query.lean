import Folio.Filter.Predicate
import Folio.Request

namespace Folio

open Folio.Filter

structure Spec where
  filters : TextMap Predicate
  order : OrderBy
  limit : Nat
  offset : Option Nat
  deriving DecidableEq, Repr

def Spec.filter? (s : Spec) (field : String) : Option Predicate := s.filters.get? field

/-- Filters and order keys that a resource fixes, whatever the request says. -/
structure Override where
  filters : TextMap Predicate := {}
  order : OrderBy := {}
  deriving DecidableEq, Repr

def Override.pin (o : Override) (p : Predicate) : Override :=
    { o with filters := o.filters.insert p.field p }

def Override.orderBy (o : Override) (field : String) (dir : SortDir) : Override :=
  { o with order := o.order.set field dir }

def createdAtField : String := "createdAt"

def wherePrefix : String := "where__"

def orderPrefix : String := "order__"

/-- Reads one parameter into the filters and order built so far. -/
def composeStep (acc : TextMap Predicate × OrderBy) (kv : String × String) :
    Except Error (TextMap Predicate × OrderBy) :=
  let (key, value) := kv
  if key = Request.pageKey || key = Request.takeKey then .ok acc
  else if key.startsWith wherePrefix then do
    let k ← Key.parse key
    let op ← match k.token with
      | some t => Operator.parse t
      | none => pure .eq
    let p ← op.build k.field value
    pure (acc.1.insert p.field p, acc.2)
  else if key.startsWith orderPrefix then do
    let k ← Key.parse key
    if k.token.isSome then throw (.malformedKey key)
    if k.field = createdAtField && (Text.trim value).isEmpty then pure acc
    else
      let d ← SortDir.parse value
      pure (acc.1, acc.2.set k.field d)
  else .ok acc

def compose (r : Request) (o : Override) : Except Error Spec := do
  let start : TextMap Predicate × OrderBy := ({}, OrderBy.set {} createdAtField r.createdAtDir)
  let (filters, order) ← r.params.entries.foldlM composeStep start
  let filters := o.filters.entries.foldl (fun m e => m.insert e.1 e.2) filters
  let order := o.order.keys.foldl (fun ord k => ord.set k.field k.dir) order
  pure ⟨filters, order, r.take, r.offset⟩

end Folio
