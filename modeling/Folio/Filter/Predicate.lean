import Folio.Error
import Folio.Text.Basic

namespace Folio.Filter

structure Predicate where
  field : String
  operator : Operator
  values : List String
  deriving DecidableEq, Repr

def Predicate.eq (field value : String) : Predicate := ⟨field, .eq, [value]⟩

def Predicate.first? (p : Predicate) : Option String := p.values.head?

def Operator.parse (token : String) : Except Error Operator :=
  match Operator.ofToken? token with
  | some op => .ok op
  | none => .error (.unknownOperator token)

/-- The comma-separated pieces of a value, trimmed, without the empty ones. -/
def splitValues (raw : String) : List String :=
  ((Text.splitOnChar ',' raw.toList).map fun cs => String.ofList (Text.trimList cs)).filter
    fun v => !v.isEmpty

def Operator.rawValues (op : Operator) (raw : String) : List String :=
  match op.arity with
  | .one => [raw]
  | _ => splitValues raw

def Operator.build (op : Operator) (field raw : String) : Except Error Predicate :=
  let values := op.rawValues raw
  if op.arity.accepts values.length then
    .ok ⟨field, op, if op = .like then values.map (fun v => "%" ++ v ++ "%") else values⟩
  else .error (.valueShape op op.arity values.length)

structure Key where
  scope : String
  field : String
  token : Option String
  deriving DecidableEq, Repr

def segments (key : String) : List String :=
  (Text.splitOnDoubleUnderscore key.toList).map String.ofList

/-- Reads a key, refusing the shapes that name no field. -/
def Key.parse (key : String) : Except Error Key :=
  match segments key with
  | [scope, field] =>
    if field.isEmpty then .error (.malformedKey key) else .ok ⟨scope, field, none⟩
  | [scope, field, token] =>
    if field.isEmpty || token.isEmpty then .error (.malformedKey key)
    else .ok ⟨scope, field, some token⟩
  | _ => .error (.malformedKey key)

end Folio.Filter
