import Folio.Json
import Folio.Text.Decimal

namespace Folio

inductive Page (α : Type) where
  | offset (data : List α) (total : Nat)
  | cursor (data : List α) (after : Option Int) (count : Nat) (next : Option String)
  deriving Repr

namespace Page

variable {α β : Type}

def data : Page α → List α
  | .offset d _ => d
  | .cursor d .. => d

def next : Page α → Option String
  | .offset .. => none
  | .cursor _ _ _ n => n

def total? : Page α → Option Nat
  | .offset _ t => some t
  | .cursor .. => none

def count? : Page α → Option Nat
  | .offset .. => none
  | .cursor _ _ c _ => some c

def map (f : α → β) : Page α → Page β
  | .offset d t => .offset (d.map f) t
  | .cursor d a c n => .cursor (d.map f) a c n

@[simp] theorem data_map (f : α → β) (p : Page α) : (p.map f).data = p.data.map f := by
  cases p <;> rfl

def toJson (item : α → JsonValue) : Page α → JsonValue
  | .offset d t => .obj [("data", .arr (d.map item)), ("total", .nat t)]
  | .cursor d a c n => .obj [("data", .arr (d.map item)),
      ("cursor", .obj [("after", JsonValue.opt JsonValue.int a)]), ("count", .nat c),
      ("next", JsonValue.opt .str n)]

end Page

namespace JsonValue

def list? : JsonValue → Option (List JsonValue)
  | .arr xs => some xs
  | _ => none

def u64? (j : JsonValue) : Option Nat :=
  match j with
  | .num m 0 => if 0 ≤ m && m ≤ Text.Decimal.u64Max then some m.toNat else none
  | _ => none

def i64? (j : JsonValue) : Option Int :=
  match j with
  | .num m 0 => if Text.Decimal.i64Min ≤ m && m ≤ Text.Decimal.i64Max then some m else none
  | _ => none

def optional? {α : Type} (f : JsonValue → Option α) : JsonValue → Option (Option α)
  | .null => some none
  | j => (f j).map some

/-- The fields of a record, read from an object by name or from an array in order. A missing
field of an object is `null`; an array must have exactly one item per field. -/
def fields? (j : JsonValue) (names : List String) : Option (List JsonValue) :=
  match j with
  | .obj fs => some (names.map fun n => (fs.lookup n).getD .null)
  | .arr xs => if xs.length = names.length then some xs else none
  | _ => none

def present? (j : JsonValue) (required : List String) : Bool :=
  match j with
  | .obj fs => required.all fun n => (fs.lookup n).isSome
  | _ => true

end JsonValue

def envelopeMismatch : String := "data did not match any variant of untagged enum Paginated"

def Page.cursor? (j : JsonValue) : Option (Page JsonValue) := do
  if !j.present? ["data", "cursor", "count"] then none
  let [d, c, n, nx] ← j.fields? ["data", "cursor", "count", "next"] | none
  let [a] ← c.fields? ["after"] | none
  pure (.cursor (← d.list?) (← JsonValue.optional? JsonValue.i64? a) (← n.u64?)
    (← JsonValue.optional? (fun | .str s => some s | _ => none) nx))

def Page.offset? (j : JsonValue) : Option (Page JsonValue) := do
  if !j.present? ["data", "total"] then none
  let [d, t] ← j.fields? ["data", "total"] | none
  pure (.offset (← d.list?) (← t.u64?))

def Page.ofJson (j : JsonValue) : Except String (Page JsonValue) :=
  match Page.cursor? j <|> Page.offset? j with
  | some p => .ok p
  | none => .error envelopeMismatch

end Folio
