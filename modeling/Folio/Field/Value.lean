import Folio.Error
import Folio.Text.Basic
import Folio.Text.Decimal
import Folio.Time.Rfc3339

namespace Folio.Field

inductive Value where
  | null
  | bool (b : Bool)
  | int (i : Int)
  | text (s : String)
  | time (t : Time.Instant)
  deriving DecidableEq, Repr

def Value.kind : Value → Kind
  | .null => .null
  | .bool _ => .bool
  | .int _ => .integer
  | .text _ => .text
  | .time _ => .datetime

def Kind.rank : Kind → Nat
  | .null => 0
  | .bool => 1
  | .integer => 2
  | .text => 3
  | .datetime => 4

/-- Values in order: by kind first, then within the kind. -/
def Value.compare : Value → Value → Ordering
  | .null, .null => .eq
  | .bool a, .bool b => Ord.compare a b
  | .int a, .int b => Ord.compare a b
  | .text a, .text b => Ord.compare a b
  | .time a, .time b => a.compare b
  | a, b => Ord.compare a.kind.rank b.kind.rank

/-- A truth value as literals spell it: `true` or `1`, `false` or `0`, in any ASCII case. -/
def boolOf? (s : String) : Option Bool :=
  match Text.asciiLower s with
  | "true" | "1" => some true
  | "false" | "0" => some false
  | _ => none

/-- Reads a request literal as a value of a kind. Texts are kept as given; the other kinds read
the trimmed literal, and a literal that does not read is a type mismatch on the field. -/
def Kind.coerce (k : Kind) (field raw : String) : Except Error Value :=
  let mismatch : Except Error Value := .error (.typeMismatch field raw k)
  let trimmed := Text.trim raw
  match k with
  | .null => .ok .null
  | .text => .ok (.text raw)
  | .bool => match boolOf? trimmed with
    | some b => .ok (.bool b)
    | none => mismatch
  | .integer => match Text.Decimal.i64? trimmed with
    | some i => .ok (.int i)
    | none => mismatch
  | .datetime => match Time.parseRfc3339 trimmed with
    | some t => .ok (.time t)
    | none => mismatch

theorem Kind.coerce_text (field raw : String) : Kind.text.coerce field raw = .ok (.text raw) := rfl

end Folio.Field
