import Folio.Text.Basic

namespace Folio.Log

/-- How severe an event is, from the most verbose to the most severe. -/
inductive Level where
  | trace
  | debug
  | info
  | warn
  | error
  deriving DecidableEq, Repr

def Level.rank : Level → Nat
  | .trace => 0
  | .debug => 1
  | .info => 2
  | .warn => 3
  | .error => 4

def Level.text : Level → String
  | .trace => "TRACE"
  | .debug => "DEBUG"
  | .info => "INFO"
  | .warn => "WARN"
  | .error => "ERROR"

/-- The least level a filter lets through, or `none` when it lets nothing through. -/
abbrev Threshold := Option Level

def Threshold.admits (t : Threshold) (l : Level) : Bool :=
  match t with
  | some m => m.rank ≤ l.rank
  | none => false

/-- A level as configuration spells it, trimmed and in any ASCII case. `off` and `none` turn
output off; a blank or unknown name means `info`. -/
def Threshold.parse (s : String) : Threshold :=
  match Text.asciiLower (Text.trim s) with
  | "trace" => some .trace
  | "debug" => some .debug
  | "warn" => some .warn
  | "error" => some .error
  | "off" | "none" => none
  | _ => some .info

/-- The value of an event field: a text (written with its display or debug form), a number or
a truth value. -/
inductive Value where
  | text (s : String)
  | num (n : Int)
  | flag (b : Bool)
  deriving DecidableEq, Repr

structure Span where
  name : String
  fields : List (String × Value) := []
  deriving DecidableEq, Repr

def Span.record (s : Span) (k : String) (v : Value) : Span :=
  { s with fields := s.fields ++ [(k, v)] }

structure Event where
  level : Level
  target : String
  message : String
  fields : List (String × Value) := []
  spans : List Span := []
  deriving DecidableEq, Repr

/-- The text of an optional number as debug output writes it: `None` or `Some(n)`. -/
def optionText (n : Option Nat) : String :=
  match n with
  | some n => "Some(" ++ toString n ++ ")"
  | none => "None"

end Folio.Log
