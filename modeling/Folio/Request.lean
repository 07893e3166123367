import Folio.Order
import Folio.TextMap
import Folio.Text.Decimal

namespace Folio

def defaultTake : Nat := 20

/-- The largest offset and the largest page size: the largest signed 64-bit word, `2^63 - 1`. -/
def maxOffset : Nat := 9223372036854775807

/-- The offset of a page of `take` rows, when it fits a signed 64-bit word. -/
def checkedOffset (page take : Nat) : Option Nat :=
  if take * (page - 1) ≤ maxOffset then some (take * (page - 1)) else none

def positive? (raw : String) : Option Nat := (Text.Decimal.u64? raw).filter (0 < ·)

structure Request where
  page : Option Nat := none
  take : Nat := defaultTake
  createdAtDir : SortDir := .asc
  params : TextMap String := {}
  deriving DecidableEq, Repr

namespace Request

def pageKey : String := "page"

def takeKey : String := "take"

def createdAtKey : String := "order__createdAt"

/-- Offset pages are asked for by a page number; cursor pages by its absence. -/
def isCursorMode (r : Request) : Bool := r.page.isNone

/-- The offset of the requested page; an overflowing one reads as `maxOffset`. -/
def offset (r : Request) : Option Nat := r.page.map fun p => (checkedOffset p r.take).getD maxOffset

def offsetError? (r : Request) : Option Error :=
  match r.page with
  | some p => if (checkedOffset p r.take).isNone then some (.invalidPage (toString p)) else none
  | none => none

def record (r : Request) (key value : String) : Request :=
    { r with params := r.params.insert key value }

/-- Sets one parameter. The answer is the request afterwards and the error, if any: a page
number or size that reads well is kept even when its offset overflows, but the parameter is
recorded only when the step succeeds. -/
def assign (r : Request) (key value : String) : Request × Option Error :=
  let t := Text.trim value
  let checked (r' : Request) : Request × Option Error :=
    match r'.offsetError? with
    | some e => (r', some e)
    | none => (r'.record key value, none)
  if key = pageKey then
    if t.isEmpty then checked { r with page := none }
    else
      match positive? t with
      | some p => checked { r with page := some p }
      | none => (r, some (.invalidPage value))
  else if key = takeKey then
    if t.isEmpty then checked { r with take := defaultTake }
    else
      match (positive? t).filter (· ≤ maxOffset) with
      | some n => checked { r with take := n }
      | none => (r, some (.invalidTake value))
  else if key = createdAtKey then
    if t.isEmpty then ({ r with createdAtDir := .asc }.record key value, none)
    else
      match SortDir.parse t with
      | .ok d => ({ r with createdAtDir := d }.record key value, none)
      | .error e => (r, some e)
  else (r.record key value, none)

def set (r : Request) (key value : String) : Except Error Request :=
  match r.assign key value with
  | (r', none) => .ok r'
  | (_, some e) => .error e

def ofPairs (pairs : List (String × String)) : Except Error Request :=
  pairs.foldlM (fun r kv => r.set kv.1 kv.2) {}

/-- Asks for a page number, at least 1, without the offset check. -/
def withPage (r : Request) (page : Nat) : Request :=
  let p := max page 1
  { r with page := some p }.record pageKey (toString p)

/-- Asks for a page size, clamped to `1 ..= maxOffset`, without the offset check. -/
def withTake (r : Request) (take : Nat) : Request :=
  let t := min (max take 1) maxOffset
  { r with take := t }.record takeKey (toString t)

def withCreatedAtDir (r : Request) (dir : SortDir) : Request :=
  { r with createdAtDir := dir }.record createdAtKey dir.text

def get? (r : Request) (key : String) : Option String := r.params.get? key

inductive Step where
  | set (key value : String)
  | withPage (page : Nat)
  | withTake (take : Nat)
  | withCreatedAtDir (dir : SortDir)
  deriving DecidableEq, Repr

def Step.apply (r : Request) : Step → Request × Option Error
  | .set k v => r.assign k v
  | .withPage p => (r.withPage p, none)
  | .withTake t => (r.withTake t, none)
  | .withCreatedAtDir d => (r.withCreatedAtDir d, none)

def applySteps (r : Request) : List Step → Except Error Request
  | [] => .ok r
  | s :: ss =>
    match Step.apply r s with
    | (r', none) => applySteps r' ss
    | (_, some e) => .error e

/-- Applies steps in order, going on after a failed step with the request it left. -/
def runSteps (r : Request) (steps : List Step) : Request :=
  steps.foldl (fun r s => (Step.apply r s).1) r

end Request

end Folio
