import Folio.Error
import Folio.Text.Basic

namespace Folio

inductive SortDir where
  | asc
  | desc
  deriving DecidableEq, Repr

def SortDir.text : SortDir → String
  | .asc => "ASC"
  | .desc => "DESC"

/-- Reads a direction: trimmed, either word in any ASCII case. The error keeps the raw text. -/
def SortDir.parse (raw : String) : Except Error SortDir :=
  let t := Text.trim raw
  if Text.eqIgnoreAsciiCase t "asc" then .ok .asc
  else if Text.eqIgnoreAsciiCase t "desc" then .ok .desc
  else .error (.orderDirection raw)

structure OrderKey where
  field : String
  dir : SortDir
  deriving DecidableEq, Repr

/-- Sets the direction of the first key on `field`, or appends a key. -/
def OrderKey.setIn : List OrderKey → String → SortDir → List OrderKey
  | [], field, dir => [⟨field, dir⟩]
  | k :: ks, field, dir => if k.field = field then ⟨field, dir⟩ :: ks else k :: setIn ks field dir

structure OrderBy where
  keys : List OrderKey := []
  deriving DecidableEq, Repr

namespace OrderBy

def get? (o : OrderBy) (field : String) : Option SortDir :=
  (o.keys.find? fun k => k.field == field).map (·.dir)

/-- The direction of the first key; ascending for an empty order. -/
def primaryDir (o : OrderBy) : SortDir :=
  match o.keys with
  | [] => .asc
  | k :: _ => k.dir

def set (o : OrderBy) (field : String)
    (dir : SortDir) : OrderBy := ⟨OrderKey.setIn o.keys field dir⟩

def ensureTiebreaker (o : OrderBy) (field : String) (dir : SortDir) : OrderBy :=
  if (o.get? field).isNone then ⟨o.keys ++ [⟨field, dir⟩]⟩ else o

def signedTokens (o : OrderBy) : String :=
  ",".intercalate (o.keys.map fun k => (if k.dir = .asc then "+" else "-") ++ k.field)

end OrderBy

end Folio
