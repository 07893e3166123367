import Folio.Yaml.Document
import Folio.Text.Basic
import Folio.Text.Decimal

namespace Folio.Config

inductive Origin where
  | builtin
  | file (path : String)
  | env (pre : String)
deriving DecidableEq, Repr, Inhabited

inductive Layered where
  | absent (o : Origin)
  | scalar (s : Yaml.Scalar) (o : Origin)
  | list (items : List Layered) (o : Origin)
  | dict (entries : List (String × Layered)) (o : Origin)
deriving Repr, Inhabited

def Layered.origin : Layered → Origin
  | .absent o => o
  | .scalar _ o => o
  | .list _ o => o
  | .dict _ o => o

def Layered.text (s : String) (o : Origin) : Layered := .scalar (.text s) o

def Layered.nat (n : Nat) (o : Origin) : Layered := .scalar (.unsigned n) o

def Layered.optional {α : Type} (f : α → Origin → Layered) (v : Option α) (o : Origin) : Layered :=
  match v with
  | some a => f a o
  | none => .absent o

mutual

def Layered.merge : Layered → Layered → Layered
  | .dict a _, .dict b o => .dict (mergeEntries a b) o
  | _, v => v

/-- Merge the entries of two sorted maps, the later one's winning. -/
def mergeEntries : List (String × Layered) → List (String × Layered) → List (String × Layered)
  | [], b => b
  | (k, va) :: rest, b =>
    match b.lookup k with
    | some vb => Yaml.insertSorted k (Layered.merge va vb) (mergeEntries rest (b.filter (·.1 != k)))
    | none => Yaml.insertSorted k va (mergeEntries rest b)

end

mutual

def Layered.ofData (o : Origin) : Yaml.Data → Layered
  | .scalar s => .scalar s o
  | .list items => .list (layeredItems o items) o
  | .dict entries => .dict (layeredEntries o entries) o

def layeredItems (o : Origin) : List Yaml.Data → List Layered
  | [] => []
  | d :: rest => Layered.ofData o d :: layeredItems o rest

def layeredEntries (o : Origin) : List (String × Yaml.Data) → List (String × Layered)
  | [] => []
  | (k, d) :: rest => (k, Layered.ofData o d) :: layeredEntries o rest

end

/-- The variables that configure the program start with this, in any case. -/
def envPrefix : String := "APP__"

/-- A variable's value: `true` or `false`, a whole number, a number with a point, or else
the text. Surrounding blanks are dropped except from text that is not a single word. -/
def envValue (raw : String) : Yaml.Scalar :=
  let t := Text.trim raw
  if t == "true" then .bool true
  else if t == "false" then .bool false
  else
    let number : Option Yaml.Scalar :=
      if t.contains '.' then
        match Yaml.decimalFloat? t with
        | some f => if t.toList.all (fun c => c.isDigit || c == '.' || c == '-' || c == '+' || c == 'e' || c == 'E')
            then some (.float f) else none
        | none => none
      else none
    match number with
    | some n => n
    | none =>
      match Yaml.unsignedIn? (Nat.pow 2 64) t with
      | some n =>
        if t.toList.all (fun c => c.isDigit || c == '+') then .unsigned n else .text t
      | none =>
        match (Text.Decimal.integer? t) with
        | some i => if -Int.pow 2 63 ≤ i && i < Int.pow 2 63 then .signed i else .text t
        | none =>
          if t.toList.any (fun c => Text.isBlank c || ",[]\x7b\x7d=\"'".toList.contains c) then .text raw
          else .text t

def nest (o : Origin) : List String → Layered → Layered
  | [], v => v
  | k :: rest, v => .dict [(k, nest o rest v)] o

/-- The layer of environment variables: each `APP__A__B=v` sets `a.b`, keys in lower case. -/
def envLayer (vars : List (String × String)) : Layered :=
  let o := Origin.env envPrefix
  let step (acc : Layered) (kv : String × String) : Layered :=
    let (k, v) := kv
    let k := Text.trim k
    if !(Text.asciiLower k).startsWith (Text.asciiLower envPrefix) then acc
    else
      let rest := String.ofList (k.toList.drop envPrefix.length)
      let path := (Text.trim (rest.replace "__" ".")).splitOn "."
      if path.any (·.isEmpty) then acc
      else acc.merge (nest o (path.map Text.asciiLower) (.scalar (envValue v) o))
  vars.foldl step (.dict [] o)

theorem merge_scalar (s : Yaml.Scalar) (o : Origin) (v : Layered) :
    (Layered.scalar s o).merge v = v := by
  cases v <;> simp [Layered.merge]

end Folio.Config
