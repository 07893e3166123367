import Folio.Log.Event
import Folio.Store.Record

namespace Folio.Files

def isAbsolute (p : String) : Bool := p.startsWith "/"

/-- A path joined onto a base: an absolute path replaces the base. -/
def joinPath (base p : String) : String :=
  if isAbsolute p || base.isEmpty then p
  else if base.endsWith "/" then base ++ p
  else base ++ "/" ++ p

def components (p : String) : List String :=
  (p.splitOn "/").filter fun c => !c.isEmpty && c != "."

def ofComponents (absolute : Bool) (cs : List String) : String :=
  let body := "/".intercalate cs
  if absolute then "/" ++ body else body

/-- The directory a path is in: the path without its last component. The root has none, nor has
the empty path. -/
def parent? (p : String) : Option String :=
  let cs := components p
  match cs.reverse with
  | [] => if isAbsolute p then none else if p.isEmpty then none else some ""
  | _ :: rest => some (ofComponents (isAbsolute p) rest.reverse)

def prefixes (p : String) : List String :=
  let step := fun (acc : List String × List String) (c : String) =>
    let cur := if c = ".." then acc.1.dropLast else acc.1 ++ [c]
    (cur, acc.2 ++ [ofComponents (isAbsolute p) cur])
  ((components p).foldl step ([], [])).2

/-- A path without empty and `.` components, each `..` taking the component before it away. -/
def normalize (p : String) : String :=
  match (prefixes p).getLast? with
  | some q => q
  | none => ofComponents (isAbsolute p) []

theorem joinPath_absolute (base p : String) (h : isAbsolute p = true) : joinPath base p = p := by
  simp [joinPath, h]

inductive Part where
  | root
  | here
  | up
  | name (s : String)
deriving DecidableEq, Repr, Inhabited

def Part.text : Part → String
  | .root => "/"
  | .here => "."
  | .up => ".."
  | .name s => s

/-- The components of a path; `.` counts only at the start of a relative path. -/
def parts (p : String) : List Part :=
  let raw := (p.splitOn "/").filter (· != "")
  let lead := if isAbsolute p then [Part.root]
    else if p.startsWith "./" || p == "." then [Part.here] else []
  lead ++ (raw.filter (· != ".")).map fun c => if c == ".." then Part.up else Part.name c

def Part.join : List Part → String
  | [] => ""
  | .root :: rest => "/" ++ "/".intercalate (rest.map Part.text)
  | cs => "/".intercalate (cs.map Part.text)

def divergeFrom : List Part → List Part → List Part → Option (List Part)
  | [], [], acc => some acc.reverse
  | a :: rest, [], acc => some (acc.reverse ++ a :: rest)
  | [], _ :: bs, acc => divergeFrom [] bs (.up :: acc)
  | a :: rest, b :: bs, acc =>
    if acc.isEmpty && a == b then divergeFrom rest bs acc
    else if b == .here then divergeFrom rest bs (a :: acc)
    else if b == .up then none
    else some (acc.reverse ++ List.replicate (bs.length + 1) Part.up ++ a :: rest)

def relativeParts (path base : String) : Option (List Part) :=
  if isAbsolute path != isAbsolute base then
    if isAbsolute path then some (parts path) else none
  else divergeFrom (parts path) (parts base) []

/-- A path as a message shows it from the working directory `cwd`: relative when that is
shorter in components, else as given. -/
def shownFrom (cwd path : String) : String :=
  match relativeParts path cwd with
  | some r => if r.length < (parts path).length then Part.join r else path
  | none => path

inductive Entry where
  | dir
  | device
  | text (s : String)
  | log (events : List Log.Event)
  | database (posts : Option (List Post))
  deriving Repr

def Entry.isDir : Entry → Bool
  | .dir => true
  | _ => false

structure Disk where
  entries : List (String × Entry) := []
  deriving Repr

def Disk.get? (d : Disk) (p : String) : Option Entry := d.entries.lookup p

def Disk.isDir (d : Disk) (p : String) : Bool := (d.get? p).any Entry.isDir

def Disk.put (d : Disk) (p : String) (e : Entry) : Disk :=
  ⟨(d.entries.filter fun x => x.1 != p) ++ [(p, e)]⟩

def existsMessage : String := "File exists (os error 17)"

def notDirMessage : String := "Not a directory (os error 20)"

/-- Creates a directory and the missing ones above it; answers the new directories in order. -/
def Disk.makeDirs (d : Disk) (p : String) : Except String (Disk × List String) :=
  let step := fun (acc : Disk × List String) (q : String) =>
    match acc.1.get? q with
    | some .dir => .ok acc
    | some _ => .error (if q = ofComponents (isAbsolute p) (components p) then existsMessage else notDirMessage)
    | none => .ok (acc.1.put q .dir, acc.2 ++ [q])
  (prefixes p).foldlM step (d, [])

end Folio.Files
