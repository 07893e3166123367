import Folio.Config.Layer
import Folio.Config.Types
import Folio.Files.Path

namespace Folio.Config

structure DecodeError where
  kind : String
  path : List String
  origin : Origin
deriving Repr, Inhabited

def Origin.describe (cwd : String) : Origin → String
  | .builtin => "Serialized"
  | .file p => Files.shownFrom cwd p ++ " YAML file"
  | .env pre => "`" ++ pre ++ "` environment variable(s)"

/-- A key path as a layer spells it: dotted after the profile, or upper case for variables. -/
def Origin.keyText (path : List String) : Origin → String
  | .env _ => ".".intercalate (path.map fun k => String.ofList (k.toList.map Char.toUpper))
  | _ => "default." ++ ".".intercalate path

def DecodeError.message (cwd : String) (e : DecodeError) : String :=
  e.kind ++ (if e.path.isEmpty then "" else " for key " ++ Text.quoted (e.origin.keyText e.path)) ++
    " in " ++ e.origin.describe cwd

def Layered.actual : Layered → String
  | .absent _ => "option"
  | .scalar s _ => match s with
    | .null => "unit"
    | .bool b => "bool " ++ toString b
    | .unsigned n =>
      if n < Nat.pow 2 64 then "unsigned int `" ++ toString n ++ "`"
      else "integer `" ++ toString n ++ "` as u128"
    | .signed i =>
      if -Int.pow 2 63 ≤ i then "signed int `" ++ toString i ++ "`"
      else "integer `" ++ toString i ++ "` as i128"
    | .float f => "float `" ++ f ++ "`"
    | .text t => "string " ++ Text.quoted t
  | .list _ _ => "sequence"
  | .dict _ _ => "map"

def oneOf : List String → String
  | [] => "none"
  | [a] => "`" ++ a ++ "`"
  | [a, b] => "`" ++ a ++ "` or `" ++ b ++ "`"
  | xs => "one of " ++ ", ".intercalate (xs.map fun x => "`" ++ x ++ "`")

abbrev Decode := Except DecodeError

def typeError {α : Type} (path : List String) (v : Layered) (expected : String) : Decode α :=
  throw { kind := "invalid type: found " ++ v.actual ++ ", expected " ++ expected, path,
          origin := v.origin }

def valueError {α : Type} (path : List String) (v : Layered) (expected : String) : Decode α :=
  throw { kind := "invalid value " ++ v.actual ++ ", expected " ++ expected, path,
          origin := v.origin }

def readText (path : List String) : Layered → Decode String
  | .scalar (.text s) _ => pure s
  | v => typeError path v "a string"

def readNat (name : String) (max : Nat) (path : List String) (v : Layered) : Decode Nat :=
  match v with
  | .scalar (.unsigned n) _ => if n ≤ max then pure n else valueError path v name
  | .scalar (.signed i) _ => if 0 ≤ i && i.toNat ≤ max then pure i.toNat else valueError path v name
  | _ => typeError path v name

def readU16 := readNat "u16" (Nat.pow 2 16 - 1)
def readU32 := readNat "u32" (Nat.pow 2 32 - 1)
def readU64 := readNat "u64" (Nat.pow 2 64 - 1)
def readUsize := readNat "usize" (Nat.pow 2 64 - 1)

def readOption {α : Type} (f : List String → Layered → Decode α) (path : List String) :
    Layered → Decode (Option α)
  | .absent _ => pure none
  | .scalar .null _ => pure none
  | v => some <$> f path v

/-- A field of a struct: its name, whether it must be given, and how its value is read. -/
structure Field where
  name : String
  required : Bool
  check : List String → Layered → Decode Unit

def Field.of {α : Type} (name : String) (required : Bool) (f : List String → Layered → Decode α) :
    Field :=
  ⟨name, required, fun p v => (fun _ => ()) <$> f p v⟩

/-- Check a struct's map: entries in key order, then the required fields in declaration
order. Gives the entries. -/
def readStruct (name : String) (fields : List Field) (path : List String) (v : Layered) :
    Decode (List (String × Layered)) :=
  match v with
  | .dict entries o => do
    for (k, x) in entries do
      match fields.find? (·.name == k) with
      | some f => f.check (path ++ [k]) x
      | none =>
        throw { kind := "unknown field: found `" ++ k ++ "`, expected `" ++
                  oneOf (fields.map (·.name)) ++ "`",
                path := path ++ [k], origin := x.origin }
    for f in fields do
      if f.required && !(entries.any (·.1 == f.name)) then
        throw { kind := "missing field `" ++ f.name ++ "`", path, origin := o }
    pure entries
  | _ => typeError path v ("struct " ++ name)

def fieldOr {α : Type} (entries : List (String × Layered)) (path : List String) (name : String)
    (default : α) (f : List String → Layered → Decode α) : Decode α :=
  match entries.lookup name with
  | some v => f (path ++ [name]) v
  | none => pure default

def readServer (path : List String) (v : Layered) : Decode ServerConfig := do
  let fields := [Field.of "home_dir" true readText, Field.of "host" true readText,
    Field.of "port" true readU16, Field.of "timeout_sec" false readU64]
  let es ← readStruct "ServerConfig" fields path v
  return { homeDir := ← fieldOr es path "home_dir" "" readText,
           host := ← fieldOr es path "host" "" readText,
           port := ← fieldOr es path "port" 0 readU16,
           timeoutSec := ← fieldOr es path "timeout_sec" 0 readU64 }

def readLinks (path : List String) (v : Layered) : Decode LinksConfig := do
  let fields := [Field.of "protocol" false readText, Field.of "host" false (readOption readText)]
  let es ← readStruct "LinksConfig" fields path v
  return { protocol := ← fieldOr es path "protocol" "http" readText,
           host := ← fieldOr es path "host" none (readOption readText) }

def readDatabase (path : List String) (v : Layered) : Decode DatabaseConfig := do
  let fields := [Field.of "url" true readText, Field.of "max_conns" false (readOption readU32)]
  let es ← readStruct "DatabaseConfig" fields path v
  return { url := ← fieldOr es path "url" "" readText,
           maxConns := ← fieldOr es path "max_conns" none (readOption readU32) }

def readSection (path : List String) (v : Layered) : Decode Log.Section := do
  let fields := [Field.of "console_level" true readText, Field.of "file" false readText,
    Field.of "file_level" false readText, Field.of "max_backups" false (readOption readUsize),
    Field.of "max_size_mb" false (readOption readU64)]
  let es ← readStruct "Section" fields path v
  return { consoleLevel := ← fieldOr es path "console_level" "" readText,
           file := ← fieldOr es path "file" "" readText,
           fileLevel := ← fieldOr es path "file_level" "" readText,
           maxBackups := ← fieldOr es path "max_backups" none (readOption readUsize),
           maxSizeMb := ← fieldOr es path "max_size_mb" none (readOption readU64) }

def readLogging (path : List String) (v : Layered) : Decode (List (String × Log.Section)) :=
  match v with
  | .dict entries _ => entries.mapM fun (k, x) => do return (k, ← readSection (path ++ [k]) x)
  | _ => typeError path v "a map"

def readApp (v : Layered) : Decode AppConfig := do
  let fields := [Field.of "server" true readServer, Field.of "links" false readLinks,
    Field.of "database" false (readOption readDatabase),
    Field.of "logging" false (readOption readLogging)]
  let es ← readStruct "AppConfig" fields [] v
  return { server := ← fieldOr es [] "server" {} readServer,
           links := ← fieldOr es [] "links" {} readLinks,
           database := ← fieldOr es [] "database" none (readOption readDatabase),
           logging := ← fieldOr es [] "logging" none (readOption readLogging) }

def ServerConfig.layer (c : ServerConfig) : Layered :=
  let o := Origin.builtin
  .dict [("home_dir", .text c.homeDir o), ("host", .text c.host o), ("port", .nat c.port o),
    ("timeout_sec", .nat c.timeoutSec o)] o

def LinksConfig.layer (c : LinksConfig) : Layered :=
  let o := Origin.builtin
  .dict [("host", .optional Layered.text c.host o), ("protocol", .text c.protocol o)] o

/-- The defaults under a file: the server and links settings, nothing optional. -/
def baseLayer : Layered :=
  let o := Origin.builtin
  .dict [("database", .absent o), ("links", LinksConfig.layer {}), ("logging", .absent o),
    ("server", ServerConfig.layer {})] o

end Folio.Config
