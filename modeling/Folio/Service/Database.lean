import Folio.Files.Path
import Folio.Text.Basic
import Folio.Config.Types
import Folio.Store.Repository
import Folio.Url.Parse
import Folio.Url.Basic

namespace Folio.Service

def memoryDsn : String := "sqlite::memory:"

/-- The absolute connection string of a SQLite string below a base directory; with `create`, the
directory of the file is created. Answers the string, the disk and the directories made. -/
def absolutizeSqlite (dsn base : String) (create : Bool) (disk : Files.Disk) :
    Except String (String × Files.Disk × List String) := do
  if Text.eqIgnoreAsciiCase dsn memoryDsn || Text.eqIgnoreAsciiCase dsn "sqlite://:memory:" then
    return (memoryDsn, disk, [])
  if !dsn.startsWith "sqlite://" then throw ("DSN must start with sqlite:// (got: " ++ dsn ++ ")")
  let dbPath := String.ofList (dsn.toList.drop 9)
  let (pathText, query) := match dbPath.splitOn "?" with
    | p :: rest@(_ :: _) => (p, "?".intercalate rest)
    | _ => (dbPath, "mode=rwc")
  if pathText.isEmpty then throw "Empty SQLite path in DSN"
  let p := Files.joinPath base pathText
  let (disk, made) ← match Files.parent? p with
    | some dir => if create then disk.makeDirs dir else pure (disk, [])
    | none => pure (disk, [])
  return ("sqlite://" ++ p.replace "\\" "/" ++ "?" ++ query, disk, made)

def seedPosts : Nat := 100

structure OpenMode where
  readOnly : Bool := false
  create : Bool := false
  memory : Bool := false
  deriving DecidableEq, Repr

def databaseCauses (heading : String) (code : Nat) (msg : String) : List String :=
  let base := "(code: " ++ toString code ++ ") " ++ msg
  let returned := "error returned from database: " ++ base
  [heading ++ ": " ++ returned, returned, returned, base]

def configurationCauses (msg : String) : List String :=
  let e := "error with configuration: " ++ msg
  ["Connection Error: " ++ e, e, msg]

/-- Reads the file name and open mode of a SQLite connection string. -/
def sqliteOptions (dsn : String) : Except (List String) (String × OpenMode) := do
  let rest := if dsn.startsWith "sqlite://" then String.ofList (dsn.toList.drop 9)
    else if dsn.startsWith "sqlite:" then String.ofList (dsn.toList.drop 7) else dsn
  let (name, params) := match rest.splitOn "?" with
    | n :: q :: _ => (n, some q)
    | _ => (rest, none)
  let start : OpenMode := if name = ":memory:" then { memory := true } else {}
  let step := fun (m : OpenMode) (kv : String × String) =>
    let (k, v) := kv
    match k with
    | "mode" => match v with
      | "ro" => pure { m with readOnly := true }
      | "rw" => pure m
      | "rwc" => pure { m with create := true }
      | "memory" => pure { m with memory := true }
      | _ => throw (configurationCauses ("unknown value " ++ Text.quoted v ++ " for `mode`"))
    | "cache" => if v = "private" || v = "shared" then pure m
      else throw (configurationCauses ("unknown value " ++ Text.quoted v ++ " for `cache`"))
    | "immutable" => if ["true", "1", "false", "0"].contains v then pure m
      else throw (configurationCauses ("unknown value " ++ Text.quoted v ++ " for `immutable`"))
    | "vfs" => pure m
    | _ => throw (configurationCauses
        ("unknown query parameter `" ++ k ++ "` while parsing connection URL"))
  let mode ← (Url.Form.parse (params.getD "")).foldlM step start
  pure (Url.decodeText name, mode)

/-- A connection: the posts table it reaches, and the file that holds it, if any. -/
structure Connection where
  posts : List Post
  file : Option String

/-- What connecting did: the connection, the disk after it, and the events it logged. -/
abbrev Connected := Connection × Files.Disk × List Log.Event

def serverEvent (message : String) (fields : List (String × Log.Value) := []) : Log.Event :=
  { level := .info, target := "listing_server", message := message, fields := fields }

/-- Creates the posts table if missing and seeds it if empty. -/
def prepareTable (table : Option (List Post)) (readOnly : Bool) :
    Except Store.Fault (List Post × Bool) :=
  let readOnlyCauses := fun (heading : String) =>
    databaseCauses heading 8 "attempt to write a readonly database"
  match table with
  | none =>
    if readOnly then .error ⟨"cannot create the posts table", readOnlyCauses "Execution Error"⟩
    else .ok (Post.seed seedPosts, true)
  | some rows =>
    if !rows.isEmpty then .ok (rows, false)
    else if readOnly then .error ⟨"cannot seed the posts table", readOnlyCauses "Execution Error"⟩
    else .ok (Post.seed seedPosts, true)

/-- Connects to the configured database, below a home directory, from a working directory. -/
def connect (cfg : Config.DatabaseConfig) (home cwd : String) (disk : Files.Disk) :
    Except (Store.Fault × List Log.Event) Connected := do
  let raw := Text.trim cfg.url
  if raw.isEmpty then throw (⟨"Database URL not configured", []⟩, [])
  let (dsn, disk, _) ← if raw.startsWith "sqlite:" then
      match absolutizeSqlite raw home true disk with
      | .ok r => pure r
      | .error m => throw (⟨m, []⟩, [])
    else pure (raw, disk, [])
  let said := [serverEvent "Connecting to database" [("dsn", .text dsn)]]
  let context := "cannot connect to " ++ dsn
  let scheme := match Url.parse dsn with
    | .ok u => u.scheme
    | .error _ => ""
  if !scheme.startsWith "sqlite" then
    let m := "The connection string '" ++ dsn ++ "' has no supporting driver."
    throw (⟨context, ["Connection Error: " ++ m, m]⟩, said)
  let (name, mode) ← match sqliteOptions dsn with
    | .ok r => pure r
    | .error causes => throw (⟨context, causes⟩, said)
  let cannotOpen : Store.Fault :=
    ⟨context, databaseCauses "Connection Error" 14 "unable to open database file"⟩
  let (table, file, disk) ← if mode.memory then pure (none, none, disk)
    else
      let path := Files.normalize (Files.joinPath cwd name)
      match disk.get? path with
      | some (.database t) => pure (t, some path, disk)
      | some _ => throw (cannotOpen, said)
      | none =>
        let dirOk := match Files.parent? path with
          | some d => d.isEmpty || disk.isDir d
          | none => false
        if mode.create && !mode.readOnly && dirOk then
          pure (none, some path, disk.put path (.database none))
        else throw (cannotOpen, said)
  match prepareTable table mode.readOnly with
  | .error f => throw (f, said)
  | .ok (rows, seeded) =>
    let disk := match file with
      | some p => disk.put p (.database (some rows))
      | none => disk
    let said := if seeded then said ++ [serverEvent "Seeded empty posts table" [("rows", .num rows.length)]]
      else said
    return (⟨rows, file⟩, disk, said)

end Folio.Service
