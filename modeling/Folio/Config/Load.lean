import Folio.Config.Decode
import Folio.Files.Path

namespace Folio.Config

structure Surroundings where
  cwd : String
  userHome : Option String
  vars : List (String × String) := []

def defaultSubdir : String := ".listing"

/-- A home directory setting made absolute. -/
def Surroundings.expandHome (s : Surroundings) (raw : Option String) : Except
    (List String) String :=
  let userHome : Except (List String) String :=
    match s.userHome with
    | some h => pure h
    | none => throw ["cannot determine the user home directory"]
  match raw with
  | none => do return Files.joinPath (← userHome) defaultSubdir
  | some raw =>
    let r := Text.trim raw
    if r == "~" then userHome
    else if r.startsWith "~/" || r.startsWith "~\\" then do
      return Files.joinPath (← userHome) (String.ofList (r.toList.drop 2))
    else if Files.isAbsolute r then pure r
    else pure (Files.joinPath s.cwd r)

/-- The server settings with the home directory made absolute and created. -/
def Surroundings.normalizeHome (s : Surroundings) (disk : Files.Disk) (server : ServerConfig) :
    Except (List String) (ServerConfig × Files.Disk) := do
  let raw := if (Text.trim server.homeDir).isEmpty then none else some server.homeDir
  let home ← (s.expandHome raw).mapError ("home_dir normalization failed" :: ·)
  match disk.makeDirs home with
  | .error io => throw ["home_dir normalization failed", "cannot create home dir " ++ home, io]
  | .ok (disk, _) => pure ({ server with homeDir := home }, disk)

/-- The configuration from a file, the defaults and the environment, with its home directory
created. The file must exist. -/
def loadLayered (s : Surroundings) (disk : Files.Disk) (path : String) :
    Except (List String) (AppConfig × Files.Disk) := do
  let full := Files.joinPath s.cwd path
  let context := "invalid config in " ++ path
  let text ← match disk.get? (Files.normalize full) with
    | some (.text t) => pure t
    | some (.log _) => pure ""
    | some (.database _) => pure ""
    | _ => throw ["config file not found: " ++ path]
  let origin := Origin.file full
  let fileLayer ← match Yaml.Data.load text with
    | .ok d => pure (Layered.ofData origin d)
    | .error msg => throw [context, msg ++ " in " ++ origin.describe s.cwd]
  let merged := (baseLayer.merge fileLayer).merge (envLayer s.vars)
  let config ← (readApp merged).mapError fun e => [context, e.message s.cwd]
  let (server, disk) ← (s.normalizeHome disk config.server).mapError
    ("Failed to resolve server.home_dir" :: ·)
  return ({ config with server }, disk)

/-- The configuration from a file when one is named, else the built-in one. -/
def loadOrDefault (s : Surroundings) (disk : Files.Disk) :
    Option String → Except (List String) (AppConfig × Files.Disk)
  | some path => loadLayered s disk path
  | none => do
    let c := AppConfig.builtin
    let (server, disk) ← (s.normalizeHome disk c.server).mapError
      ("Failed to resolve server.home_dir (defaults)" :: ·)
    return ({ c with server }, disk)

end Folio.Config
