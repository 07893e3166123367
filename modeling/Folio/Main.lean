import Folio.Cli.Program

namespace Folio.Cli

/-- The process environment, as `/proc/self/environ` lists it; empty where that cannot be read. -/
def processEnvironment : IO (List (String × String)) := do
  let bytes ← try IO.FS.readBinFile "/proc/self/environ" catch _ => pure ByteArray.empty
  let text := (String.fromUTF8? bytes).getD ""
  return (text.splitOn "\x00").filterMap fun entry =>
    match entry.toList.span (· != '=') with
    | (_, []) => none
    | (name, _ :: value) => some (String.ofList name, String.ofList value)

def directoriesTo (p : String) : List (String × Files.Entry) :=
  ("/", .dir) :: (Files.prefixes p).map fun q => (q, .dir)

/-- The files a run starts from: the directories down to the working directory and the home,
and the configuration file with its text, if it was read. -/
def machineDisk (cwd home : String) (config : Option (String × String)) : Files.Disk :=
  ⟨directoriesTo cwd ++ directoriesTo home ++ config.toList.map fun (p, t) => (p, .text t)⟩

def readConfig (cwd : String) (args : List String) : IO (Option (String × String)) :=
  match read args with
  | .proceed { config := some p, .. } => do
    let full := Files.joinPath cwd p
    try
      let text ← IO.FS.readFile full
      return some (full, text)
    catch _ => return none
  | _ => return none

/-- Writes what a run made: directories that were not there, and the events of each log file,
one JSON line each. -/
def writeFiles (before after : Files.Disk) : IO Unit := do
  for (p, e) in after.entries do
    match e with
    | .dir => if (before.get? p).isNone then IO.FS.createDirAll p
    | .log es =>
      let h ← IO.FS.Handle.mk p .append
      for ev in es do h.putStrLn ev.jsonLine
    | _ => pure ()

end Folio.Cli

def main (args : List String) : IO UInt32 := do
  let cwd := (← IO.currentDir).toString
  let home ← IO.getEnv "HOME"
  let vars ← Folio.Cli.processEnvironment
  let disk := Folio.Cli.machineDisk cwd (home.getD cwd) (← Folio.Cli.readConfig cwd args)
  let m : Folio.Cli.Machine := ⟨cwd, home, vars, disk⟩
  let o := m.run args
  IO.print o.stdout
  IO.eprint o.stderr
  Folio.Cli.writeFiles disk o.disk
  return o.exitCode.toUInt32
