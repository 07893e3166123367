import Folio.Log.Route
import Folio.Files.Path
import Folio.Json

namespace Folio.Log

def Value.console : Value → String
  | .text s => s
  | .num n => toString n
  | .flag b => toString b

def Event.consoleLine (e : Event) : String :=
  e.level.text ++ " " ++ e.target ++ ": " ++ e.message ++
    String.join (e.fields.map fun (k, v) => " " ++ k ++ "=" ++ v.console)

def Value.json : Value → JsonValue
  | .text s => .str s
  | .num n => .int n
  | .flag b => .bool b

def Span.json (s : Span) : JsonValue := .obj (s.fields.map (fun (k, v) => (k, v.json)) ++
    [("name", .str s.name)])

/-- An event as a line of a JSON log file: level, fields with the message first, target, then
the innermost span and all spans when it has any. -/
def Event.jsonLine (e : Event) : String :=
  let base := [("level", JsonValue.str e.level.text),
    ("fields", .obj (("message", .str e.message) :: e.fields.map fun (k, v) => (k, v.json))),
    ("target", .str e.target)]
  let spans := match e.spans.getLast? with
    | some s => [("span", s.json), ("spans", .arr (e.spans.map Span.json))]
    | none => []
  (JsonValue.obj (base ++ spans)).render

/-- Installed logging: the sections, the directory relative file names lie below, and the file
names of the sections whose file opened. -/
structure Output where
  cfg : List (String × Section)
  home : String
  opened : List String

def Output.path (o : Output) (file : String) : String := Files.normalize
    (Files.joinPath o.home file)

/-- Opens one section's file. Gives the disk with the file's directory and the file, or the
report of why the directory could not be made. -/
def openFile (home : String) (disk : Files.Disk) (target file : String) :
    Except String Files.Disk :=
  let path := Files.joinPath home file
  let made := match Files.parent? path with
    | some dir => (disk.makeDirs dir).map Prod.fst
    | none => .ok disk
  match made with
  | .error io => .error ("Failed to open log file '" ++ path ++ "' for '" ++ target ++ "': " ++ io)
  | .ok disk =>
    let key := Files.normalize path
    match disk.get? key with
    | none => .ok (disk.put key (.log []))
    | some _ => .ok disk

/-- Installs the logging of a configuration: the output, the disk with the opened files, and
the reports of the files that did not open, in section order. -/
def Output.install (cfg : List (String × Section)) (home : String) (disk : Files.Disk) :
    Output × Files.Disk × List String :=
  let step := fun (acc : List String × Files.Disk × List String) (entry : String × Section) =>
    let (opened, disk, reports) := acc
    let (target, s) := entry
    if !s.hasFile then acc
    else
      let file := Text.trim s.file
      match openFile home disk target file with
      | .ok disk => (opened ++ [file], disk, reports)
      | .error r => (opened, disk, reports ++ [r])
  let (opened, disk, reports) := cfg.foldl step ([], disk, [])
  (⟨cfg, home, opened⟩, disk, reports)

def Output.console (o : Output) (e : Event) : Option String :=
  if (consoleTargets o.cfg).admits e.target e.level then some e.consoleLine else none

/-- Writes an event to its file, if it has one; a file that is not a log file takes nothing. -/
def Output.record (o : Output) (disk : Files.Disk) (e : Event) : Files.Disk :=
  match fileOf o.cfg (fun f => o.opened.contains f) e with
  | some f =>
    let p := o.path f
    match disk.get? p with
    | some (.log es) => disk.put p (.log (es ++ [e]))
    | _ => disk
  | none => disk

end Folio.Log
