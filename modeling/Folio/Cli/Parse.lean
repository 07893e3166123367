import Folio.Cli.Options
import Folio.Text.Decimal

namespace Folio.Cli

structure Invocation where
  config : Option String := none
  port : Option Nat := none
  printConfig : Bool := false
  verbose : Nat := 0
  mock : Bool := false
  command : Option Command := none
  deriving DecidableEq, Repr

/-- What a command line comes to: a run with its settings, a text to print before leaving
successfully, or a refusal. -/
inductive Reading where
  | proceed (i : Invocation)
  | inform (text : String)
  | refuse (r : Refusal)
  deriving DecidableEq, Repr

/-- Reading at the top so far: the settings, the options given in the order they were last
taken up, the option waiting for its value with the value once found, and whether `--` was met. -/
structure Progress where
  inv : Invocation := {}
  given : List Opt := []
  waiting : Option (Opt × Option String) := none
  trailing : Bool := false

def verboseLimit : Nat := 255

/-- A port: a signed decimal in the range of ports. -/
def portValue (raw : String) : Except Refusal Nat :=
  match Text.Decimal.signed64 raw with
  | .error f => .error (invalidValue .port raw f.message)
  | .ok n =>
    if 0 ≤ n && n ≤ 65535 then .ok n.toNat
    else .error (invalidValue .port (toString n) (toString n ++ " is not in 0..=65535"))

/-- Takes up an option with its value, if any. An option given before is refused and forgotten;
a counted flag moves to the end of the given options. A value's fault leaves the option given. -/
def Progress.take (p : Progress) (o : Opt) (value : Option String) : Progress × Option Reading :=
  match o with
  | .help => (p, some (.inform Scope.top.help))
  | .version => (p, some (.inform versionText))
  | .verbose =>
    ({ p with inv := { p.inv with verbose := min verboseLimit (p.inv.verbose + 1) },
              given := p.given.erase o ++ [o] }, none)
  | _ =>
    if o.takesValue && value.isNone then (p, some (.refuse (emptyValue o)))
    else if p.given.contains o then ({ p with given := p.given.erase o }, some (.refuse (givenTwice o)))
    else
      let p := { p with given := p.given ++ [o] }
      match o, value with
      | .config, some v =>
        if v.isEmpty then (p, some (.refuse (emptyValue o)))
        else ({ p with inv := { p.inv with config := some v } }, none)
      | .port, some v =>
        match portValue v with
        | .ok n => ({ p with inv := { p.inv with port := some n } }, none)
        | .error r => (p, some (.refuse r))
      | .printConfig, _ => ({ p with inv := { p.inv with printConfig := true } }, none)
      | .mock, _ => ({ p with inv := { p.inv with mock := true } }, none)
      | _, _ => (p, none)

def Progress.settle (p : Progress) : Progress × Option Reading :=
  match p.waiting with
  | none => (p, none)
  | some (o, v) => { p with waiting := none }.take o v

def Progress.react (p : Progress) (o : Opt) (value : Option String) : Except Reading Progress :=
  match p.settle with
  | (_, some r) => .error r
  | (p, none) =>
    match p.take o value with
    | (_, some r) => .error r
    | (p, none) => .ok p

def Progress.await (p : Progress) (o : Opt) : Except Reading Progress :=
  match p.settle with
  | (_, some r) => .error r
  | (p, none) => .ok { p with waiting := some (o, none) }

def splitLong (body : String) : String × Option String :=
  match body.toList.span (· != '=') with
  | (name, []) => (String.ofList name, none)
  | (name, _ :: value) => (String.ofList name, some (String.ofList value))

def Progress.long (p : Progress) (name : String)
    (value : Option String) : Except Reading Progress :=
  match Scope.top.ofLong? name with
  | none => .error (.refuse (unknownLong .top name p.settle.1.given))
  | some o =>
    if o.takesValue then
      match value with
      | some v => p.react o (some v)
      | none => p.await o
    else
      match value with
      | some v => .error (.refuse (needlessValue .top o v (p.given ++ [o])))
      | none => p.react o none

/-- Reads a cluster of short flags at the top; a flag that takes a value takes the rest of the
cluster, without a leading `=`, or else the next word. -/
def Progress.cluster (p : Progress) : List Char → Except Reading Progress
  | [] => .ok p
  | c :: cs =>
    match Scope.top.ofShort? c with
    | none => .error (.refuse (unknownShort .top c))
    | some o =>
      if o.takesValue then
        match cs with
        | [] => p.await o
        | '=' :: v => p.react o (some (String.ofList v))
        | v => p.react o (some (String.ofList v))
      else
        match p.react o none with
        | .error r => .error r
        | .ok p => p.cluster cs

def isCluster (w : String) : Bool := w.startsWith "-" && w.length > 1

/-- How reading at the top ends: the words ran out, a subcommand begins with the words after
it, or the reading is decided. -/
inductive TopEnd where
  | done (p : Progress)
  | enter (p : Progress) (c : Command) (rest : List String)
  | decided (r : Reading)

/-- Reads the words after `help`: subcommand names down to the one whose help is printed. -/
def helpPath (s : Scope) : List String → Reading
  | [] => .inform s.help
  | w :: ws =>
    match s, w with
    | .top, "help" => helpPath .helper ws
    | .top, w =>
      match Command.ofName? w with
      | some c => helpPath (.sub c) ws
      | none => .refuse (unknownSubcommand s w)
    | s, w => .refuse (unknownSubcommand s w)

def Progress.next (p : Progress) (w : String) : Except Reading Progress :=
  if w == "--" then .ok { p with trailing := true }
  else if w.startsWith "--" then
    let (name, value) := splitLong (String.ofList (w.toList.drop 2))
    p.long name value
  else if isCluster w then p.cluster (w.toList.drop 1)
  else
    match p.waiting with
    | some (o, none) => .ok { p with waiting := some (o, some w) }
    | _ => .error (.refuse (strayWord .top w false))

def topWords (p : Progress) : List String → TopEnd
  | [] => .done p
  | w :: ws =>
    if p.trailing then .decided (.refuse (strayWord .top w true))
    else if w == "help" then .decided (helpPath .top ws)
    else
      match Command.ofName? w with
      | some c => .enter p c ws
      | none =>
        match p.next w with
        | .error r => .decided r
        | .ok p => topWords p ws

/-- Reads the words after a command, which takes only the help flag. Gives what decides the
reading, if anything does. -/
def subWords (c : Command) (trailing : Bool) : List String → Option Reading
  | [] => none
  | w :: ws =>
    let s := Scope.sub c
    if trailing then some (.refuse (strayWord s w true))
    else if w == "--" then subWords c true ws
    else if w.startsWith "--" then
      match splitLong (String.ofList (w.toList.drop 2)) with
      | ("help", none) => some (.inform s.help)
      | ("help", some v) => some (.refuse (needlessValue s .help v [.help]))
      | (name, _) => some (.refuse (unknownLong s name []))
    else if isCluster w then
      match w.toList.drop 1 with
      | 'h' :: _ => some (.inform s.help)
      | c :: _ => some (.refuse (unknownShort s c))
      | [] => none
    else some (.refuse (strayWord s w false))

def Progress.finish (p : Progress) (c : Option Command) : Reading :=
  match p.settle with
  | (_, some r) => r
  | (p, none) => .proceed { p.inv with command := c }

def read (args : List String) : Reading :=
  match topWords {} args with
  | .decided r => r
  | .done p => p.finish none
  | .enter p c rest =>
    match subWords c false rest with
    | some r => r
    | none => p.finish (some c)

end Folio.Cli
