import Folio.Cli.Parse
import Folio.Config.Load
import Folio.Service.Check
import Folio.Log.Output

namespace Folio.Cli

/-- What a run sees of its machine: the working directory, the user's home, the environment
in the order the program reads it, and the files. -/
structure Machine where
  cwd : String
  userHome : Option String
  vars : List (String × String) := []
  disk : Files.Disk

structure Outcome where
  exitCode : Nat
  stdout : String := ""
  stderr : String := ""
  disk : Files.Disk
  serves : Bool := false

/-- A run under way: what it has written, the files, and its logging. -/
structure Trace where
  stdout : String := ""
  stderr : String := ""
  disk : Files.Disk
  output : Log.Output

def Trace.say (t : Trace) (line : String) : Trace := { t with stdout := t.stdout ++ line ++ "\n" }

def Trace.complain (t : Trace) (line : String) : Trace :=
    { t with stderr := t.stderr ++ line ++ "\n" }

def Trace.log (t : Trace) (e : Log.Event) : Trace :=
  { t with
    stdout := t.stdout ++ (match t.output.console e with
      | some l => l ++ "\n"
      | none => ""),
    disk := t.output.record t.disk e }

def Trace.logAll (t : Trace) (es : List Log.Event) : Trace := es.foldl Trace.log t

def Trace.exit (t : Trace) (code : Nat) (serves : Bool) : Outcome :=
  ⟨code, t.stdout, t.stderr, t.disk, serves⟩

def failureText (f : Store.Fault) : String := "Error: " ++ f.report

def faultOfChain : List String → Store.Fault
  | [] => ⟨"", []⟩
  | c :: cs => ⟨c, cs⟩

/-- Why the server cannot listen on a host, if it cannot. The loopback and unspecified IPv4
addresses, `localhost` and the IPv6 loopback and unspecified addresses are this machine's; another
IPv4 address is not, and a name the machine cannot resolve fails its lookup. -/
def bindFault (host : String) : Option String :=
  match Url.dottedQuad? host.toList with
  | some [a, b, c, d] =>
    if a = 127 || (a = 0 && b = 0 && c = 0 && d = 0) then none
    else some "Cannot assign requested address (os error 99)"
  | _ =>
    if Text.asciiLower host == "localhost" || host == "[::1]" || host == "[::]" then none
    else some "failed to lookup address information: Temporary failure in name resolution"

def memoryRows : Nat := 100

/-- The events of a server told to stop: its own, then those of the connection loop, which has
no task left. -/
def shutdownEvents : List Log.Event :=
  [Service.serverEvent "HTTP server shutting down gracefully"] ++
    ["received graceful shutdown signal. Telling tasks to shutdown",
     "signal received, not accepting new connections",
     "waiting for 0 task(s) to finish"].map fun m =>
      { level := .trace, target := "axum::serve", message := m }

/-- Serves posts: from the database unless told to mock it or none is configured, else from
memory; then binds the address and serves until a stop signal. -/
def serve (c : Config.AppConfig) (mock : Bool) (cwd : String) (t : Trace) : Outcome :=
  let source : Except (Store.Fault × List Log.Event) (Files.Disk × List Log.Event) :=
    match c.database, mock with
    | some db, false =>
      match Service.connect db c.server.homeDir cwd t.disk with
      | .ok (_, disk, es) => .ok (disk, es)
      | .error e => .error e
    | db, _ =>
      let warn : List Log.Event := if !mock && db.isNone then
          [{ level := .warn, target := "listing_server",
             message := "No database configuration found, serving generated posts" }]
        else []
      .ok (t.disk, warn ++ [Service.serverEvent "Serving posts from memory" [("rows", .num memoryRows)]])
  match source with
  | .error (f, es) => ((t.logAll es).complain (failureText f)).exit 1 false
  | .ok (disk, es) =>
    let t := { t with disk := disk }.logAll es
    match c.linkConfig.baseUrl "" with
    | .error e => (t.complain ("Error: " ++ e.message)).exit 1 false
    | .ok u =>
      let t := t.log (Service.serverEvent "Next-page links" [("base", .text u.serialize)])
      let addr := c.server.host ++ ":" ++ toString c.server.port
      match bindFault c.server.host with
      | some io => (t.complain (failureText ⟨"cannot bind " ++ addr, [io]⟩)).exit 1 false
      | none =>
        let t := t.log (Service.serverEvent ("HTTP server bound on " ++ addr))
        (t.logAll shutdownEvents).exit 0 true

/-- One run of the program with a command line. -/
def Machine.run (m : Machine) (args : List String) : Outcome :=
  match read args with
  | .inform text => { exitCode := 0, stdout := text, disk := m.disk }
  | .refuse r => { exitCode := 2, stderr := r.text, disk := m.disk }
  | .proceed inv =>
    let s : Config.Surroundings := { cwd := m.cwd, userHome := m.userHome, vars := m.vars }
    match Config.loadOrDefault s m.disk inv.config with
    | .error chain =>
      { exitCode := 1, stderr := failureText (faultOfChain chain) ++ "\n", disk := m.disk }
    | .ok (c, disk) =>
      let c := c.applyCli ⟨inv.port, inv.verbose⟩
      let (output, disk, reports) := Log.Output.install (c.logging.getD []) c.server.homeDir disk
      let t : Trace := { disk := disk, output := output, stderr := String.join (reports.map (· ++ "\n")) }
      let t := t.log (Service.serverEvent "Listing Server starting")
      if inv.printConfig then (t.say c.yaml).exit 0 false
      else
        match inv.command.getD .run with
        | .check =>
          let (es, result) := Service.checkConfig c t.disk
          let t := t.logAll es
          match result with
          | .ok text => { t with stdout := t.stdout ++ text }.exit 0 false
          | .error e => (t.complain ("Error: " ++ e)).exit 1 false
        | .run => serve c inv.mock m.cwd t

end Folio.Cli
