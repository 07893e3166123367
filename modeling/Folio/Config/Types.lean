import Folio.Log.Route
import Folio.Link

namespace Folio.Config

structure ServerConfig where
  homeDir : String := ""
  host : String := "127.0.0.1"
  port : Nat := 8087
  timeoutSec : Nat := 0
  deriving DecidableEq, Repr

/-- The protocol and host clients use to reach the server; without a host the server's own
address is used. -/
structure LinksConfig where
  protocol : String := "http"
  host : Option String := none
  deriving DecidableEq, Repr

structure DatabaseConfig where
  url : String
  maxConns : Option Nat := none
  deriving DecidableEq, Repr

structure AppConfig where
  server : ServerConfig := {}
  links : LinksConfig := {}
  database : Option DatabaseConfig := none
  logging : Option (List (String × Log.Section)) := none
  deriving DecidableEq, Repr

/-- The logging of a configuration without its own: one default section, informative on the
console and verbose into `logs/listing.log`. -/
def defaultLogging : List (String × Log.Section) :=
  [("default",
    { consoleLevel := "info", file := "logs/listing.log", fileLevel := "debug"
      maxBackups := some 3, maxSizeMb := some 100 })]

def AppConfig.builtin : AppConfig :=
  { database := some { url := "sqlite://database/listing.db", maxConns := some 10 },
    logging := some defaultLogging }

/-- The link base of a configuration: the configured host when it is not blank, else the
server's address. -/
def AppConfig.linkConfig (c : AppConfig) : LinkConfig :=
  let host := match c.links.host with
    | some h => if (Text.trim h).isEmpty then c.server.host ++ ":" ++ toString c.server.port
      else Text.trim h
    | none => c.server.host ++ ":" ++ toString c.server.port
  ⟨c.links.protocol, host⟩

structure CliOverrides where
  port : Option Nat := none
  verbose : Nat := 0
  deriving DecidableEq, Repr

/-- Applies command line settings: the port, and the console level of the default logging
section (debug for one `-v`, trace for more). A configuration without logging gets the default
logging first. -/
def AppConfig.applyCli (c : AppConfig) (o : CliOverrides) : AppConfig :=
  let server := match o.port with
    | some p => { c.server with port := p }
    | none => c.server
  let logging := (c.logging.getD defaultLogging).map fun (k, s) =>
    if k = Log.defaultSection then
      match o.verbose with
      | 0 => (k, s)
      | 1 => (k, { s with consoleLevel := "debug" })
      | _ => (k, { s with consoleLevel := "trace" })
    else (k, s)
  { c with server := server, logging := some logging }

end Folio.Config
