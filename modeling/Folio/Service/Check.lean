import Folio.Config.Types
import Folio.Yaml.Emit
import Folio.Json
import Folio.Service.Database

namespace Folio.Config

def optionalNode {α : Type} (f : α → Yaml.Node) : Option α → Yaml.Node
  | some a => f a
  | none => .plain "null"

def natNode (n : Nat) : Yaml.Node := .plain (toString n)

def sectionNode (s : Log.Section) : Yaml.Node :=
  .map [("console_level", .text s.consoleLevel), ("file", .text s.file),
    ("file_level", .text s.fileLevel), ("max_backups", optionalNode natNode s.maxBackups),
    ("max_size_mb", optionalNode natNode s.maxSizeMb)]

def AppConfig.node (c : AppConfig) : Yaml.Node :=
  .map [
    ("server", .map [("home_dir", .text c.server.homeDir), ("host", .text c.server.host),
      ("port", natNode c.server.port), ("timeout_sec", natNode c.server.timeoutSec)]),
    ("links", .map [("protocol", .text c.links.protocol),
      ("host", optionalNode Yaml.Node.text c.links.host)]),
    ("database", optionalNode (fun d => .map [("url", .text d.url),
      ("max_conns", optionalNode natNode d.maxConns)]) c.database),
    ("logging", optionalNode (fun ls => .map (ls.map fun (k, s) => (k, sectionNode s)))
      c.logging)]

def AppConfig.yaml (c : AppConfig) : String := c.node.render

def sectionJson (s : Log.Section) : JsonValue :=
  .obj [("console_level", .str s.consoleLevel), ("file", .str s.file),
    ("file_level", .str s.fileLevel), ("max_backups", JsonValue.opt JsonValue.nat s.maxBackups),
    ("max_size_mb", JsonValue.opt JsonValue.nat s.maxSizeMb)]

def ServerConfig.toJson (s : ServerConfig) : JsonValue :=
  .obj [("home_dir", .str s.homeDir), ("host", .str s.host), ("port", .nat s.port),
    ("timeout_sec", .nat s.timeoutSec)]

def LinksConfig.toJson (l : LinksConfig) : JsonValue :=
  .obj [("protocol", .str l.protocol), ("host", JsonValue.opt JsonValue.str l.host)]

def DatabaseConfig.toJson (d : DatabaseConfig) : JsonValue :=
  .obj [("url", .str d.url), ("max_conns", JsonValue.opt JsonValue.nat d.maxConns)]

def AppConfig.toJson (c : AppConfig) : JsonValue :=
  let link := c.linkConfig
  .obj [("server", c.server.toJson), ("links", c.links.toJson),
    ("link_config", .obj [("protocol", .str link.protocol), ("host", .str link.host)]),
    ("database", JsonValue.opt DatabaseConfig.toJson c.database),
    ("logging", JsonValue.opt (fun ls => JsonValue.obj (ls.map fun (k, s) => (k, sectionJson s)))
      c.logging)]

end Folio.Config

namespace Folio.Service

/-- The printed lines of a passing check, or why it failed, with the events logged on the
way. -/
def checkConfig (c : Config.AppConfig)
    (disk : Files.Disk) : List Log.Event × Except String String :=
  let start := [serverEvent "Checking configuration..."]
  let dsnOk : Except String Unit :=
    match c.database with
    | some db =>
      if db.url.startsWith "sqlite:" then
        (fun _ => ()) <$> absolutizeSqlite (Text.trim db.url) c.server.homeDir false disk
      else pure ()
    | none => pure ()
  match dsnOk with
  | .error e => (start, .error e)
  | .ok () =>
    match c.linkConfig.baseUrl "" with
    | .error e => (start, .error e.message)
    | .ok _ =>
      (start ++ [serverEvent "Configuration is valid"],
        .ok ("Configuration check passed\n" ++ c.yaml ++ "\n"))

end Folio.Service
