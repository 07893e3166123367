import Folio.Text.Jaro

namespace Folio.Cli

def programName : String := "listing-server"

def programVersion : String := "0.1.0"

def programAbout : String := "Listing Server - filterable, paginated /posts endpoint"

inductive Command where
  | run
  | check
  deriving DecidableEq, Repr

def Command.name : Command → String
  | .run => "run"
  | .check => "check"

def Command.about : Command → String
  | .run => "Start the server"
  | .check => "Check configuration"

def Command.ofName? : String → Option Command
  | "run" => some .run
  | "check" => some .check
  | _ => none

def subcommandNames : List String := ["run", "check", "help"]

def helpAbout : String := "Print this message or the help of the given subcommand(s)"

inductive Opt where
  | config
  | port
  | printConfig
  | verbose
  | mock
  | help
  | version
  deriving DecidableEq, Repr

def Opt.all : List Opt := [.config, .port, .printConfig, .verbose, .mock, .help, .version]

def Opt.long : Opt → String
  | .config => "config"
  | .port => "port"
  | .printConfig => "print-config"
  | .verbose => "verbose"
  | .mock => "mock"
  | .help => "help"
  | .version => "version"

def Opt.short : Opt → Option Char
  | .config => some 'c'
  | .port => some 'p'
  | .verbose => some 'v'
  | .help => some 'h'
  | .version => some 'V'
  | _ => none

def Opt.valueName : Opt → Option String
  | .config => some "CONFIG"
  | .port => some "PORT"
  | _ => none

def Opt.takesValue (o : Opt) : Bool := o.valueName.isSome

def Opt.about : Opt → String
  | .config => "Path to configuration file"
  | .port => "Port for HTTP server (overrides config)"
  | .printConfig => "Print current configuration and exit"
  | .verbose => "Log verbosity level (-v debug, -vv trace)"
  | .mock => "Serve generated posts from memory instead of the database"
  | .help => "Print help"
  | .version => "Print version"

/-- An option as messages and usage lines write it: its long form, then its value or, for a
counted flag, an ellipsis. -/
def Opt.spec (o : Opt) : String :=
  "--" ++ o.long ++
    match o.valueName, o with
    | some v, _ => " <" ++ v ++ ">"
    | none, .verbose => "..."
    | none, _ => ""

/-- Where on the command line a word is read: at the top, after a command, or after `help`. -/
inductive Scope where
  | top
  | sub (c : Command)
  | helper
  deriving DecidableEq, Repr

def Scope.options : Scope → List Opt
  | .top => Opt.all
  | .sub _ => [.help]
  | .helper => []

def Scope.ofLong? (s : Scope) (name : String) : Option Opt := s.options.find? (·.long == name)

def Scope.ofShort? (s : Scope) (c : Char) : Option Opt := s.options.find? (·.short == some c)

def Scope.words : Scope → String
  | .top => programName
  | .sub c => programName ++ " " ++ c.name
  | .helper => programName ++ " help"

def Scope.usage : Scope → String
  | .top => programName ++ " [OPTIONS] [COMMAND]"
  | .sub c => programName ++ " " ++ c.name
  | .helper => programName ++ " help [COMMAND]..."

def Scope.usageWith (s : Scope) (given : List Opt) : String :=
  if given.isEmpty then s.usage
  else s.words ++ String.join ((given.eraseDups).map fun o => " " ++ o.spec)

def columns (rows : List (String × String)) : String :=
  let width := rows.foldl (fun w r => max w r.1.length) 0
  "\n".intercalate (rows.map fun (l, r) =>
    "  " ++ l ++ String.ofList (List.replicate (width - l.length + 2) ' ') ++ r)

def Opt.helpColumn (o : Opt) : String :=
  (match o.short with
    | some c => "-" ++ String.singleton c ++ ", "
    | none => "    ") ++ o.spec

def optionRows (os : List Opt) : String := columns (os.map fun o => (o.helpColumn, o.about))

def Scope.help : Scope → String
  | .top =>
    programAbout ++ "\n\nUsage: " ++ Scope.top.usage ++ "\n\nCommands:\n" ++
      columns [("run", Command.run.about), ("check", Command.check.about), ("help", helpAbout)] ++
      "\n\nOptions:\n" ++ optionRows Opt.all ++ "\n"
  | .sub c =>
    c.about ++ "\n\nUsage: " ++ (Scope.sub c).usage ++ "\n\nOptions:\n" ++ optionRows [.help] ++ "\n"
  | .helper =>
    helpAbout ++ "\n\nUsage: " ++ Scope.helper.usage ++ "\n\nArguments:\n" ++
      columns [("[COMMAND]...", "Print help for the subcommand(s)")] ++ "\n"

def versionText : String := programName ++ " " ++ programVersion ++ "\n"

/-- Why a command line is refused: the message, tips under it, and the usage line to show. -/
structure Refusal where
  message : String
  tips : List String := []
  usage : Option String := none
  deriving DecidableEq, Repr

/-- A refusal as printed: the message, the tips after a blank line, the usage line, and where to
find help. -/
def Refusal.text (r : Refusal) : String :=
  "error: " ++ r.message ++
    (if r.tips.isEmpty then "" else "\n" ++ String.join (r.tips.map fun t => "\n  tip: " ++ t)) ++
    (match r.usage with
      | some u => "\n\nUsage: " ++ u
      | none => "") ++
    "\n\nFor more information, try '--help'.\n"

def quoteWord (w : String) : String := "'" ++ w ++ "'"

def emptyValue (o : Opt) : Refusal :=
  { message := "a value is required for " ++ quoteWord o.spec ++ " but none was supplied" }

def invalidValue (o : Opt) (shown reason : String) : Refusal :=
  { message := "invalid value " ++ quoteWord shown ++ " for " ++ quoteWord o.spec ++ ": " ++ reason }

def givenTwice (o : Opt) : Refusal :=
  { message := "the argument " ++ quoteWord o.spec ++ " cannot be used multiple times",
    usage := some Scope.top.usage }

def needlessValue (s : Scope) (o : Opt) (value : String) (given : List Opt) : Refusal :=
  { message := "unexpected value " ++ quoteWord value ++ " for " ++ quoteWord o.spec ++
      " found; no more were expected",
    usage := some (s.usageWith given) }

/-- An unknown long option; the most similar known one, if any, is suggested and shown in the
usage line with the options given so far. -/
def unknownLong (s : Scope) (name : String) (given : List Opt) : Refusal :=
  let message := "unexpected argument " ++ quoteWord ("--" ++ name) ++ " found"
  match ((Text.similarTo name (s.options.map Opt.long)).getLast?).bind s.ofLong? with
  | some o =>
    { message, tips := ["a similar argument exists: " ++ quoteWord ("--" ++ o.long)],
      usage := some (s.usageWith (if given.contains o then given else given ++ [o])) }
  | none => { message, usage := some (s.usageWith given) }

def unknownShort (s : Scope) (c : Char) : Refusal :=
  { message := "unexpected argument " ++ quoteWord ("-" ++ String.singleton c) ++ " found",
    usage := some s.usage }

/-- A word that is neither an option nor a subcommand. At the top it is taken for a misspelt
subcommand; after `--`, a subcommand's name is refused with a tip to drop the `--`. -/
def strayWord (s : Scope) (w : String) (trailing : Bool) : Refusal :=
  match s with
  | .top =>
    if trailing && subcommandNames.contains w then
      { message := "unexpected argument " ++ quoteWord w ++ " found",
        tips := ["subcommand " ++ quoteWord w ++ " exists; to use it, remove the '--' before it"],
        usage := some s.usage }
    else
      let message := "unrecognized subcommand " ++ quoteWord w
      match Text.similarTo w subcommandNames with
      | [] => { message, usage := some s.usage }
      | [c] => { message, tips := ["a similar subcommand exists: " ++ quoteWord c], usage := some s.usage }
      | cs => { message, tips := ["some similar subcommands exist: " ++ ", ".intercalate (cs.map quoteWord)],
                usage := some s.usage }
  | _ => { message := "unexpected argument " ++ quoteWord w ++ " found", usage := some s.usage }

def unknownSubcommand (s : Scope) (w : String) : Refusal :=
  { message := "unrecognized subcommand " ++ quoteWord w, usage := some s.usage }

end Folio.Cli
