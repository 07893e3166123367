import Folio.Log.Event

namespace Folio.Log

def defaultSection : String := "default"

structure Section where
  consoleLevel : String
  file : String := ""
  fileLevel : String := ""
  maxBackups : Option Nat := none
  maxSizeMb : Option Nat := none
  deriving DecidableEq, Repr

def Section.hasFile (s : Section) : Bool := !(Text.trim s.file).isEmpty

/-- A level filter: a threshold for all targets, and thresholds by target prefix. -/
structure Targets where
  fallback : Threshold
  byPrefix : List (String × Threshold)
  deriving Repr

/-- The threshold of the longest prefix of a target that the filter names, else the fallback. -/
def Targets.threshold (f : Targets) (target : String) : Threshold :=
  let hits := f.byPrefix.filter fun (p, _) => p.isPrefixOf target
  match hits.foldl (fun best (p, t) =>
      match best with
      | some (q, _) => if q.length < p.length then some (p, t) else best
      | none => some (p, t)) none with
  | some (_, t) => t
  | none => f.fallback

def Targets.admits (f : Targets) (target : String) (l : Level) : Bool :=
  (f.threshold target).admits l

/-- The level filter of the log files. A section takes part when it names a file; the default
section also needs its file to have opened. -/
def fileTargets (cfg : List (String × Section)) (defaultOpened : Bool) : Targets :=
  let fallback := match cfg.lookup defaultSection with
    | some s => if s.hasFile && defaultOpened then Threshold.parse s.fileLevel else none
    | none => none
  ⟨fallback, (cfg.filter fun (k, s) => k != defaultSection && s.hasFile).map
    fun (k, s) => (k, Threshold.parse s.fileLevel)⟩

def consoleTargets (cfg : List (String × Section)) : Targets :=
  let fallback := match cfg.lookup defaultSection with
    | some s => Threshold.parse s.consoleLevel
    | none => some .info
  ⟨fallback, (cfg.filter fun (k, _) => k != defaultSection).map
    fun (k, s) => (k, Threshold.parse s.consoleLevel)⟩

/-- A target is the prefix itself or lies below it in the module path. -/
def underTarget (target pre : String) : Bool :=
  target == pre || (pre ++ "::").isPrefixOf target

/-- The files events go to: the default file and the files of the other sections, each with the
file name its section gives. -/
structure Router where
  fallback : Option String
  byTarget : List (String × String)
  deriving Repr

/-- The file of a target: that of the longest section key it lies under, else the default. -/
def Router.resolve (r : Router) (target : String) : Option String :=
  let hits := r.byTarget.filter fun (p, _) => underTarget target p
  match hits.foldl (fun best (p, f) =>
      match best with
      | some (q, _) => if q.length < p.length then some (p, f) else best
      | none => some (p, f)) none with
  | some (_, f) => some f
  | none => r.fallback

def router (cfg : List (String × Section)) (opens : String → Bool) : Router :=
  let named := cfg.filter fun (_, s) => s.hasFile && opens (Text.trim s.file)
  ⟨(named.lookup defaultSection).map fun s => Text.trim s.file,
    (named.filter fun (k, _) => k != defaultSection).map fun (k, s) => (k, Text.trim s.file)⟩

def fileOf (cfg : List (String × Section)) (opens : String → Bool) (e : Event) : Option String :=
  let r := router cfg opens
  let defaultOpened := r.fallback.isSome
  if (fileTargets cfg defaultOpened).admits e.target e.level then r.resolve e.target else none

end Folio.Log
