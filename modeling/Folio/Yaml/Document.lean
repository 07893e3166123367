import Folio.Yaml.Event
import Folio.Yaml.Scalar

namespace Folio.Yaml

/-- Data as a configuration reads it: resolved scalars, lists, and maps with text keys kept
in sorted order. -/
inductive Data where
  | scalar (s : Scalar)
  | list (items : List Data)
  | dict (entries : List (String × Data))
deriving Repr, Inhabited

def insertSorted {α : Type} (k : String) (v : α) : List (String × α) → List (String × α)
  | [] => [(k, v)]
  | (k2, v2) :: rest =>
    if k < k2 then (k, v) :: (k2, v2) :: rest
    else if k == k2 then (k, v) :: rest
    else (k2, v2) :: insertSorted k v rest

/-- An event of a loaded document, with aliases resolved to the index of their target. -/
inductive Piece where
  | scalar (value : String) (style : ScalarStyle) (tag : Option String)
  | alias (target : Nat)
  | sequenceStart
  | sequenceEnd
  | mappingStart
  | mappingEnd
  | void
deriving Repr, Inhabited

/-- The first document's pieces, the error that cut them short, and the parser positioned
after the document when it ended normally. -/
structure Loaded where
  pieces : Array (Piece × Mark) := #[]
  error : Option String := none
  rest : Option Parser := none

/-- Gather the events of the first document. -/
def gather : Nat → Parser → List (String × Nat) → Array (Piece × Mark) → Loaded
  | 0, _, _, pieces => { pieces }
  | fuel + 1, p, anchors, pieces =>
    match nextEvent.run p with
    | .error e => { pieces, error := some e.message }
    | .ok (none, _) => { pieces }
    | .ok (some ev, p) =>
      let anchored (a : Option String) : List (String × Nat) :=
        match a with
        | some name => (name, pieces.size) :: anchors
        | none => anchors
      match ev.kind with
      | .streamStart => gather fuel p anchors pieces
      | .documentStart _ => gather fuel p anchors pieces
      | .streamEnd =>
        { pieces := if pieces.isEmpty then #[(.void, ev.start)] else pieces }
      | .documentEnd _ => { pieces, rest := some p }
      | .alias name =>
        match anchors.lookup name with
        | some i => gather fuel p anchors (pieces.push (.alias i, ev.start))
        | none =>
          { pieces,
            error := some ("unknown anchor" ++ (if ev.start.isStart then "" else " at " ++ ev.start.text)) }
      | .scalar a tag value style =>
        gather fuel p (anchored a) (pieces.push (.scalar value style tag, ev.start))
      | .sequenceStart a _ _ => gather fuel p (anchored a) (pieces.push (.sequenceStart, ev.start))
      | .sequenceEnd => gather fuel p anchors (pieces.push (.sequenceEnd, ev.start))
      | .mappingStart a _ _ => gather fuel p (anchored a) (pieces.push (.mappingStart, ev.start))
      | .mappingEnd => gather fuel p anchors (pieces.push (.mappingEnd, ev.start))

/-- Why reading stopped: the events ran out, or a message. -/
inductive Fault where
  | exhausted
  | failed (message : String)
deriving Inhabited

def faultAt (path : String) (m : Mark) (msg : String) : Fault :=
  .failed ((if path == "." then "" else path ++ ": ") ++ msg ++
    (if m.isStart then "" else " at " ++ m.text))

def childPath (path key : String) : String := if path == "." then key else path ++ "." ++ key

def unknownPath (path : String) : String := if path == "." then "?" else path ++ ".?"

def tagPrefix : String := "tag:yaml.org,2002:"

/-- What a scalar means, by its tag or, untagged and plain, by its text. -/
def scalarMeaning (path : String) (m : Mark) (value : String) (style : ScalarStyle) :
    Option String → Except Fault Scalar
  | none => pure (if style == .plain then Scalar.resolve value else .text value)
  | some tag =>
    let wrong (expected : String) : Except Fault Scalar :=
      throw (faultAt path m ("invalid value: string " ++ Text.quoted value ++ ", expected " ++ expected))
    if tag == tagPrefix ++ "bool" then
      match boolText? value with
      | some b => pure (.bool b)
      | none => wrong "a boolean"
    else if tag == tagPrefix ++ "int" then
      match unsignedIn? (Nat.pow 2 64) value, signedIn? (Nat.pow 2 63) value with
      | some n, _ => pure (.unsigned n)
      | none, some i => pure (.signed i)
      | none, none =>
        match unsignedIn? (Nat.pow 2 128) value, signedIn? (Nat.pow 2 127) value with
        | some n, _ => pure (.unsigned n)
        | none, some i => pure (.signed i)
        | none, none => wrong "an integer"
    else if tag == tagPrefix ++ "float" then
      match floatText? value with
      | some f => pure (.float f)
      | none => wrong "a float"
    else if tag == tagPrefix ++ "null" then
      if isNullText value then pure .null else wrong "null"
    else if tag.startsWith "!" && style == .plain then pure (Scalar.resolve value)
    else pure (.text value)

mutual

/-- Read one value at `pos`, giving it and the position after it. -/
def readValue (pieces : Array (Piece × Mark)) : Nat → Nat → String → Nat → Except Fault (Data × Nat)
  | 0, _, _, _ => throw (.failed "repetition limit exceeded")
  | fuel + 1, depth, path, pos =>
    match pieces[pos]? with
    | none => throw .exhausted
    | some (piece, m) =>
      match piece with
      | .scalar value style tag => do
        let s ← scalarMeaning path m value style tag
        pure (.scalar s, pos + 1)
      | .alias target => do
        let (d, _) ← readValue pieces fuel depth path target
        pure (d, pos + 1)
      | .sequenceStart =>
        if depth == 0 then
          throw (.failed ("recursion limit exceeded" ++ (if m.isStart then "" else " at " ++ m.text)))
        else readItems pieces fuel (depth - 1) path 0 (pos + 1) []
      | .mappingStart =>
        if depth == 0 then
          throw (.failed ("recursion limit exceeded" ++ (if m.isStart then "" else " at " ++ m.text)))
        else readEntries pieces fuel (depth - 1) path (pos + 1) []
      | _ => pure (.scalar .null, pos + 1)

def readItems (pieces : Array (Piece × Mark)) : Nat → Nat → String → Nat → Nat → List Data →
    Except Fault (Data × Nat)
  | 0, _, _, _, _, _ => throw (.failed "repetition limit exceeded")
  | fuel + 1, depth, path, index, pos, acc =>
    match pieces[pos]? with
    | none => throw .exhausted
    | some (.sequenceEnd, _) => pure (.list acc.reverse, pos + 1)
    | some _ => do
      let (d, next) ← readValue pieces fuel depth (path ++ "[" ++ toString index ++ "]") pos
      readItems pieces fuel depth path (index + 1) next (d :: acc)

/-- The entries of a map up to its end; every key is read as text. -/
def readEntries (pieces : Array (Piece × Mark)) : Nat → Nat → String → Nat →
    List (String × Data) → Except Fault (Data × Nat)
  | 0, _, _, _, _ => throw (.failed "repetition limit exceeded")
  | fuel + 1, depth, path, pos, acc =>
    match pieces[pos]? with
    | none => throw .exhausted
    | some (.mappingEnd, _) => pure (.dict acc, pos + 1)
    | some (.void, _) => pure (.dict acc, pos + 1)
    | some (piece, _) => do
      let direct := match piece with
        | .scalar value _ _ => some value
        | _ => none
      let (key, next) ← readKey pieces fuel path pos
      let valuePath := match direct with
        | some k => childPath path k
        | none => unknownPath path
      let (v, next) ← readValue pieces fuel depth valuePath next
      readEntries pieces fuel depth path next (insertSorted key v acc)

def readKey (pieces : Array (Piece × Mark)) : Nat → String → Nat → Except Fault (String × Nat)
  | 0, _, _ => throw (.failed "repetition limit exceeded")
  | fuel + 1, path, pos =>
    match pieces[pos]? with
    | none => throw .exhausted
    | some (piece, m) =>
      match piece with
      | .scalar value _ _ => pure (value, pos + 1)
      | .alias target => do
        let (k, _) ← readKey pieces fuel path target
        pure (k, pos + 1)
      | .sequenceStart => throw (faultAt path m "invalid type: sequence, expected a string")
      | .mappingStart => throw (faultAt path m "invalid type: map, expected a string")
      | _ => throw .exhausted

end

def nestingLimit : Nat := 128

def readTop (pieces : Array (Piece × Mark)) : Except Fault Data :=
  let fuel := 200 * pieces.size + 1000
  match pieces[0]? with
  | none => throw .exhausted
  | some (piece, m) =>
    match piece with
    | .mappingStart => (·.1) <$> readEntries pieces fuel (nestingLimit - 1) "." 1 []
    | .void => pure (.dict [])
    | .scalar value style tag =>
      if value.isEmpty && style == .plain then pure (.dict [])
      else do
        let s ← scalarMeaning "." m value style tag
        throw (faultAt "." m ("invalid type: " ++ s.unexpected ++ ", expected a map"))
    | .sequenceStart => throw (faultAt "." m "invalid type: sequence, expected a map")
    | _ => throw .exhausted

def moreDocuments (p : Parser) : Bool :=
  match nextEvent.run p with
  | .error _ => true
  | .ok (some ev, _) => match ev.kind with
    | .streamEnd => false
    | _ => true
  | .ok (none, _) => false

/-- Read a YAML text whose single document is a map. -/
def Data.load (text : String) : Except String Data :=
  match Scanner.start text with
  | .error e => throw e.message
  | .ok scanner =>
    let loaded := gather (8 * (text.length + 4)) { scanner } [] #[]
    match readTop loaded.pieces with
    | .error .exhausted => throw (loaded.error.getD "EOF while parsing a value")
    | .error (.failed msg) => throw msg
    | .ok d =>
      match loaded.error with
      | some e => throw e
      | none =>
        match loaded.rest with
        | some p =>
          if moreDocuments p then
            throw "deserializing from YAML containing more than one document is not supported"
          else pure d
        | none => pure d

end Folio.Yaml
