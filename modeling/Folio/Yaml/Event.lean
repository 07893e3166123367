import Folio.Yaml.Token.Scan

namespace Folio.Yaml

inductive EventKind where
  | streamStart
  | streamEnd
  | documentStart (implicit : Bool)
  | documentEnd (implicit : Bool)
  | alias (name : String)
  | scalar (anchor tag : Option String) (value : String) (style : ScalarStyle)
  | sequenceStart (anchor tag : Option String) (flow : Bool)
  | sequenceEnd
  | mappingStart (anchor tag : Option String) (flow : Bool)
  | mappingEnd
deriving Repr, Inhabited

structure Event where
  kind : EventKind
  start : Mark
  stop : Mark
deriving Repr, Inhabited

inductive ParseState where
  | streamStart
  | implicitDocumentStart
  | documentStart
  | documentContent
  | documentEnd
  | blockNode
  | blockSequenceFirstEntry
  | blockSequenceEntry
  | indentlessSequenceEntry
  | blockMappingFirstKey
  | blockMappingKey
  | blockMappingValue
  | flowSequenceFirstEntry
  | flowSequenceEntry
  | flowSequenceEntryMappingKey
  | flowSequenceEntryMappingValue
  | flowSequenceEntryMappingEnd
  | flowMappingFirstKey
  | flowMappingKey
  | flowMappingValue
  | flowMappingEmptyValue
  | finished
deriving Repr, BEq, Inhabited

structure Parser where
  scanner : Scanner
  state : ParseState := .streamStart
  states : List ParseState := []
  marks : List Mark := []
  handles : List (String × String) := []

abbrev ParseM := StateT Parser (Except Error)

def liftScan {α : Type} (m : ScanM α) : ParseM α := do
  let p ← get
  let (a, s) ← (m.run p.scanner : Except Error (α × Scanner))
  set { p with scanner := s }
  return a

/-- The next token; past the end of the stream it reads as another stream end. -/
def peek : ParseM Token := do
  match ← liftScan peekToken with
  | some t => pure t
  | none =>
    let m := (← get).scanner.mark
    pure { kind := .streamEnd, start := m, stop := m }

def skipTok : ParseM Unit := liftScan skipToken

def parseFail {α : Type} (context : Option (String × Mark)) (problem : String) (m : Mark) :
    ParseM α :=
  throw { problem, mark := m, context }

def setState (st : ParseState) : ParseM Unit := modify fun p => { p with state := st }

def pushState (st : ParseState) : ParseM Unit := modify fun p => { p with states := st :: p.states }

def popState : ParseM Unit := modify fun p =>
  match p.states with
  | st :: rest => { p with state := st, states := rest }
  | [] => { p with state := .finished }

def pushMark (m : Mark) : ParseM Unit := modify fun p => { p with marks := m :: p.marks }

def popMark : ParseM Mark := do
  let p ← get
  match p.marks with
  | m :: rest =>
    set { p with marks := rest }
    pure m
  | [] => pure {}

def emptyScalar (m : Mark) : Event :=
  { kind := .scalar none none "" .plain, start := m, stop := m }

def TokenKind.isDirective : TokenKind → Bool
  | .versionDirective _ _ => true
  | .tagDirective _ _ => true
  | _ => false

def defaultHandles : List (String × String) := [("!", "!"), ("!!", "tag:yaml.org,2002:")]

def directives : Nat → Bool → ParseM Unit
  | 0, _ => pure ()
  | fuel + 1, seenVersion => do
    let t ← peek
    match t.kind with
    | .versionDirective major minor =>
      if seenVersion then parseFail none "found duplicate %YAML directive" t.start
      if major != 1 || (minor != 1 && minor != 2) then
        parseFail none "found incompatible YAML document" t.start
      skipTok
      directives fuel true
    | .tagDirective handle pre =>
      if (← get).handles.any (·.1 == handle) then
        parseFail none "found duplicate %TAG directive" t.start
      modify fun p => { p with handles := p.handles ++ [(handle, pre)] }
      skipTok
      directives fuel seenVersion
    | _ => pure ()

def parseBound : ParseM Nat := do return (← get).scanner.text.size + 1

def streamStartEvent : ParseM Event := do
  let t ← peek
  setState .implicitDocumentStart
  skipTok
  return { kind := .streamStart, start := t.start, stop := t.stop }

def skipDocumentEnds : Nat → ParseM Token
  | 0 => peek
  | fuel + 1 => do
    let t ← peek
    if t.kind == .documentEnd then
      skipTok
      skipDocumentEnds fuel
    else pure t

def documentStartEvent (implicit : Bool) : ParseM Event := do
  let t ← if implicit then peek else skipDocumentEnds (← parseBound)
  let starts := t.kind.isDirective || t.kind == .documentStart || t.kind == .streamEnd
  if implicit && !starts then
    pushState .documentEnd
    setState .blockNode
    return { kind := .documentStart true, start := t.start, stop := t.start }
  else if t.kind != .streamEnd then
    directives (← parseBound) false
    let t' ← peek
    if t'.kind != .documentStart then
      parseFail none "did not find expected <document start>" t'.start
    pushState .documentEnd
    setState .documentContent
    skipTok
    return { kind := .documentStart false, start := t.start, stop := t'.stop }
  else
    setState .finished
    skipTok
    return { kind := .streamEnd, start := t.start, stop := t.stop }

def documentEndEvent : ParseM Event := do
  let t ← peek
  let explicit := t.kind == .documentEnd
  if explicit then skipTok
  modify fun p => { p with handles := [], state := .documentStart }
  return { kind := .documentEnd (!explicit), start := t.start,
           stop := if explicit then t.stop else t.start }

def resolveTag (start : Mark) (tagMark : Mark) : Option (String × String) → ParseM (Option String)
  | none => pure none
  | some (handle, suffix) => do
    if handle.isEmpty then return some suffix
    match ((← get).handles ++ defaultHandles).find? (·.1 == handle) with
    | some (_, pre) => return some (pre ++ suffix)
    | none => parseFail (some ("while parsing a node", start)) "found undefined tag handle" tagMark

/-- A node: an alias, a scalar, or the start of a collection, with an optional anchor and
tag in either order. -/
def nodeEvent (block indentless : Bool) : ParseM Event := do
  let t ← peek
  if let .alias name := t.kind then
    popState
    skipTok
    return { kind := .alias name, start := t.start, stop := t.stop }
  let start := t.start
  let (anchor, tag, tagMark, stop, t) ← do
    match t.kind with
    | .anchor a =>
      skipTok
      let t2 ← peek
      if let .tag h s := t2.kind then
        skipTok
        pure (some a, some (h, s), t2.start, t2.stop, ← peek)
      else pure (some a, none, start, t.stop, t2)
    | .tag h s =>
      skipTok
      let t2 ← peek
      if let .anchor a := t2.kind then
        skipTok
        pure (some a, some (h, s), t.start, t2.stop, ← peek)
      else pure (none, some (h, s), t.start, t.stop, t2)
    | _ => pure (none, none, start, start, t)
  let tag ← resolveTag start tagMark tag
  if indentless && t.kind == .blockEntry then
    setState .indentlessSequenceEntry
    return { kind := .sequenceStart anchor tag false, start, stop := t.stop }
  match t.kind with
  | .scalar value style =>
    popState
    skipTok
    return { kind := .scalar anchor tag value style, start, stop := t.stop }
  | .flowSequenceStart =>
    setState .flowSequenceFirstEntry
    return { kind := .sequenceStart anchor tag true, start, stop := t.stop }
  | .flowMappingStart =>
    setState .flowMappingFirstKey
    return { kind := .mappingStart anchor tag true, start, stop := t.stop }
  | .blockSequenceStart =>
    if block then
      setState .blockSequenceFirstEntry
      return { kind := .sequenceStart anchor tag false, start, stop := t.stop }
    noContent block anchor tag start stop t
  | .blockMappingStart =>
    if block then
      setState .blockMappingFirstKey
      return { kind := .mappingStart anchor tag false, start, stop := t.stop }
    noContent block anchor tag start stop t
  | _ => noContent block anchor tag start stop t
where
  noContent (block : Bool) (anchor tag : Option String) (start stop : Mark) (t : Token) :
      ParseM Event := do
    if anchor.isSome || tag.isSome then
      popState
      return { kind := .scalar anchor tag "" .plain, start, stop }
    parseFail (some (if block then "while parsing a block node" else "while parsing a flow node", start))
      "did not find expected node content" t.start

def blockSequenceEntryEvent (first : Bool) : ParseM Event := do
  if first then
    pushMark (← peek).start
    skipTok
  let t ← peek
  match t.kind with
  | .blockEntry =>
    skipTok
    let t2 ← peek
    if t2.kind != .blockEntry && t2.kind != .blockEnd then
      pushState .blockSequenceEntry
      nodeEvent true false
    else
      setState .blockSequenceEntry
      return emptyScalar t.stop
  | .blockEnd =>
    popState
    let _ ← popMark
    skipTok
    return { kind := .sequenceEnd, start := t.start, stop := t.stop }
  | _ =>
    let m ← popMark
    parseFail (some ("while parsing a block collection", m)) "did not find expected '-' indicator"
      t.start

def indentlessSequenceEntryEvent : ParseM Event := do
  let t ← peek
  if t.kind == .blockEntry then
    skipTok
    let t2 ← peek
    if t2.kind != .blockEntry && t2.kind != .key && t2.kind != .value && t2.kind != .blockEnd then
      pushState .indentlessSequenceEntry
      nodeEvent true false
    else
      setState .indentlessSequenceEntry
      return emptyScalar t.stop
  else
    popState
    return { kind := .sequenceEnd, start := t.start, stop := t.start }

def blockMappingKeyEvent (first : Bool) : ParseM Event := do
  if first then
    pushMark (← peek).start
    skipTok
  let t ← peek
  match t.kind with
  | .key =>
    skipTok
    let t2 ← peek
    if t2.kind != .key && t2.kind != .value && t2.kind != .blockEnd then
      pushState .blockMappingValue
      nodeEvent true true
    else
      setState .blockMappingValue
      return emptyScalar t.stop
  | .blockEnd =>
    popState
    let _ ← popMark
    skipTok
    return { kind := .mappingEnd, start := t.start, stop := t.stop }
  | _ =>
    let m ← popMark
    parseFail (some ("while parsing a block mapping", m)) "did not find expected key" t.start

def blockMappingValueEvent : ParseM Event := do
  let t ← peek
  if t.kind == .value then
    skipTok
    let t2 ← peek
    if t2.kind != .key && t2.kind != .value && t2.kind != .blockEnd then
      pushState .blockMappingKey
      nodeEvent true true
    else
      setState .blockMappingKey
      return emptyScalar t.stop
  else
    setState .blockMappingKey
    return emptyScalar t.start

def flowSequenceEntryEvent (first : Bool) : ParseM Event := do
  if first then
    pushMark (← peek).start
    skipTok
  let t ← peek
  let t ← do
    if t.kind != .flowSequenceEnd && !first then
      if t.kind == .flowEntry then
        skipTok
        peek
      else
        let m ← popMark
        parseFail (some ("while parsing a flow sequence", m)) "did not find expected ',' or ']'"
          t.start
    else pure t
  if t.kind == .key then
    setState .flowSequenceEntryMappingKey
    skipTok
    return { kind := .mappingStart none none true, start := t.start, stop := t.stop }
  else if t.kind != .flowSequenceEnd then
    pushState .flowSequenceEntry
    nodeEvent false false
  else
    popState
    let _ ← popMark
    skipTok
    return { kind := .sequenceEnd, start := t.start, stop := t.stop }

def flowSequenceEntryMappingKeyEvent : ParseM Event := do
  let t ← peek
  if t.kind != .value && t.kind != .flowEntry && t.kind != .flowSequenceEnd then
    pushState .flowSequenceEntryMappingValue
    nodeEvent false false
  else
    setState .flowSequenceEntryMappingValue
    return emptyScalar t.start

def flowSequenceEntryMappingValueEvent : ParseM Event := do
  let t ← peek
  if t.kind == .value then
    skipTok
    let t2 ← peek
    if t2.kind != .flowEntry && t2.kind != .flowSequenceEnd then
      pushState .flowSequenceEntryMappingEnd
      return ← nodeEvent false false
    setState .flowSequenceEntryMappingEnd
    return emptyScalar t2.start
  setState .flowSequenceEntryMappingEnd
  return emptyScalar t.start

def flowMappingKeyEvent (first : Bool) : ParseM Event := do
  if first then
    pushMark (← peek).start
    skipTok
  let t ← peek
  let t ← do
    if t.kind != .flowMappingEnd && !first then
      if t.kind == .flowEntry then
        skipTok
        peek
      else
        let m ← popMark
        parseFail (some ("while parsing a flow mapping", m)) "did not find expected ',' or '\x7d'"
          t.start
    else pure t
  if t.kind == .key then
    skipTok
    let t2 ← peek
    if t2.kind != .value && t2.kind != .flowEntry && t2.kind != .flowMappingEnd then
      pushState .flowMappingValue
      nodeEvent false false
    else
      setState .flowMappingValue
      return emptyScalar t2.start
  else if t.kind != .flowMappingEnd then
    pushState .flowMappingEmptyValue
    nodeEvent false false
  else
    popState
    let _ ← popMark
    skipTok
    return { kind := .mappingEnd, start := t.start, stop := t.stop }

def flowMappingValueEvent (empty : Bool) : ParseM Event := do
  let t ← peek
  if empty then
    setState .flowMappingKey
    return emptyScalar t.start
  if t.kind == .value then
    skipTok
    let t2 ← peek
    if t2.kind != .flowEntry && t2.kind != .flowMappingEnd then
      pushState .flowMappingKey
      return ← nodeEvent false false
    setState .flowMappingKey
    return emptyScalar t2.start
  setState .flowMappingKey
  return emptyScalar t.start

def flowSequenceEntryMappingEndEvent : ParseM Event := do
  let t ← peek
  setState .flowSequenceEntry
  return { kind := .mappingEnd, start := t.start, stop := t.start }

/-- The next event, or nothing once the stream has ended. -/
def nextEvent : ParseM (Option Event) := do
  match (← get).state with
  | .streamStart => some <$> streamStartEvent
  | .implicitDocumentStart => some <$> documentStartEvent true
  | .documentStart => some <$> documentStartEvent false
  | .documentContent =>
    let t ← peek
    if t.kind.isDirective || t.kind == .documentStart || t.kind == .documentEnd ||
        t.kind == .streamEnd then
      popState
      return some (emptyScalar t.start)
    some <$> nodeEvent true false
  | .documentEnd => some <$> documentEndEvent
  | .blockNode => some <$> nodeEvent true false
  | .blockSequenceFirstEntry => some <$> blockSequenceEntryEvent true
  | .blockSequenceEntry => some <$> blockSequenceEntryEvent false
  | .indentlessSequenceEntry => some <$> indentlessSequenceEntryEvent
  | .blockMappingFirstKey => some <$> blockMappingKeyEvent true
  | .blockMappingKey => some <$> blockMappingKeyEvent false
  | .blockMappingValue => some <$> blockMappingValueEvent
  | .flowSequenceFirstEntry => some <$> flowSequenceEntryEvent true
  | .flowSequenceEntry => some <$> flowSequenceEntryEvent false
  | .flowSequenceEntryMappingKey => some <$> flowSequenceEntryMappingKeyEvent
  | .flowSequenceEntryMappingValue => some <$> flowSequenceEntryMappingValueEvent
  | .flowSequenceEntryMappingEnd => some <$> flowSequenceEntryMappingEndEvent
  | .flowMappingFirstKey => some <$> flowMappingKeyEvent true
  | .flowMappingKey => some <$> flowMappingKeyEvent false
  | .flowMappingValue => some <$> flowMappingValueEvent false
  | .flowMappingEmptyValue => some <$> flowMappingValueEvent true
  | .finished => pure none

end Folio.Yaml
