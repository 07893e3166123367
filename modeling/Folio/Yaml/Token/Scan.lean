import Folio.Yaml.Token
import Folio.Text.Utf8

namespace Folio.Yaml

/-- A pending simple key: a token that becomes a mapping key if a `:` follows. -/
structure SimpleKey where
  possible : Bool := false
  required : Bool := false
  number : Nat := 0
  mark : Mark := {}
deriving Inhabited

structure Scanner where
  text : Array Char
  mark : Mark := {}
  queue : List Token := []
  taken : Nat := 0
  indent : Int := -1
  indents : List Int := []
  keyAllowed : Bool := false
  keys : List SimpleKey := []
  flowLevel : Nat := 0
  started : Bool := false
  ended : Bool := false

abbrev ScanM := StateT Scanner (Except Error)

namespace Scanner

def ahead (s : Scanner) (k : Nat) : Char := s.text.getD (s.mark.index + k) (Char.ofNat 0)

/-- Whether the cursor is at a document marker: three dashes or dots in column zero,
followed by a blank or the end. -/
def atDocumentMarker (s : Scanner) : Bool :=
  s.mark.column == 0 &&
    ((s.ahead 0 == '-' && s.ahead 1 == '-' && s.ahead 2 == '-') ||
      (s.ahead 0 == '.' && s.ahead 1 == '.' && s.ahead 2 == '.')) &&
    isBlankOrEnd (s.ahead 3)

end Scanner

def look (k : Nat) : ScanM Char := do return (← get).ahead k

def here : ScanM Mark := do return (← get).mark

def bound : ScanM Nat := do return (← get).text.size + 1

def advance : ScanM Unit := modify fun s =>
  { s with mark := { index := s.mark.index + 1, line := s.mark.line, column := s.mark.column + 1 } }

/-- Step over a line break; carriage return and line feed together count as one. -/
def advanceLine : ScanM Unit := modify fun s =>
  if s.ahead 0 == '\r' && s.ahead 1 == '\n' then
    { s with mark := { index := s.mark.index + 2, line := s.mark.line + 1, column := 0 } }
  else if isBreak (s.ahead 0) then
    { s with mark := { index := s.mark.index + 1, line := s.mark.line + 1, column := 0 } }
  else s

/-- Read a line break into a scalar: carriage return, line feed and next line become a line
feed; line and paragraph separators stay. -/
def takeBreak : ScanM String := do
  let c ← look 0
  if c == '\r' || c == '\n' || c.toNat == 0x85 then
    advanceLine
    return "\n"
  else if isBreak c then
    advanceLine
    return String.singleton c
  else return ""

def failHere {α : Type} (context : Option (String × Mark)) (problem : String) : ScanM α := do
  throw { problem, mark := (← get).mark, context }

def push (kind : TokenKind) (start stop : Mark) : ScanM Unit :=
  modify fun s => { s with queue := s.queue ++ [{ kind, start, stop }] }

/-- Insert an element so that it gets index `n`, or append it to a shorter list. -/
def insertAt {α : Type} : List α → Nat → α → List α
  | xs, 0, a => a :: xs
  | [], _ + 1, a => [a]
  | x :: xs, n + 1, a => x :: insertAt xs n a

def keyMissing (s : Scanner) (k : SimpleKey) : Error :=
  { problem := "could not find expected ':'", mark := s.mark,
    context := some ("while scanning a simple key", k.mark) }

/-- A simple key goes stale once the scanner leaves its line or reads more than 1024
characters past it; a stale required key is an error. -/
def staleKeys : ScanM Unit := do
  let s ← get
  let check (k : SimpleKey) : Except Error SimpleKey :=
    if k.possible && (k.mark.line < s.mark.line || k.mark.index + 1024 < s.mark.index) then
      if k.required then throw (keyMissing s k) else pure { k with possible := false }
    else pure k
  let keys ← (s.keys.reverse.mapM check : Except Error (List SimpleKey))
  set { s with keys := keys.reverse }

/-- Drop the innermost pending key; a required one is an error. -/
def removeKey : ScanM Unit := do
  let s ← get
  match s.keys with
  | k :: rest =>
    if k.possible && k.required then throw (keyMissing s k)
    set { s with keys := { k with possible := false } :: rest }
  | [] => pure ()

/-- Remember the next token as a simple key candidate, when one may start here. -/
def saveKey : ScanM Unit := do
  let s ← get
  if s.keyAllowed then
    let key : SimpleKey :=
      { possible := true, required := s.flowLevel == 0 && s.indent == Int.ofNat s.mark.column,
        number := s.taken + s.queue.length, mark := s.mark }
    removeKey
    modify fun s => { s with keys := key :: s.keys.drop 1 }

def enterFlow : ScanM Unit :=
  modify fun s => { s with keys := ({} : SimpleKey) :: s.keys, flowLevel := s.flowLevel + 1 }

def leaveFlow : ScanM Unit :=
  modify fun s =>
    if s.flowLevel > 0 then { s with flowLevel := s.flowLevel - 1, keys := s.keys.drop 1 } else s

/-- In block context, a column deeper than the current indentation opens a collection: its
start token goes at the end of the queue or, for a key found late, at index `number`. -/
def rollIndent (column : Int) (number : Option Nat) (kind : TokenKind) (m : Mark) :
    ScanM Unit := modify fun s =>
  if s.flowLevel == 0 && s.indent < column then
    let tok : Token := { kind, start := m, stop := m }
    let queue := match number with
      | none => s.queue ++ [tok]
      | some n => insertAt s.queue (n - s.taken) tok
    { s with indents := s.indent :: s.indents, indent := column, queue }
  else s

/-- Pop indentation levels deeper than `column`: the level reached, the rest of the stack
and how many levels were closed. -/
def popIndents (column : Int) : Int → List Int → Int × List Int × Nat
  | indent, [] => (indent, [], 0)
  | indent, i :: rest =>
    if indent > column then
      let (a, b, n) := popIndents column i rest
      (a, b, n + 1)
    else (indent, i :: rest, 0)

def unrollIndent (column : Int) : ScanM Unit := modify fun s =>
  if s.flowLevel == 0 then
    let (indent, indents, n) := popIndents column s.indent s.indents
    let ends := List.replicate n ({ kind := .blockEnd, start := s.mark, stop := s.mark } : Token)
    { s with indent, indents, queue := s.queue ++ ends }
  else s

def skipWhile (p : Scanner → Bool) : Nat → ScanM Unit
  | 0 => pure ()
  | fuel + 1 => do
    if p (← get) then
      advance
      skipWhile p fuel

/-- Skip spaces, tabs where no key may start, comments and line breaks up to the next token.
A line break in block context allows a simple key again. -/
def toNextToken : Nat → ScanM Unit
  | 0 => pure ()
  | fuel + 1 => do
    let s ← get
    if s.mark.column == 0 && (s.ahead 0).toNat == 0xFEFF then advance
    let n ← bound
    skipWhile (fun s => s.ahead 0 == ' ' ||
      ((s.flowLevel > 0 || !s.keyAllowed) && s.ahead 0 == '\t')) n
    if (← look 0) == '#' then skipWhile (fun s => !isBreakOrEnd (s.ahead 0)) n
    if isBreak (← look 0) then
      advanceLine
      modify fun s => if s.flowLevel == 0 then { s with keyAllowed := true } else s
      toNextToken fuel

/-- A scalar being read: its text, and the blanks and breaks not yet joined to it. -/
structure Pending where
  value : String := ""
  spaces : String := ""
  leadingBreak : String := ""
  trailingBreaks : String := ""
  leadingBlanks : Bool := false
  stop : Mark := {}

/-- Join what lies between two words: a single line feed folds into a space, further breaks
stay as they are, and plain spaces are kept. -/
def Pending.join (p : Pending) : Pending :=
  if p.leadingBlanks then
    if p.leadingBreak.startsWith "\n" then
      if p.trailingBreaks.isEmpty then
        { p with value := p.value.push ' ', leadingBreak := "", leadingBlanks := false }
      else
        { p with value := p.value ++ p.trailingBreaks, trailingBreaks := "", leadingBreak := "",
                 leadingBlanks := false }
    else
      { p with value := p.value ++ p.leadingBreak ++ p.trailingBreaks, leadingBreak := "",
               trailingBreaks := "", leadingBlanks := false }
  else if !p.spaces.isEmpty then { p with value := p.value ++ p.spaces, spaces := "" }
  else p

def isFlowFollower (c : Char) : Bool :=
  c == ',' || c == '?' || c == '[' || c == ']' || c == '{' || c == '}'

def plainWord (flow : Bool) : Nat → Pending → ScanM Pending
  | 0, p => pure p
  | fuel + 1, p => do
    let s ← get
    let c := s.ahead 0
    let d := s.ahead 1
    if isBlankOrEnd c then return p
    if flow && c == ':' && isFlowFollower d then return p
    if (c == ':' && isBlankOrEnd d) ||
        (flow && (c == ',' || c == '[' || c == ']' || c == '{' || c == '}')) then return p
    let p := p.join
    advance
    let m ← here
    plainWord flow fuel { p with value := p.value.push c, stop := m }

/-- The blanks and breaks after a word of a plain scalar. -/
def plainGap (indent : Int) (start : Mark) : Nat → Pending → ScanM Pending
  | 0, p => pure p
  | fuel + 1, p => do
    let s ← get
    let c := s.ahead 0
    if isBlank c then
      if p.leadingBlanks && Int.ofNat s.mark.column < indent && c == '\t' then
        failHere (some ("while scanning a plain scalar", start))
          "found a tab character that violates indentation"
      advance
      if p.leadingBlanks then plainGap indent start fuel p
      else plainGap indent start fuel { p with spaces := p.spaces.push c }
    else if isBreak c then
      let b ← takeBreak
      if p.leadingBlanks then
        plainGap indent start fuel { p with trailingBreaks := p.trailingBreaks ++ b }
      else
        plainGap indent start fuel { p with spaces := "", leadingBreak := b, leadingBlanks := true }
    else pure p

def plainLines (flow : Bool) (indent : Int) (start : Mark) : Nat → Pending → ScanM Pending
  | 0, p => pure p
  | fuel + 1, p => do
    let s ← get
    if s.atDocumentMarker || s.ahead 0 == '#' then return p
    let n ← bound
    let p ← plainWord flow n p
    let c ← look 0
    if !(isBlank c || isBreak c) then return p
    let p ← plainGap indent start n p
    let s ← get
    if !flow && Int.ofNat s.mark.column < indent then return p
    plainLines flow indent start fuel p

def scanPlain : ScanM Unit := do
  let s ← get
  let start := s.mark
  let p ← plainLines (s.flowLevel > 0) (s.indent + 1) start (s.text.size + 1) { stop := start }
  push (.scalar p.value .plain) start p.stop
  if p.leadingBlanks then modify fun s => { s with keyAllowed := true }

/-- The character an escape letter stands for in a double-quoted scalar. -/
def escapeChar? (c : Char) : Option Char :=
  match c with
  | '0' => some (Char.ofNat 0)
  | 'a' => some (Char.ofNat 7)
  | 'b' => some (Char.ofNat 8)
  | 't' => some '\t'
  | '\t' => some '\t'
  | 'n' => some '\n'
  | 'v' => some (Char.ofNat 11)
  | 'f' => some (Char.ofNat 12)
  | 'r' => some '\r'
  | 'e' => some (Char.ofNat 0x1B)
  | ' ' => some ' '
  | '"' => some '"'
  | '/' => some '/'
  | '\'' => some '\''
  | '\\' => some '\\'
  | 'N' => some (Char.ofNat 0x85)
  | '_' => some (Char.ofNat 0xA0)
  | 'L' => some (Char.ofNat 0x2028)
  | 'P' => some (Char.ofNat 0x2029)
  | _ => none

def escapeWidth (c : Char) : Nat :=
  if c == 'x' then 2 else if c == 'u' then 4 else if c == 'U' then 8 else 0

def hexCode (start : Mark) (width : Nat) : ScanM Nat := do
  let s ← get
  let digits := (List.range width).map s.ahead
  let value ← (digits.foldlM (fun acc c => match hexValue? c with
      | some v => some (acc * 16 + v)
      | none => none) 0 : Option Nat) |>.elim
      (failHere (some ("while parsing a quoted scalar", start))
        "did not find expected hexdecimal number") pure
  if (0xD800 ≤ value && value ≤ 0xDFFF) || value > 0x10FFFF then
    failHere (some ("while parsing a quoted scalar", start))
      "found invalid Unicode character escape code"
  for _ in List.range width do advance
  return value

/-- The characters of a quoted scalar up to a blank, a break or the closing quote. The flag
says that an escaped line break ended the run. -/
def quotedWord (single : Bool) (start : Mark) : Nat → Pending → ScanM Pending
  | 0, p => pure p
  | fuel + 1, p => do
    let s ← get
    let c := s.ahead 0
    if isBlankOrEnd c then return p
    if single && c == '\'' && s.ahead 1 == '\'' then
      advance
      advance
      quotedWord single start fuel { p with value := p.value.push '\'' }
    else if c == (if single then '\'' else '"') then return p
    else if !single && c == '\\' && isBreak (s.ahead 1) then
      advance
      advanceLine
      return { p with leadingBlanks := true }
    else if !single && c == '\\' then
      let e := s.ahead 1
      match escapeChar? e with
      | some x =>
        advance
        advance
        quotedWord single start fuel { p with value := p.value.push x }
      | none =>
        let w := escapeWidth e
        if w == 0 then
          failHere (some ("while parsing a quoted scalar", start)) "found unknown escape character"
        advance
        advance
        let v ← hexCode start w
        quotedWord single start fuel { p with value := p.value.push (Char.ofNat v) }
    else
      advance
      quotedWord single start fuel { p with value := p.value.push c }

def quotedGap : Nat → Pending → ScanM Pending
  | 0, p => pure p
  | fuel + 1, p => do
    let c ← look 0
    if isBlank c then
      advance
      if p.leadingBlanks then quotedGap fuel p else quotedGap fuel { p with spaces := p.spaces.push c }
    else if isBreak c then
      let b ← takeBreak
      if p.leadingBlanks then quotedGap fuel { p with trailingBreaks := p.trailingBreaks ++ b }
      else quotedGap fuel { p with spaces := "", leadingBreak := b, leadingBlanks := true }
    else pure p

def quotedLines (single : Bool) (start : Mark) : Nat → Pending → ScanM Pending
  | 0, p => pure p
  | fuel + 1, p => do
    let s ← get
    if s.atDocumentMarker then
      failHere (some ("while scanning a quoted scalar", start)) "found unexpected document indicator"
    if isEnd (s.ahead 0) then
      failHere (some ("while scanning a quoted scalar", start)) "found unexpected end of stream"
    let n ← bound
    let p ← quotedWord single start n { p with leadingBlanks := false }
    if (← look 0) == (if single then '\'' else '"') then return p
    let p ← quotedGap n p
    quotedLines single start fuel p.join

def scanQuoted (single : Bool) : ScanM Unit := do
  let start ← here
  advance
  let n ← bound
  let p ← quotedLines single start n {}
  advance
  push (.scalar p.value (if single then .singleQuoted else .doubleQuoted)) start (← here)

/-- Indentation and empty lines before a line of a block scalar. A zero `indent` is found
here: the deepest of these lines, at least one past the enclosing indentation. -/
def blockBreaks (start : Mark) (outer : Int) : Nat → Nat → Nat → String →
    ScanM (Nat × String × Mark)
  | 0, indent, _, breaks => do return (indent, breaks, (← here))
  | fuel + 1, indent, deepest, breaks => do
    let n ← bound
    skipWhile (fun s => (indent == 0 || s.mark.column < indent) && s.ahead 0 == ' ') n
    let s ← get
    let deepest := max deepest s.mark.column
    if (indent == 0 || s.mark.column < indent) && s.ahead 0 == '\t' then
      failHere (some ("while scanning a block scalar", start))
        "found a tab character where an indentation space is expected"
    if !isBreak (s.ahead 0) then
      let indent :=
        if indent != 0 then indent
        else max 1 (max deepest (outer + 1).toNat)
      return (indent, breaks, s.mark)
    let b ← takeBreak
    blockBreaks start outer fuel indent deepest (breaks ++ b)

/-- The lines of a block scalar at its indentation. -/
def blockLines (literal : Bool) (start : Mark) (outer : Int) (indent : Nat) :
    Nat → String → String → String → Bool → Mark → ScanM (String × String × String × Mark)
  | 0, value, leading, trailing, _, stop => pure (value, leading, trailing, stop)
  | fuel + 1, value, leading, trailing, leadingBlank, stop => do
    let s ← get
    if s.mark.column != indent || isEnd (s.ahead 0) then return (value, leading, trailing, stop)
    let trailingBlank := isBlank (s.ahead 0)
    let value :=
      if !literal && leading.startsWith "\n" && !leadingBlank && !trailingBlank then
        (if trailing.isEmpty then value.push ' ' else value) ++ trailing
      else value ++ leading ++ trailing
    let leadingBlank := isBlank (s.ahead 0)
    let n ← bound
    let rec line : Nat → String → ScanM String
      | 0, v => pure v
      | k + 1, v => do
        let c ← look 0
        if isBreakOrEnd c then return v
        advance
        line k (v.push c)
    let value ← line n value
    let leading ← takeBreak
    let (_, trailing, stop) ← blockBreaks start outer n indent 0 ""
    blockLines literal start outer indent fuel value leading trailing leadingBlank stop

/-- A literal (`|`) or folded (`>`) block scalar with optional chomping and indentation
indicators. -/
def scanBlock (literal : Bool) : ScanM Unit := do
  let start ← here
  advance
  let c ← look 0
  let ctx := some ("while scanning a block scalar", start)
  let (chomping, increment) ← do
    if c == '+' || c == '-' then
      advance
      let d ← look 0
      if d.isDigit then
        if d == '0' then failHere ctx "found an indentation indicator equal to 0"
        advance
        pure ((if c == '+' then 1 else -1 : Int), d.toNat - '0'.toNat)
      else pure ((if c == '+' then 1 else -1 : Int), 0)
    else if c.isDigit then
      if c == '0' then failHere ctx "found an indentation indicator equal to 0"
      advance
      let d ← look 0
      if d == '+' || d == '-' then
        advance
        pure ((if d == '+' then 1 else -1 : Int), c.toNat - '0'.toNat)
      else pure (0, c.toNat - '0'.toNat)
    else pure (0, 0)
  let n ← bound
  skipWhile (fun s => isBlank (s.ahead 0)) n
  if (← look 0) == '#' then skipWhile (fun s => !isBreakOrEnd (s.ahead 0)) n
  if !isBreakOrEnd (← look 0) then failHere ctx "did not find expected comment or line break"
  if isBreak (← look 0) then advanceLine
  let outer := (← get).indent
  let indent : Nat :=
    if increment != 0 then (if outer >= 0 then (outer + Int.ofNat increment).toNat else increment)
    else 0
  let (indent, trailing, stop) ← blockBreaks start outer n indent 0 ""
  let (value, leading, trailing, stop) ← blockLines literal start outer indent n "" "" trailing false stop
  let value := if chomping != -1 then value ++ leading else value
  let value := if chomping == 1 then value ++ trailing else value
  push (.scalar value (if literal then .literal else .folded)) start stop

/-- An anchor (`&name`) or an alias (`*name`). -/
def scanAnchor (isAlias : Bool) : ScanM Unit := do
  let start ← here
  advance
  let n ← bound
  let rec word : Nat → String → ScanM String
    | 0, v => pure v
    | k + 1, v => do
      let c ← look 0
      if isWordChar c then
        advance
        word k (v.push c)
      else pure v
  let name ← word n ""
  let stop ← here
  let c ← look 0
  if name.isEmpty || !(isBlankOrEnd c || c == '?' || c == ':' || c == ',' || c == ']' ||
      c == '}' || c == '%' || c == '@' || c == '`') then
    failHere (some (if isAlias then "while scanning an alias" else "while scanning an anchor", start))
      "did not find expected alphabetic or numeric character"
  push (if isAlias then .alias name else .anchor name) start stop

def isTagChar (flow : Bool) (c : Char) : Bool :=
  c.isAlphanum || "-;/?:@&=+$.%!~*'()_".toList.contains c || (!flow && (c == ',' || c == '[' || c == ']'))

/-- A tag: verbatim `!<...>`, a named handle `!h!suffix`, or a primary `!suffix`. -/
def scanTag : ScanM Unit := do
  let start ← here
  let s ← get
  let flow := s.flowLevel > 0
  let n ← bound
  let rec chars (p : Char → Bool) : Nat → String → ScanM String
    | 0, v => pure v
    | k + 1, v => do
      let c ← look 0
      if p c then
        advance
        chars p k (v.push c)
      else pure v
  let ctx := some ("while scanning a tag", start)
  let (handle, suffix) ← do
    if s.ahead 1 == '<' then
      advance
      advance
      let suffix ← chars (isTagChar false) n ""
      if (← look 0) != '>' then failHere ctx "did not find the expected '>'"
      advance
      pure ("", suffix)
    else
      advance
      let word ← chars isWordChar n ""
      if (← look 0) == '!' then
        advance
        let suffix ← chars (isTagChar flow) n ""
        pure ("!" ++ word ++ "!", suffix)
      else
        let rest ← chars (isTagChar flow) n ""
        let suffix := word ++ rest
        if suffix.isEmpty then pure ("", "!") else pure ("!", suffix)
  let c ← look 0
  if !isBlankOrEnd c && !(flow && c == ',') then
    failHere ctx "did not find expected whitespace or line break"
  push (.tag handle suffix) start (← here)

/-- A directive line: `%YAML major.minor` or `%TAG handle prefix`. -/
def scanDirective : ScanM Unit := do
  let start ← here
  advance
  let n ← bound
  let ctx := some ("while scanning a directive", start)
  let rec chars (p : Char → Bool) : Nat → String → ScanM String
    | 0, v => pure v
    | k + 1, v => do
      let c ← look 0
      if p c then
        advance
        chars p k (v.push c)
      else pure v
  let name ← chars isWordChar n ""
  if name.isEmpty then failHere ctx "could not find expected directive name"
  if !isBlankOrEnd (← look 0) then failHere ctx "found unexpected non-alphabetical character"
  let kind ← do
    if name == "YAML" then
      let vctx := some ("while scanning a %YAML directive", start)
      skipWhile (fun s => isBlank (s.ahead 0)) n
      let major ← chars Char.isDigit n ""
      if major.isEmpty then failHere vctx "did not find expected version number"
      if (← look 0) != '.' then failHere vctx "did not find expected digit or '.' character"
      advance
      let minor ← chars Char.isDigit n ""
      if minor.isEmpty then failHere vctx "did not find expected version number"
      pure (TokenKind.versionDirective major.toNat! minor.toNat!)
    else if name == "TAG" then
      let tctx := some ("while scanning a %TAG directive", start)
      skipWhile (fun s => isBlank (s.ahead 0)) n
      if (← look 0) != '!' then failHere tctx "did not find expected '!'"
      advance
      let word ← chars isWordChar n ""
      let handle ← do
        if (← look 0) == '!' then
          advance
          pure ("!" ++ word ++ "!")
        else if word.isEmpty then pure "!"
        else failHere tctx "did not find expected '!'"
      if !isBlank (← look 0) then failHere tctx "did not find expected whitespace"
      skipWhile (fun s => isBlank (s.ahead 0)) n
      let pre ← chars (isTagChar false) n ""
      if pre.isEmpty then failHere tctx "did not find expected tag URI"
      if !isBlankOrEnd (← look 0) then failHere tctx "did not find expected whitespace or line break"
      pure (TokenKind.tagDirective handle pre)
    else failHere ctx "found unknown directive name"
  let stop ← here
  skipWhile (fun s => isBlank (s.ahead 0)) n
  if (← look 0) == '#' then skipWhile (fun s => !isBreakOrEnd (s.ahead 0)) n
  if !isBreakOrEnd (← look 0) then failHere ctx "did not find expected comment or line break"
  if isBreak (← look 0) then advanceLine
  push kind start stop

def fetchStreamStart : ScanM Unit := do
  modify fun s => { s with indent := -1, keyAllowed := true, started := true, keys := [{}] }
  let m ← here
  push .streamStart m m

def fetchStreamEnd : ScanM Unit := do
  modify fun s =>
    if s.mark.column != 0 then { s with mark := { s.mark with column := 0, line := s.mark.line + 1 } }
    else s
  unrollIndent (-1)
  removeKey
  modify fun s => { s with keyAllowed := false }
  let m ← here
  push .streamEnd m m

def indicator (kind : TokenKind) (width : Nat) : ScanM Unit := do
  let start ← here
  for _ in List.range width do advance
  push kind start (← here)

def fetchDocumentMarker (kind : TokenKind) : ScanM Unit := do
  unrollIndent (-1)
  removeKey
  modify fun s => { s with keyAllowed := false }
  indicator kind 3

def fetchFlowStart (kind : TokenKind) : ScanM Unit := do
  saveKey
  enterFlow
  modify fun s => { s with keyAllowed := true }
  indicator kind 1

def fetchFlowEnd (kind : TokenKind) : ScanM Unit := do
  removeKey
  leaveFlow
  modify fun s => { s with keyAllowed := false }
  indicator kind 1

def fetchFlowEntry : ScanM Unit := do
  removeKey
  modify fun s => { s with keyAllowed := true }
  indicator .flowEntry 1

def fetchBlockEntry : ScanM Unit := do
  let s ← get
  if s.flowLevel == 0 then
    if !s.keyAllowed then failHere none "block sequence entries are not allowed in this context"
    rollIndent (Int.ofNat s.mark.column) none .blockSequenceStart s.mark
  removeKey
  modify fun s => { s with keyAllowed := true }
  indicator .blockEntry 1

def fetchKey : ScanM Unit := do
  let s ← get
  if s.flowLevel == 0 then
    if !s.keyAllowed then failHere none "mapping keys are not allowed in this context"
    rollIndent (Int.ofNat s.mark.column) none .blockMappingStart s.mark
  removeKey
  modify fun s => { s with keyAllowed := s.flowLevel == 0 }
  indicator .key 1

/-- A `:` either completes the pending simple key, inserting its key token, or stands for an
empty key. -/
def fetchValue : ScanM Unit := do
  let s ← get
  match s.keys with
  | k :: rest =>
    if k.possible then
      let tok : Token := { kind := .key, start := k.mark, stop := k.mark }
      set { s with queue := insertAt s.queue (k.number - s.taken) tok }
      rollIndent (Int.ofNat k.mark.column) (some k.number) .blockMappingStart k.mark
      modify fun s => { s with keys := { k with possible := false } :: rest, keyAllowed := false }
    else
      if s.flowLevel == 0 then
        if !s.keyAllowed then failHere none "mapping values are not allowed in this context"
        rollIndent (Int.ofNat s.mark.column) none .blockMappingStart s.mark
      modify fun s => { s with keyAllowed := s.flowLevel == 0 }
  | [] => pure ()
  indicator .value 1

def fetchScalarLike (scan : ScanM Unit) : ScanM Unit := do
  saveKey
  modify fun s => { s with keyAllowed := false }
  scan

/-- Scan the next token into the queue. -/
def fetchNext : ScanM Unit := do
  if !(← get).started then
    fetchStreamStart
    return
  toNextToken (← bound)
  staleKeys
  unrollIndent (Int.ofNat (← here).column)
  let s ← get
  let c := s.ahead 0
  let d := s.ahead 1
  let flow := s.flowLevel > 0
  if isEnd c then fetchStreamEnd
  else if s.mark.column == 0 && c == '%' then
    unrollIndent (-1)
    removeKey
    modify fun s => { s with keyAllowed := false }
    scanDirective
  else if s.atDocumentMarker && c == '-' then fetchDocumentMarker .documentStart
  else if s.atDocumentMarker && c == '.' then fetchDocumentMarker .documentEnd
  else if c == '[' then fetchFlowStart .flowSequenceStart
  else if c == '{' then fetchFlowStart .flowMappingStart
  else if c == ']' then fetchFlowEnd .flowSequenceEnd
  else if c == '}' then fetchFlowEnd .flowMappingEnd
  else if c == ',' then fetchFlowEntry
  else if c == '-' && isBlankOrEnd d then fetchBlockEntry
  else if c == '?' && (flow || isBlankOrEnd d) then fetchKey
  else if c == ':' && (flow || isBlankOrEnd d) then fetchValue
  else if c == '*' then fetchScalarLike (scanAnchor true)
  else if c == '&' then fetchScalarLike (scanAnchor false)
  else if c == '!' then fetchScalarLike scanTag
  else if c == '|' && !flow then
    removeKey
    modify fun s => { s with keyAllowed := true }
    scanBlock true
  else if c == '>' && !flow then
    removeKey
    modify fun s => { s with keyAllowed := true }
    scanBlock false
  else if c == '\'' then fetchScalarLike (scanQuoted true)
  else if c == '"' then fetchScalarLike (scanQuoted false)
  else if !(isBlankOrEnd c || "-?:,[]\x7b\x7d#&*!|>'\"%@`".toList.contains c) ||
      (c == '-' && !isBlank d) || (!flow && (c == '?' || c == ':') && !isBlankOrEnd d) then
    fetchScalarLike scanPlain
  else
    failHere (some ("while scanning for the next token", s.mark))
      "found character that cannot start any token"

/-- Whether the head of the queue may still change: the queue is empty, or a pending simple
key stands at its head. -/
def needMore : ScanM Bool := do
  if (← get).queue.isEmpty then return true
  staleKeys
  let s ← get
  return s.keys.any fun k => k.possible && k.number == s.taken

def fill : Nat → ScanM Unit
  | 0 => pure ()
  | fuel + 1 => do
    if ← needMore then
      fetchNext
      fill fuel

def peekToken : ScanM (Option Token) := do
  if (← get).ended then return none
  fill (4 * (← bound) + 16)
  return (← get).queue.head?

def skipToken : ScanM Unit := modify fun s =>
  match s.queue with
  | t :: rest =>
    { s with queue := rest, taken := s.taken + 1,
             ended := s.ended || t.kind == .streamEnd }
  | [] => s

def Scanner.start (text : String) : Except Error Scanner :=
  let cs := text.toList
  match cs.findIdx? (fun c => !isReadable c) with
  | some i =>
    throw { problem := "control characters are not allowed", mark := {},
            offset := (Text.utf8Encode (String.ofList (cs.take i))).length }
  | none => pure { text := cs.toArray }

end Folio.Yaml
