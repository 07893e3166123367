namespace Folio.Yaml

/-- A position in the text: characters read so far, and the zero-based line and column. -/
structure Mark where
  index : Nat := 0
  line : Nat := 0
  column : Nat := 0
deriving Repr, BEq, Inhabited

def Mark.text (m : Mark) : String :=
  "line " ++ toString (m.line + 1) ++ " column " ++ toString (m.column + 1)

/-- Whether a position is the very start of the text, which messages leave unprinted. -/
def Mark.isStart (m : Mark) : Bool := m.line == 0 && m.column == 0

structure Error where
  problem : String
  mark : Mark
  context : Option (String × Mark) := none
  offset : Nat := 0
deriving Repr, Inhabited

/-- The problem with its position, then the context with its position unless that is the
same place or the start of the text. -/
def Error.message (e : Error) : String :=
  let head :=
    if !e.mark.isStart then e.problem ++ " at " ++ e.mark.text
    else if e.offset != 0 then e.problem ++ " at position " ++ toString e.offset
    else e.problem
  match e.context with
  | none => head
  | some (context, m) =>
    if !m.isStart && !(m.line == e.mark.line && m.column == e.mark.column) then
      head ++ ", " ++ context ++ " at " ++ m.text
    else head ++ ", " ++ context

inductive ScalarStyle where
  | plain
  | singleQuoted
  | doubleQuoted
  | literal
  | folded
deriving Repr, BEq, Inhabited

inductive TokenKind where
  | streamStart
  | streamEnd
  | versionDirective (major minor : Nat)
  | tagDirective (handle pre : String)
  | documentStart
  | documentEnd
  | blockSequenceStart
  | blockMappingStart
  | blockEnd
  | flowSequenceStart
  | flowSequenceEnd
  | flowMappingStart
  | flowMappingEnd
  | blockEntry
  | flowEntry
  | key
  | value
  | alias (name : String)
  | anchor (name : String)
  | tag (handle suffix : String)
  | scalar (text : String) (style : ScalarStyle)
deriving Repr, BEq, Inhabited

structure Token where
  kind : TokenKind
  start : Mark
  stop : Mark
deriving Repr, Inhabited

/-- Line breaks: carriage return, line feed, next line, line and paragraph separators. -/
def isBreak (c : Char) : Bool :=
  c == '\r' || c == '\n' || c.toNat == 0x85 || c.toNat == 0x2028 || c.toNat == 0x2029

def isBlank (c : Char) : Bool := c == ' ' || c == '\t'

/-- The end of the text reads as the character zero. -/
def isEnd (c : Char) : Bool := c.toNat == 0

def isBreakOrEnd (c : Char) : Bool := isBreak c || isEnd c

def isBlankOrEnd (c : Char) : Bool := isBlank c || isBreakOrEnd c

def isWordChar (c : Char) : Bool := c.isAlphanum || c == '_' || c == '-'

def hexValue? (c : Char) : Option Nat :=
  if c.isDigit then some (c.toNat - '0'.toNat)
  else if 'a' ≤ c && c ≤ 'f' then some (c.toNat - 'a'.toNat + 10)
  else if 'A' ≤ c && c ≤ 'F' then some (c.toNat - 'A'.toNat + 10)
  else none

/-- Characters the reader accepts: tab, line breaks and the printable ranges. -/
def isReadable (c : Char) : Bool :=
  let n := c.toNat
  n == 0x09 || n == 0x0A || n == 0x0D || (0x20 ≤ n && n ≤ 0x7E) || n == 0x85 ||
    (0xA0 ≤ n && n ≤ 0xD7FF) || (0xE000 ≤ n && n ≤ 0xFFFD) || (0x10000 ≤ n && n ≤ 0x10FFFF)

theorem isBreak_not_blank (c : Char) (h : isBreak c = true) : isBlank c = false := by
  unfold isBlank
  by_cases h1 : c = ' '
  · subst h1; exact absurd h (by decide)
  · by_cases h2 : c = '\t'
    · subst h2; exact absurd h (by decide)
    · simp [h1, h2]

end Folio.Yaml
