import Folio.Yaml.Scalar
import Folio.Yaml.Token

namespace Folio.Yaml

inductive Node where
  | text (s : String)
  | plain (s : String)
  | map (entries : List (String × Node))
deriving Repr, Inhabited

def isWritable (c : Char) : Bool :=
  let n := c.toNat
  n == 0x0A || (0x20 ≤ n && n ≤ 0x7E) || (0xA0 ≤ n && n ≤ 0xD7FF) ||
    (0xE000 ≤ n && n ≤ 0xFFFD && n != 0xFEFF)

structure Analysis where
  multiline : Bool := false
  flowPlain : Bool := true
  blockPlain : Bool := true
  singleQuoted : Bool := true
  block : Bool := true

/-- Scan a scalar's characters for indicators, breaks and spaces that rule styles out. -/
def analyze (s : String) : Analysis :=
  let cs := s.toList
  if cs.isEmpty then { flowPlain := false, blockPlain := true, singleQuoted := true, block := false }
  else
    let arr := cs.toArray
    let n := arr.size
    let ch (i : Nat) : Char := arr.getD i (Char.ofNat 0)
    let followed (i : Nat) : Bool := isBlankOrEnd (ch (i + 1))
    let preceded (i : Nat) : Bool := i == 0 || isBlankOrEnd (ch (i - 1))
    let first := ch 0
    let last := ch (n - 1)
    let marker := cs.take 3 == ['-', '-', '-'] || cs.take 3 == ['.', '.', '.']
    let leadBoth := "#,[]\x7b\x7d&*!|>'\"%@`".toList.contains first || (first == '-' && followed 0)
    let leadFlow := leadBoth || first == '?' || first == ':'
    let leadBlock := leadBoth || ((first == '?' || first == ':') && followed 0)
    let inner := (List.range n).drop 1
    let innerFlow := inner.any fun i =>
      ",?[]\x7b\x7d".toList.contains (ch i) || ch i == ':' || (ch i == '#' && preceded i)
    let innerBlock := inner.any fun i =>
      (ch i == ':' && followed i) || (ch i == '#' && preceded i)
    let flowInd := marker || leadFlow || innerFlow
    let blockInd := marker || leadBlock || innerBlock
    let breaks := cs.any isBreak
    let special := cs.any fun c => !isWritable c
    let pairs := cs.zip (cs.drop 1)
    let breakSpace := pairs.any fun (a, b) => isBreak a && b == ' '
    let spaceBreak := pairs.any fun (a, b) => a == ' ' && isBreak b
    let trailSpace := last == ' '
    let edges := first == ' ' || isBreak first || trailSpace || isBreak last
    { multiline := breaks,
      flowPlain := !(edges || breakSpace || spaceBreak || special || breaks || flowInd),
      blockPlain := !(edges || breakSpace || spaceBreak || special || breaks || blockInd),
      singleQuoted := !(breakSpace || spaceBreak || special),
      block := !(trailSpace || spaceBreak || special) }

inductive Style where
  | plain
  | single
  | double
  | literal
deriving BEq, Inhabited

/-- Text that reads back as something other than text must be quoted. -/
def needsQuotes (s : String) : Bool :=
  match Scalar.resolve s with
  | .text _ => digitsButNotNumber s
  | _ => true

def chooseStyle (key : Bool) (s : String) : Style :=
  let a := analyze s
  let wanted := if s.contains '\n' then Style.literal
    else if needsQuotes s then .single else .plain
  let style := if key && a.multiline then .double else wanted
  let style :=
    if style == .plain && (!a.blockPlain || (s.isEmpty && key)) then .single else style
  let style := if style == .single && !a.singleQuoted then .double else style
  if style == .literal && (!a.block || key) then .double else style

def hexUpper (width : Nat) (n : Nat) : String :=
  let ds := (Nat.toDigits 16 n).map Char.toUpper
  String.ofList (List.replicate (width - ds.length) '0' ++ ds)

/-- A character inside double quotes. -/
def escapeDouble (c : Char) : String :=
  let n := c.toNat
  if isWritable c && !isBreak c && n != 0xFEFF && c != '"' && c != '\\' then String.singleton c
  else match n with
    | 0x00 => "\\0"
    | 0x07 => "\\a"
    | 0x08 => "\\b"
    | 0x09 => "\\t"
    | 0x0A => "\\n"
    | 0x0B => "\\v"
    | 0x0C => "\\f"
    | 0x0D => "\\r"
    | 0x1B => "\\e"
    | 0x22 => "\\\""
    | 0x5C => "\\\\"
    | 0x85 => "\\N"
    | 0xA0 => "\\_"
    | 0x2028 => "\\L"
    | 0x2029 => "\\P"
    | _ =>
      if n ≤ 0xFF then "\\x" ++ hexUpper 2 n
      else if n ≤ 0xFFFF then "\\u" ++ hexUpper 4 n
      else "\\U" ++ hexUpper 8 n

def spaces (n : Nat) : String := String.ofList (List.replicate n ' ')

/-- A literal block: the header with its hints, then each line at `indent`. -/
def literalBlock (indent : Nat) (s : String) : String :=
  let cs := s.toList
  let indentHint := match cs.head? with
    | some c => if c == ' ' || isBreak c then "2" else ""
    | none => ""
  let rev := cs.reverse
  let chomp := match rev with
    | [] => "-"
    | c :: rest =>
      if !isBreak c then "-"
      else match rest with
        | [] => "+"
        | d :: _ => if isBreak d then "+" else ""
  let lines := s.splitOn "\n"
  let body := lines.map fun l => if l.isEmpty then "" else spaces indent ++ l
  let body := "\n".intercalate body
  "|" ++ indentHint ++ chomp ++ "\n" ++ (if s.endsWith "\n" then body else body ++ "\n")

def textScalar (key : Bool) (indent : Nat) (s : String) : String :=
  match chooseStyle key s with
  | .plain => s
  | .single => "'" ++ s.replace "'" "''" ++ "'"
  | .double => "\"" ++ String.join (s.toList.map escapeDouble) ++ "\""
  | .literal => literalBlock indent s

def Node.entries (indent : Nat) : List (String × Node) → String
  | [] => ""
  | (k, v) :: rest =>
    let head := spaces indent ++ textScalar true indent k ++ ":"
    let line := match v with
      | .text s =>
        let t := textScalar false (indent + 2) s
        head ++ " " ++ (if t.endsWith "\n" then t else t ++ "\n")
      | .plain s => head ++ " " ++ s ++ "\n"
      | .map [] => head ++ " \x7b\x7d\n"
      | .map es => head ++ "\n" ++ Node.entries (indent + 2) es
    line ++ Node.entries indent rest

def Node.render : Node → String
  | .text s =>
    let t := textScalar false 2 s
    if t.endsWith "\n" then t else t ++ "\n"
  | .plain s => s ++ "\n"
  | .map [] => "\x7b\x7d\n"
  | .map es => Node.entries 0 es

end Folio.Yaml
