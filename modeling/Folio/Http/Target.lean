namespace Folio.Http

inductive TargetError where
  | empty
  | tooLong
  | invalidChar
  | invalidAuthority
  | invalidFormat
  | schemeTooLong
  deriving DecidableEq, Repr

def TargetError.message : TargetError → String
  | .empty => "empty string"
  | .tooLong => "uri too long"
  | .invalidChar => "invalid uri character"
  | .invalidAuthority => "invalid authority"
  | .invalidFormat => "invalid format"
  | .schemeTooLong => "scheme too long"

/-- A request target: its path (empty for an authority alone) and its query, if any. -/
structure Target where
  path : String
  query : Option String
  deriving DecidableEq, Repr

/-- A character of URIs outside a path or query: letters, digits and `!#$&'()*+,-./:;=?@[]_~`. -/
def isUriChar (c : Char) : Bool :=
  c.isAlphanum || "!#$&'()*+,-./:;=?@[]_~".toList.contains c

def isPathChar (c : Char) : Bool :=
  let n := c.toNat
  n = 0x21 || (0x24 ≤ n && n ≤ 0x3B) || n = 0x3D || (0x40 ≤ n && n ≤ 0x5F) ||
    (0x61 ≤ n && n ≤ 0x7A) || n = 0x7C || n = 0x7E || c = '"' || c = '\x7b' || c = '\x7d'

def isQueryChar (c : Char) : Bool :=
  let n := c.toNat
  n = 0x21 || (0x24 ≤ n && n ≤ 0x3B) || n = 0x3D || (0x3F ≤ n && n ≤ 0x7E)

/-- Reads a path and query: the path up to `?` or `#`, the query up to `#`. -/
def pathAndQuery (cs : List Char) : Except TargetError Target := do
  let path := cs.takeWhile fun c => c ≠ '?' && c ≠ '#'
  if !path.all isPathChar then throw .invalidChar
  match cs.drop path.length with
  | '?' :: rest =>
    let q := rest.takeWhile (· ≠ '#')
    if !q.all isQueryChar then throw .invalidChar
    pure ⟨String.ofList path, some (String.ofList q)⟩
  | _ => pure ⟨String.ofList path, none⟩

/-- The state of reading an authority: colons since the last `@` or `]`, brackets seen, a `%`
outside user information, and where the last `@` was. -/
structure AuthorityScan where
  colons : Nat := 0
  opened : Bool := false
  closed : Bool := false
  percent : Bool := false
  at? : Option Nat := none

/-- The length of the authority at the start of a text. -/
def authorityEnd (cs : List Char) : Except TargetError Nat := do
  let stop := (cs.findIdx? fun c => c = '/' || c = '?' || c = '#').getD cs.length
  let step := fun (acc : Except TargetError AuthorityScan) (ic : Char × Nat) => do
    let s ← acc
    let (c, i) := ic
    if c = ':' then
      if s.colons ≥ 8 then throw .invalidAuthority
      pure { s with colons := s.colons + 1 }
    else if c = '[' then
      if s.percent || s.opened then throw .invalidAuthority
      pure { s with opened := true }
    else if c = ']' then
      if !s.opened || s.closed then throw .invalidAuthority
      pure { s with closed := true, colons := 0, percent := false }
    else if c = '@' then pure { s with at? := some i, colons := 0, percent := false }
    else if c = '%' then pure { s with percent := true }
    else if isUriChar c then pure s
    else throw .invalidChar
  let s ← ((cs.take stop).zipIdx).foldl step (pure {})
  if s.opened != s.closed || s.colons > 1 then throw .invalidAuthority
  if stop > 0 && s.at? = some (stop - 1) then throw .invalidAuthority
  if s.percent then throw .invalidAuthority
  pure stop

def isSchemeChar (c : Char) : Bool := c.isAlphanum || c = '+' || c = '-' || c = '.'

def schemeLength (cs : List Char) : Except TargetError (Option Nat) := do
  let lower := cs.map Char.toLower
  if lower.take 7 = "http://".toList then return some 4
  if lower.take 8 = "https://".toList then return some 5
  if cs.length ≤ 3 then return none
  let name := cs.takeWhile isSchemeChar
  match cs.drop name.length with
  | ':' :: '/' :: '/' :: _ => if name.length > 64 then throw .schemeTooLong else return some name.length
  | _ => return none

def Target.parse (s : String) : Except TargetError Target := do
  let cs := s.toList
  if s.utf8ByteSize > 65534 then throw .tooLong
  match cs with
  | [] => throw .empty
  | ['/'] => pure ⟨"/", none⟩
  | ['*'] => pure ⟨"*", none⟩
  | [_] =>
    let n ← authorityEnd cs
    if n ≠ cs.length then throw .invalidChar
    pure ⟨"", none⟩
  | '/' :: _ => pathAndQuery cs
  | _ =>
    match ← schemeLength cs with
    | none =>
      let n ← authorityEnd cs
      if n ≠ cs.length then throw .invalidFormat
      pure ⟨"", none⟩
    | some k =>
      let rest := cs.drop (k + 3)
      let n ← authorityEnd rest
      if n = 0 then throw .invalidFormat
      let t ← pathAndQuery (rest.drop n)
      pure (if t.path.isEmpty then { t with path := "/" } else t)

end Folio.Http
