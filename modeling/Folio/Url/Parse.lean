import Folio.Url.Basic
import Folio.Url.Idna
import Folio.Text.Basic

namespace Folio.Url

/-- Drops controls and spaces at both ends and every tab and line break. -/
def clean (cs : List Char) : List Char :=
  let edge (c : Char) := c.toNat ≤ 0x20
  (((cs.dropWhile edge).reverse.dropWhile edge).reverse).filter fun c => c ≠ '\t' && c ≠ '\n' && c ≠ '\r'

def isSchemeChar (c : Char) : Bool := c.isAlphanum || c = '+' || c = '-' || c = '.'

def splitScheme : List Char → Option (String × List Char)
  | [] => none
  | c :: cs =>
    if c.isAlpha then
      match cs.dropWhile isSchemeChar with
      | ':' :: rest => some (String.ofList ((c :: cs.takeWhile isSchemeChar).map Char.toLower), rest)
      | _ => none
    else none

/-- Reads the host of a URL with a special scheme. -/
def parseSpecialHost (s : String) : Except ParseError Host :=
  let cs := s.toList
  if cs.head? = some '[' then
    if cs.getLast? = some ']' then
      match parseIpv6? (String.ofList (cs.drop 1).dropLast) with
      | some ps => .ok (.ipv6 ps)
      | none => .error .invalidIpv6
    else .error .invalidIpv6
  else
    match domainToAscii (decodeText s) with
    | none => .error .idna
    | some d =>
      if d.isEmpty then .error .emptyHost
      else if endsInNumber d then
        match parseIpv4? d with
        | some a => .ok (.ipv4 a)
        | none => .error .invalidIpv4
      else .ok (.domain d)

def isForbiddenHostChar (c : Char) : Bool :=
  "\x00\t\n\r #/:<>?@[\\]^|".toList.contains c

/-- Reads the host of a URL whose scheme is not special. -/
def parsePlainHost (s : String) : Except ParseError Host :=
  let cs := s.toList
  if cs.head? = some '[' then
    if cs.getLast? = some ']' then
      match parseIpv6? (String.ofList (cs.drop 1).dropLast) with
      | some ps => .ok (.ipv6 ps)
      | none => .error .invalidIpv6
    else .error .invalidIpv6
  else if cs.any isForbiddenHostChar then .error .invalidDomainChar
  else .ok (.plain (String.ofList (encode controlSet cs)))

def splitHostPort : List Char → Bool → List Char × Option (List Char)
  | [], _ => ([], none)
  | c :: cs, inside =>
    if c = ':' && !inside then ([], some cs)
    else
      let inside := if c = '[' then true else if c = ']' then false else inside
      let (h, p) := splitHostPort cs inside
      (c :: h, p)

/-- Reads a port: digits only, at most 65535, the scheme's default dropped. -/
def parsePort (scheme : String) (cs : List Char) : Except ParseError (Option Nat) :=
  if cs.isEmpty then .ok none
  else if cs.all Char.isDigit then
    let v := cs.foldl (fun n c => 10 * n + (c.toNat - 48)) 0
    if v > 65535 then .error .invalidPort
    else if defaultPort scheme = some v then .ok none else .ok (some v)
  else .error .invalidPort

def isSingleDot (s : String) : Bool := s == "." || Text.asciiLower s == "%2e"

def isDoubleDot (s : String) : Bool :=
  let t := Text.asciiLower s
  t == ".." || t == ".%2e" || t == "%2e." || t == "%2e%2e"

def isDriveLetter (s : String) : Bool :=
  match s.toList with
  | [a, b] => a.isAlpha && (b = ':' || b = '|')
  | _ => false

def isNormalizedDrive (s : String) : Bool :=
  match s.toList with
  | [a, b] => a.isAlpha && b = ':'
  | _ => false

/-- Adds one path piece to the segments so far. A double dot removes the last segment and a
single dot adds nothing; either adds an empty segment when it ends the path. -/
def resolveStep (file : Bool) (acc : List String) (s : String) (last : Bool) : List String :=
  if isDoubleDot s then
    let keep := file && acc.length = 1 && (acc.head?.map isNormalizedDrive).getD false
    let acc := if keep then acc else acc.dropLast
    if last then acc ++ [""] else acc
  else if isSingleDot s then (if last then acc ++ [""] else acc)
  else
    acc ++ [if file && acc.isEmpty && isDriveLetter s then String.ofList (s.toList.take 1 ++ [':']) else s]

/-- The path segments after the dot segments are resolved. Each piece but the last ends at a
separator, the last at the end of the path. -/
def resolveSegments (file : Bool) : List String → List String → List String
  | acc, [] => acc
  | acc, [s] => resolveStep file acc s true
  | acc, s :: rest => resolveSegments file (resolveStep file acc s false) rest

/-- Splits a path text at its separators; the backslash separates for special schemes. -/
def splitPath (special : Bool) : List Char → List (List Char)
  | [] => [[]]
  | c :: cs =>
    if c = '/' || (special && c = '\\') then [] :: splitPath special cs
    else
      match splitPath special cs with
      | [] => [[c]]
      | p :: ps => (c :: p) :: ps

def isPathEnd (c : Char) : Bool := c = '?' || c = '#'

def withTail (u : Url) (special : Bool) (cs : List Char) : Url :=
  match cs with
  | '?' :: rest =>
    let q := rest.takeWhile (· ≠ '#')
    let f := rest.dropWhile (· ≠ '#')
    let u := { u with query := some (String.ofList (encode (if special then specialQuerySet else querySet) q)) }
    match f with
    | '#' :: fr => { u with fragment := some (String.ofList (encode fragmentSet fr)) }
    | _ => u
  | '#' :: fr => { u with fragment := some (String.ofList (encode fragmentSet fr)) }
  | _ => u

def withPath (u : Url) (special : Bool) (cs : List Char) : Url :=
  let pathText := cs.takeWhile (!isPathEnd ·)
  let tail := cs.dropWhile (!isPathEnd ·)
  let pieces := (splitPath special pathText).map fun p => String.ofList (encode pathSet p)
  withTail { u with path := .segments (resolveSegments (u.scheme == "file") [] pieces) } special tail

def withPathStart (u : Url) (special : Bool) (cs : List Char) : Url :=
  if special then
    match cs with
    | c :: rest => if c = '/' || c = '\\' then withPath u special rest else withPath u special cs
    | [] => withPath u special []
  else
    match cs with
    | [] => u
    | '/' :: rest => withPath u special rest
    | c :: _ => if isPathEnd c then withTail u special cs else withPath u special cs

def splitUserinfo (cs : List Char) : String × String :=
  let user := cs.takeWhile (· ≠ ':')
  let pass := (cs.dropWhile (· ≠ ':')).drop 1
  (String.ofList (encode userinfoSet user), String.ofList (encode userinfoSet pass))

/-- The authority of a URL: userinfo before the last `@`, then host and port. -/
def withAuthority (u : Url) (special : Bool) (cs : List Char) : Except ParseError Url := do
  let isEnd (c : Char) := c = '/' || c = '?' || c = '#' || (special && c = '\\')
  let auth := cs.takeWhile (!isEnd ·)
  let rest := cs.dropWhile (!isEnd ·)
  let (info, hostPort) :=
    if auth.contains '@' then
      let rev := auth.reverse
      (some ((rev.dropWhile (· ≠ '@')).drop 1).reverse, (rev.takeWhile (· ≠ '@')).reverse)
    else (none, auth)
  let u ← match info with
    | some i =>
      if hostPort.isEmpty then throw .emptyHost
      let (user, pass) := splitUserinfo i
      pure { u with username := user, password := pass }
    | none => pure u
  let (hostText, portText) := splitHostPort hostPort false
  if portText.isSome && hostText.isEmpty then throw .emptyHost
  if special && hostText.isEmpty then throw .emptyHost
  let host ← if special then parseSpecialHost (String.ofList hostText)
    else parsePlainHost (String.ofList hostText)
  let port ← parsePort u.scheme (portText.getD [])
  pure (withPathStart { u with host := some host, port := port } special rest)

def withFile (u : Url) (cs : List Char) : Except ParseError Url := do
  let isSlash (c : Char) := c = '/' || c = '\\'
  let u := { u with host := some .empty }
  match cs with
  | a :: b :: rest =>
    if isSlash a && isSlash b then
      let isEnd (c : Char) := isSlash c || isPathEnd c
      let hostText := rest.takeWhile (!isEnd ·)
      let after := rest.dropWhile (!isEnd ·)
      if isDriveLetter (String.ofList hostText) then pure (withPath u true rest)
      else if hostText.isEmpty then pure (withPathStart u true after)
      else
        let h ← parseSpecialHost (String.ofList hostText)
        let h := if h = .domain "localhost" then .empty else h
        pure (withPathStart { u with host := some h } true after)
    else if isSlash a then pure (withPath u true (b :: rest))
    else pure (withPath u true cs)
  | [a] => if isSlash a then pure (withPath u true []) else pure (withPath u true cs)
  | [] => pure (withPath u true [])

/-- Parses a URL text without a base. -/
def parse (input : String) : Except ParseError Url :=
  match splitScheme (clean input.toList) with
  | none => .error .relativeWithoutBase
  | some (scheme, rest) =>
    let u : Url := { scheme }
    if scheme = "file" then withFile u rest
    else if isSpecial scheme then withAuthority u true (rest.dropWhile fun c => c = '/' || c = '\\')
    else
      match rest with
      | '/' :: '/' :: r => withAuthority u false r
      | '/' :: r => .ok (withPath u false r)
      | _ =>
        let p := rest.takeWhile (!isPathEnd ·)
        .ok (withTail { u with path := .text (String.ofList (encode controlSet p)) } false
          (rest.dropWhile (!isPathEnd ·)))

end Folio.Url
