import Folio.Url.Address
import Folio.Url.Percent

namespace Folio.Url

inductive Host where
  | domain (name : String)
  | ipv4 (address : Nat)
  | ipv6 (pieces : List Nat)
  | plain (text : String)
  | empty
  deriving DecidableEq, Repr

def Host.serialize : Host → String
  | .domain name => name
  | .ipv4 a => showIpv4 a
  | .ipv6 ps => "[" ++ showIpv6 ps ++ "]"
  | .plain t => t
  | .empty => ""

inductive Path where
  | segments (parts : List String)
  | text (s : String)
  deriving DecidableEq, Repr

end Url

/-- A parsed URL; username, password, path, query and fragment are kept percent-encoded. -/
structure Url where
  scheme : String
  username : String := ""
  password : String := ""
  host : Option Url.Host := none
  port : Option Nat := none
  path : Url.Path := .segments []
  query : Option String := none
  fragment : Option String := none
  deriving DecidableEq, Repr

namespace Url

def specialSchemes : List (String × Option Nat) :=
  [("ftp", some 21), ("file", none), ("http", some 80), ("https", some 443), ("ws", some 80),
    ("wss", some 443)]

def isSpecial (scheme : String) : Bool := specialSchemes.any (·.1 == scheme)

def defaultPort (scheme : String) : Option Nat :=
  ((specialSchemes.find? (·.1 == scheme)).map (·.2)).getD none

def Path.serialize : Path → String
  | .segments parts => String.join (parts.map ("/" ++ ·))
  | .text s => s

def serialize (u : Url) : String :=
  let authority :=
    match u.host with
    | some h =>
      let cred :=
        if u.username.isEmpty && u.password.isEmpty then ""
        else u.username ++ (if u.password.isEmpty then "" else ":" ++ u.password) ++ "@"
      let port := match u.port with
        | some p => ":" ++ toString p
        | none => ""
      "//" ++ cred ++ h.serialize ++ port
    | none =>
      match u.path with
      | .segments ("" :: _ :: _) => "/."
      | _ => ""
  let query := match u.query with
    | some q => "?" ++ q
    | none => ""
  let fragment := match u.fragment with
    | some f => "#" ++ f
    | none => ""
  u.scheme ++ ":" ++ authority ++ u.path.serialize ++ query ++ fragment

inductive ParseError where
  | emptyHost
  | idna
  | invalidPort
  | invalidIpv4
  | invalidIpv6
  | invalidDomainChar
  | relativeWithoutBase
  deriving DecidableEq, Repr

def ParseError.message : ParseError → String
  | .emptyHost => "empty host"
  | .idna => "invalid international domain name"
  | .invalidPort => "invalid port number"
  | .invalidIpv4 => "invalid IPv4 address"
  | .invalidIpv6 => "invalid IPv6 address"
  | .invalidDomainChar => "invalid domain character"
  | .relativeWithoutBase => "relative URL without a base"

end Folio.Url

namespace Folio.Url.Form

def isKept (b : Nat) : Bool :=
  (48 ≤ b && b ≤ 57) || (65 ≤ b && b ≤ 90) || (97 ≤ b && b ≤ 122) || b = 42 || b = 45 ||
    b = 46 || b = 95

def serialize (s : String) : String :=
  String.ofList ((Text.utf8Encode s).flatMap fun b =>
    if isKept b then [Char.ofNat b] else if b = 32 then ['+'] else percentByte b)

def pair (k v : String) : String := serialize k ++ "=" ++ serialize v

def decodePart (cs : List Char) : String :=
  let bytes := Text.utf8Encode (String.ofList (cs.map fun c => if c = '+' then ' ' else c))
  String.ofList (Text.utf8DecodeLossy (decodeBytes bytes))

def parse (query : String) : List (String × String) :=
  ((Text.splitOnChar '&' query.toList).filter (!·.isEmpty)).map fun piece =>
    (decodePart (piece.takeWhile (· ≠ '=')), decodePart ((piece.dropWhile (· ≠ '=')).drop 1))

/-- Appends pairs to the query of a URL, separated by `&`, after any query it has. -/
def appendPairs (u : Url) (pairs : List (String × String)) : Url :=
  let start := u.query.getD ""
  let q := pairs.foldl (fun q (k, v) => (if q.isEmpty then q else q ++ "&") ++ pair k v) start
  { u with query := some q }

end Folio.Url.Form
