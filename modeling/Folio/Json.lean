namespace Folio

/-- A JSON value. Object fields keep their order. -/
inductive JsonValue where
  | null
  | bool (b : Bool)
  | num (mantissa : Int) (places : Nat)
  | str (s : String)
  | arr (items : List JsonValue)
  | obj (fields : List (String × JsonValue))
  deriving Repr, Inhabited

namespace JsonValue

def int (i : Int) : JsonValue := .num i 0

def nat (n : Nat) : JsonValue := .num n 0

def opt {α : Type} (f : α → JsonValue) : Option α → JsonValue
  | some a => f a
  | none => .null

def get? (j : JsonValue) (k : String) : Option JsonValue :=
  match j with
  | .obj fs => fs.lookup k
  | _ => none

def int? : JsonValue → Option Int
  | .num m 0 => some m
  | _ => none

end JsonValue

end Folio

namespace Folio.JsonValue

def hex4 (n : Nat) : String :=
  let ds := Nat.toDigits 16 n
  String.ofList (List.replicate (4 - ds.length) '0' ++ ds)

def escape (c : Char) : String :=
  match c with
  | '"' => "\\\""
  | '\\' => "\\\\"
  | '\n' => "\\n"
  | '\r' => "\\r"
  | '\t' => "\\t"
  | '\x08' => "\\b"
  | '\x0c' => "\\f"
  | c => if c.toNat < 0x20 then "\\u" ++ hex4 c.toNat else String.singleton c

def quote (s : String) : String := "\"" ++ String.join (s.toList.map escape) ++ "\""

def numberText (m : Int) (places : Nat) : String :=
  if places = 0 then toString m
  else
    let ds := toString m.natAbs
    let ds := String.ofList (List.replicate (places + 1 - ds.length) '0') ++ ds
    let cut := ds.length - places
    (if m < 0 then "-" else "") ++ String.ofList (ds.toList.take cut) ++ "." ++
      String.ofList (ds.toList.drop cut)

mutual

def render : JsonValue → String
  | .null => "null"
  | .bool b => toString b
  | .num m p => numberText m p
  | .str s => quote s
  | .arr xs => "[" ++ renderItems xs ++ "]"
  | .obj fs => "\x7b" ++ renderFields fs ++ "\x7d"

def renderItems : List JsonValue → String
  | [] => ""
  | [x] => render x
  | x :: xs => render x ++ "," ++ renderItems xs

def renderFields : List (String × JsonValue) → String
  | [] => ""
  | [(k, v)] => quote k ++ ":" ++ render v
  | (k, v) :: fs => quote k ++ ":" ++ render v ++ "," ++ renderFields fs

end

end Folio.JsonValue
