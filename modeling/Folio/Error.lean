import Folio.Filter.Operator
import Folio.Text.Printable

namespace Folio.Field

/-- What a field holds: nothing, a truth value, a signed 64-bit integer, a text or an instant. -/
inductive Kind where
  | null
  | bool
  | integer
  | text
  | datetime
  deriving DecidableEq, Repr

def Kind.label : Kind → String
  | .null => "null"
  | .bool => "bool"
  | .integer => "integer"
  | .text => "string"
  | .datetime => "RFC 3339 datetime"

end Folio.Field

namespace Folio

open Folio.Filter in
inductive Error where
  | malformedKey (key : String)
  | unknownOperator (token : String)
  | valueShape (op : Operator) (expected : Arity) (got : Nat)
  | orderDirection (raw : String)
  | invalidTake (raw : String)
  | invalidPage (raw : String)
  | unknownField (name : String)
  | typeMismatch (field value : String) (expected : Field.Kind)
  | linkBase (detail : String)
  deriving DecidableEq, Repr

def Error.code : Error → String
  | .malformedKey _ => "MALFORMED_FILTER_KEY"
  | .unknownOperator _ => "UNKNOWN_OPERATOR"
  | .valueShape .. => "INVALID_VALUE_SHAPE"
  | .orderDirection _ => "INVALID_ORDER_DIRECTION"
  | .invalidTake _ => "INVALID_TAKE"
  | .invalidPage _ => "INVALID_PAGE"
  | .unknownField _ => "UNKNOWN_FIELD"
  | .typeMismatch .. => "TYPE_MISMATCH"
  | .linkBase _ => "INVALID_LINK_BASE"

def Error.message : Error → String
  | .malformedKey key =>
    "malformed filter key: " ++ key ++ " (expected 2 or 3 '__'-separated segments)"
  | .unknownOperator token => "unknown operator: " ++ token
  | .valueShape op expected got =>
    "operator " ++ op.display ++ " expects " ++ expected.text ++ " value(s), got " ++ toString got
  | .orderDirection raw => "invalid order direction: " ++ raw ++ " (expected ASC or DESC)"
  | .invalidTake raw => "invalid take: " ++ raw ++ " (expected a positive integer)"
  | .invalidPage raw => "invalid page: " ++ raw ++ " (expected a positive integer)"
  | .unknownField name => "unknown field: " ++ name
  | .typeMismatch field value expected =>
    "type mismatch on " ++ field ++ ": " ++ Text.quoted value ++ " is not a valid " ++
      expected.label
  | .linkBase detail => "invalid link base: " ++ detail

/-- Errors the client caused; a bad link base is the server's. -/
def Error.isClient : Error → Bool
  | .linkBase _ => false
  | _ => true

end Folio
