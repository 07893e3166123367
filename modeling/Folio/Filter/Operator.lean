namespace Folio.Filter

inductive Arity where
  | one
  | exactly (n : Nat)
  | atLeastOne
  deriving DecidableEq, Repr

def Arity.accepts : Arity → Nat → Bool
  | .one, count => count == 1
  | .exactly n, count => count == n
  | .atLeastOne, count => 1 ≤ count

def Arity.text : Arity → String
  | .one => "1"
  | .exactly n => toString n
  | .atLeastOne => "at least 1"

inductive Operator where
  | eq
  | ne
  | gt
  | ge
  | lt
  | le
  | like
  | between
  | oneOf
  deriving DecidableEq, Repr

def Operator.all : List Operator := [.eq, .ne, .gt, .ge, .lt, .le, .like, .between, .oneOf]

/-- The token that names the operator in a parameter key; equality has none. -/
def Operator.token? : Operator → Option String
  | .eq => none
  | .ne => some "not"
  | .gt => some "more_than"
  | .ge => some "same_or_more_than"
  | .lt => some "less_than"
  | .le => some "same_or_less_than"
  | .like => some "i_like"
  | .between => some "between"
  | .oneOf => some "in"

/-- The operator a key token names; the match is exact. -/
def Operator.ofToken? (token : String) : Option Operator :=
  Operator.all.find? fun op => op.token? == some token

def Operator.name : Operator → String
  | .eq => "eq"
  | .ne => "ne"
  | .gt => "gt"
  | .ge => "ge"
  | .lt => "lt"
  | .le => "le"
  | .like => "i_like"
  | .between => "between"
  | .oneOf => "in"

def Operator.ofName? (name : String) : Option Operator :=
  Operator.all.find? fun op => op.name == name

/-- The operator as messages write it: its token, or `eq`. -/
def Operator.display (op : Operator) : String := op.token?.getD "eq"

def Operator.arity : Operator → Arity
  | .between => .exactly 2
  | .oneOf => .atLeastOne
  | _ => .one

theorem Operator.ofToken?_token? (op : Operator) (t : String) (h : op.token? = some t) :
    Operator.ofToken? t = some op := by
  cases op <;> simp_all [Operator.token?, Operator.ofToken?, Operator.all, List.find?] <;>
    subst h <;> decide

end Folio.Filter
