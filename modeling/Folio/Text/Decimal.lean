namespace Folio.Text.Decimal

def digits? : List Char → Option Nat
  | [] => none
  | cs => if cs.all Char.isDigit then some (cs.foldl (fun n c => 10 * n + (c.toNat - 48)) 0) else none

/-- An unbounded unsigned decimal: an optional plus sign, then digits. -/
def natural? (s : String) : Option Nat :=
  match s.toList with
  | '+' :: cs => digits? cs
  | cs => digits? cs

/-- An unbounded signed decimal: an optional sign, then digits. -/
def integer? (s : String) : Option Int :=
  match s.toList with
  | '+' :: cs => (digits? cs).map Int.ofNat
  | '-' :: cs => (digits? cs).map fun n => -(n : Int)
  | cs => (digits? cs).map Int.ofNat

def u64Max : Nat := 18446744073709551615

def i64Max : Int := 9223372036854775807

def i64Min : Int := -9223372036854775808

def u64? (s : String) : Option Nat := (natural? s).filter (· ≤ u64Max)

def i64? (s : String) : Option Int := (integer? s).filter fun n => i64Min ≤ n && n ≤ i64Max

inductive IntFault
  | empty
  | invalidDigit
  | tooLarge
  | tooSmall
  deriving DecidableEq, Repr

def IntFault.message : IntFault → String
  | .empty => "cannot parse integer from empty string"
  | .invalidDigit => "invalid digit found in string"
  | .tooLarge => "number too large to fit in target type"
  | .tooSmall => "number too small to fit in target type"

/-- Reads digits onto a running value, away from zero in the direction of the sign; the first
character that is not a digit, or the first digit that takes the value out of the signed 64-bit
range, decides the fault. -/
def accumulate (negative : Bool) : List Char → Int → Except IntFault Int
  | [], acc => .ok acc
  | c :: cs, acc =>
    if !c.isDigit then .error .invalidDigit
    else
      let d : Int := c.toNat - 48
      let next := if negative then 10 * acc - d else 10 * acc + d
      if next < i64Min then .error .tooSmall
      else if i64Max < next then .error .tooLarge
      else accumulate negative cs next

/-- A signed 64-bit decimal, or why it is not one: an optional sign, then digits. -/
def signed64 (s : String) : Except IntFault Int :=
  match s.toList with
  | [] => .error .empty
  | ['+'] => .error .invalidDigit
  | ['-'] => .error .invalidDigit
  | '+' :: cs => accumulate false cs 0
  | '-' :: cs => accumulate true cs 0
  | cs => accumulate false cs 0

end Folio.Text.Decimal
