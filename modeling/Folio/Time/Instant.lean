namespace Folio.Time

def isLeapYear (y : Int) : Bool := (y % 4 == 0 && y % 100 != 0) || y % 400 == 0

def daysInMonth (y : Int) (m : Nat) : Nat :=
  match m with
  | 2 => if isLeapYear y then 29 else 28
  | 4 | 6 | 9 | 11 => 30
  | _ => 31

def isValidDate (y : Int) (m d : Nat) : Bool := 1 ≤ m && m ≤ 12 && 1 ≤ d && d ≤ daysInMonth y m

/-- The day number of a date: days since 1970-01-01. -/
def daysFromCivil (y : Int) (m d : Nat) : Int :=
  let y := if m ≤ 2 then y - 1 else y
  let era := y / 400
  let yoe := y - era * 400
  let mp : Int := (m + 9) % 12
  let doy := (153 * mp + 2) / 5 + d - 1
  let doe := yoe * 365 + yoe / 4 - yoe / 100 + doy
  era * 146097 + doe - 719468

structure Date where
  year : Int
  month : Nat
  day : Nat
  deriving DecidableEq, Repr

def civilFromDays (z : Int) : Date :=
  let z := z + 719468
  let era := z / 146097
  let doe := z - era * 146097
  let yoe := (doe - doe / 1460 + doe / 36524 - doe / 146096) / 365
  let doy := doe - (365 * yoe + yoe / 4 - yoe / 100)
  let mp := (5 * doy + 2) / 153
  let d := doy - (153 * mp + 2) / 5 + 1
  let m := if mp < 10 then mp + 3 else mp - 9
  ⟨yoe + era * 400 + (if m ≤ 2 then 1 else 0), m.toNat, d.toNat⟩

structure Instant where
  seconds : Int
  nanos : Nat
  deriving DecidableEq, Repr

def Instant.compare (a b : Instant) : Ordering :=
  match Ord.compare a.seconds b.seconds with
  | .eq => Ord.compare a.nanos b.nanos
  | o => o

def Instant.addSeconds (t : Instant) (s : Int) : Instant := { t with seconds := t.seconds + s }

def Instant.ofCivil (y : Int) (m d hh mm ss : Nat) (nanos : Nat) : Instant :=
  ⟨daysFromCivil y m d * 86400 + hh * 3600 + mm * 60 + ss, nanos⟩

def padded (width : Nat) (n : Nat) : String :=
  let s := toString n
  String.ofList (List.replicate (width - s.length) '0') ++ s

/-- A year as dates write it: four digits, or a sign and at least four digits. -/
def yearText (y : Int) : String :=
  if 0 ≤ y && y ≤ 9999 then padded 4 y.toNat
  else (if y < 0 then "-" else "+") ++ padded 4 y.natAbs

/-- The parts of an instant: date, hour, minute, second (60 in a leap second) and the
nanoseconds within the second. -/
def Instant.parts (t : Instant) : Date × Nat × Nat × Nat × Nat :=
  let days := t.seconds / 86400
  let secs := (t.seconds % 86400).toNat
  let leap := t.nanos / 1000000000
  (civilFromDays days, secs / 3600, secs / 60 % 60, secs % 60 + leap, t.nanos % 1000000000)

/-- The fraction of a second in three, six or nine digits, or nothing when it is zero. -/
def fractionText (nanos : Nat) : String :=
  if nanos = 0 then ""
  else if nanos % 1000000 = 0 then "." ++ padded 3 (nanos / 1000000)
  else if nanos % 1000 = 0 then "." ++ padded 6 (nanos / 1000)
  else "." ++ padded 9 nanos

def Instant.dateTimeText (t : Instant) (sep : String) : String :=
  let (d, hh, mm, ss, _) := t.parts
  yearText d.year ++ "-" ++ padded 2 d.month ++ "-" ++ padded 2 d.day ++ sep ++ padded 2 hh ++
    ":" ++ padded 2 mm ++ ":" ++ padded 2 ss

def Instant.rfc3339 (t : Instant) : String :=
  t.dateTimeText "T" ++ fractionText (t.parts.2.2.2.2) ++ "Z"

end Folio.Time
