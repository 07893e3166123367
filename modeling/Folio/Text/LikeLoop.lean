import Folio.Text.Like

namespace Folio.Text

/-- The variables of the loop: the pattern position, the text position, and the point to come
back to (the position of a `%` in the pattern and the text position where it stops). -/
structure LikeLoop where
  pi : Nat
  ti : Nat
  back : Option (Nat × Nat)
  deriving DecidableEq, Repr

namespace LikeLoop

inductive Step where
  | next (s : LikeLoop)
  | exit (ok : Bool)
  | outOfRange
  deriving DecidableEq, Repr

def start : LikeLoop := ⟨0, 0, none⟩

/-- The last branch of a turn: the `%` of the point takes one more character and the pattern
resumes after it; with no point the match fails. -/
def retreat : Option (Nat × Nat) → Step
  | some (bp, bt) => .next ⟨bp + 1, bt + 1, some (bp, bt + 1)⟩
  | none => .exit false

/-- After the loop: the slice of the pattern from `pi` on must be all `%`. -/
def finish (p : List Char) (pi : Nat) : Step :=
  if pi ≤ p.length then .exit ((p.drop pi).all (· == '%')) else .outOfRange

/-- One turn of the loop while the text position is inside the text, and the return after the
loop once it is not. The pattern character is read once its position is checked against the
pattern's length, and the text character only when the pattern character is not `_`. -/
def step (p t : List Char) (s : LikeLoop) : Step :=
  if s.ti < t.length then
    if s.pi < p.length then
      match p[s.pi]? with
      | none => .outOfRange
      | some c =>
        if c == '_' then .next ⟨s.pi + 1, s.ti + 1, s.back⟩
        else
          match t[s.ti]? with
          | none => .outOfRange
          | some d =>
            if c == d then .next ⟨s.pi + 1, s.ti + 1, s.back⟩
            else if c == '%' then .next ⟨s.pi + 1, s.ti, some (s.pi, s.ti)⟩
            else retreat s.back
    else retreat s.back
  else finish p s.pi

/-- The loop started from `s` returns `ok`: finitely many turns that go round again, then one
that returns. -/
inductive Returns (p t : List Char) : LikeLoop → Bool → Prop
  | exit {s : LikeLoop} {ok : Bool} : step p t s = .exit ok → Returns p t s ok
  | next {s s' : LikeLoop} {ok : Bool} :
    step p t s = .next s' → Returns p t s' ok → Returns p t s ok

end LikeLoop

end Folio.Text
