namespace Folio.Text

/-- A fraction `num / den` of naturals; its denominator is positive. -/
structure Fraction where
  num : Nat
  den : Nat
  deriving DecidableEq, Repr

def Fraction.lt (p q : Fraction) : Bool := p.num * q.den < q.num * p.den

def jaroFlags (a b : List Char) : List Bool × List Bool :=
  let reach := max a.length b.length / 2 - 1
  let step := fun (acc : List Bool × List Bool) (ci : Char × Nat) =>
    let (c, i) := ci
    let lo := i - reach
    let hi := min b.length (i + reach + 1)
    let free := fun (j : Nat) => lo ≤ j && j < hi && b[j]? == some c && acc.2[j]? == some false
    match (List.range b.length).find? free with
    | some j => (acc.1 ++ [true], acc.2.set j true)
    | none => (acc.1 ++ [false], acc.2)
  a.zipIdx.foldl step ([], List.replicate b.length false)

def flagged (cs : List Char) (flags : List Bool) : List Char :=
  (cs.zip flags).filterMap fun (c, f) => if f then some c else none

/-- The Jaro similarity of two strings. -/
def jaro (a b : String) : Fraction :=
  let xs := a.toList
  let ys := b.toList
  if xs.isEmpty && ys.isEmpty then ⟨1, 1⟩
  else if xs.isEmpty || ys.isEmpty then ⟨0, 1⟩
  else
    let (fa, fb) := jaroFlags xs ys
    let ma := flagged xs fa
    let mb := flagged ys fb
    let m := ma.length
    let t := ((ma.zip mb).filter fun (x, y) => x != y).length / 2
    if m = 0 then ⟨0, 1⟩
    else
      let la := xs.length
      let lb := ys.length
      ⟨m * m * lb + m * m * la + (m - t) * la * lb, 3 * la * lb * m⟩

/-- Whether two strings are similar enough to suggest one for the other: a Jaro similarity
above seven tenths. -/
def similar (a b : String) : Bool := Fraction.lt ⟨7, 10⟩ (jaro a b)

/-- The candidates similar to a word, from the least similar to the most; of equally similar
ones the earlier comes first. -/
def similarTo (word : String) (candidates : List String) : List String :=
  ((candidates.filter (similar word)).mergeSort fun x y => !(jaro word y).lt (jaro word x))

end Folio.Text
