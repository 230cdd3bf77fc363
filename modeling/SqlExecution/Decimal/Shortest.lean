import SqlExecution.Decimal.Binary

/-! The fewest decimal digits that still single out a binary number. For each count of digits the
two neighbours of the number on that decimal grid are tried; the first grid with a neighbour that
rounds back wins, and of two such neighbours the nearer. -/

namespace SqlExecution

/-- A positive decimal number: `0.d₁d₂… × 10 ^ point`, the last digit not zero. -/
structure Digits where
  digits : List Char
  point : Int
  deriving DecidableEq, Repr

namespace Digits

def stripZeros (ds : List Char) : List Char := (ds.reverse.dropWhile (· == '0')).reverse

def ofScaled (n : Nat) (scale : Int) : Digits :=
  let ds := Nat.toDigits 10 n
  ⟨stripZeros ds, ds.length + scale⟩

end Digits

/-- Which neighbour is taken when both are equally near. -/
inductive Tie where
  | upward
  | toEven
  deriving DecidableEq, Repr

/-- The reals that round to one binary number, as quotients over a common denominator. -/
structure RoundingInterval where
  low : Nat
  value : Nat
  high : Nat
  den : Nat
  closed : Bool

namespace RoundingInterval

/-- Below a power of two the neighbour is half as far away. -/
def ofBits (f : BinaryFormat) (bits : Nat) : RoundingInterval :=
  let (m, s) := f.parts bits
  let below := if m = Nat.pow 2 f.fraction ∧ 0 < s then 1 else 2
  ⟨(4 * m - below) * Nat.pow 2 s, 4 * m * Nat.pow 2 s, (4 * m + 2) * Nat.pow 2 s,
    4 * Nat.pow 2 f.depth, m % 2 == 0⟩

def rescale (i : RoundingInterval) (scale : Int) : RoundingInterval :=
  if 0 ≤ scale then { i with den := i.den * Nat.pow 10 scale.toNat }
  else
    let up := Nat.pow 10 (-scale).toNat
    { i with low := i.low * up, value := i.value * up, high := i.high * up }

def admits (i : RoundingInterval) (n : Nat) : Bool :=
  let x := n * i.den
  (i.low < x && x < i.high) || (i.closed && (i.low == x || x == i.high))

/-- The neighbour of the value on the whole numbers that rounds back, the nearer one of two. -/
def neighbour (tie : Tie) (i : RoundingInterval) : Option Nat :=
  let c := i.value / i.den
  match i.admits c, i.admits (c + 1) with
  | false, false => none
  | true, false => some c
  | false, true => some (c + 1)
  | true, true =>
    let down := i.value - c * i.den
    let up := (c + 1) * i.den - i.value
    if down < up then some c
    else if up < down then some (c + 1)
    else match tie with
      | .upward => some (c + 1)
      | .toEven => some (c + c % 2)

end RoundingInterval

/-- Enough decimal places to show a leading digit of any number of either format. -/
def leadingPlaces : Nat := 400

/-- The least `k` with the value below `10 ^ k`. -/
def decimalPoint (i : RoundingInterval) : Int :=
  (Nat.toDigits 10 (i.value * Nat.pow 10 leadingPlaces / i.den)).length - leadingPlaces

/-- The shortest digits of a positive finite number; seventeen always suffice. -/
def shortestDigits (tie : Tie) (f : BinaryFormat) (bits : Nat) : Digits :=
  let i := RoundingInterval.ofBits f bits
  let k := decimalPoint i
  let grid (n : Nat) : Option Digits :=
    (i.rescale (k - n)).neighbour tie |>.map (Digits.ofScaled · (k - n))
  ((List.range 17).findSome? fun n => grid (n + 1)).getD
    (Digits.ofScaled ((i.rescale (k - 17)).value / (i.rescale (k - 17)).den) (k - 17))

end SqlExecution
