import SqlExecution.Decimal.Shortest

/-! How a binary number is written: where positional notation ends, whether a whole number shows a
point, and how exponents are signed. -/

namespace SqlExecution

structure NumberLayout where
  tie : Tie
  /-- The exponents of the leading digit that are written positionally; all of them when absent. -/
  positional : Option (Int × Int)
  /-- A whole number in positional notation ends in `.0`. -/
  keepsPoint : Bool
  signsExponent : Bool

namespace NumberLayout

def log : NumberLayout := ⟨.upward, none, false, false⟩

/-- Inspection text keeps the point and leaves positional notation below `1e-4` and from `1e16`. -/
def inspect : NumberLayout := ⟨.upward, some (-4, 15), true, false⟩

def json64 : NumberLayout := ⟨.toEven, some (-5, 15), true, true⟩

def json32 : NumberLayout := ⟨.toEven, some (-6, 12), true, true⟩

def intText (n : Int) : List Char :=
  if n < 0 then '-' :: Nat.toDigits 10 n.natAbs else Nat.toDigits 10 n.natAbs

def writePositional (layout : NumberLayout) (d : Digits) : List Char :=
  if d.point ≤ 0 then
    '0' :: '.' :: (List.replicate (-d.point).toNat '0' ++ d.digits)
  else
    let whole := d.point.toNat
    let padded := d.digits ++ List.replicate (whole - d.digits.length) '0'
    if whole < d.digits.length then padded.take whole ++ '.' :: padded.drop whole
    else if layout.keepsPoint then padded ++ ['.', '0'] else padded

def writeScientific (layout : NumberLayout) (d : Digits) : List Char :=
  let exponent := d.point - 1
  let sign := if layout.signsExponent && decide (0 ≤ exponent) then ['+'] else []
  let lead := match d.digits with
    | [] => ['0']
    | [c] => [c]
    | c :: rest => c :: '.' :: rest
  lead ++ 'e' :: (sign ++ intText exponent)

def writeDigits (layout : NumberLayout) (d : Digits) : List Char :=
  match layout.positional with
  | none => layout.writePositional d
  | some (low, high) =>
    if low ≤ d.point - 1 ∧ d.point - 1 ≤ high then layout.writePositional d
    else layout.writeScientific d

def zero (layout : NumberLayout) : List Char :=
  if layout.keepsPoint then ['0', '.', '0'] else ['0']

def write (layout : NumberLayout) {f : BinaryFormat} (x : Binary f) : List Char :=
  if x.isNaN then ['N', 'a', 'N']
  else
    let body :=
      if x.isFinite then
        if x.unsigned = 0 then layout.zero
        else layout.writeDigits (shortestDigits layout.tie f x.unsigned)
      else ['i', 'n', 'f']
    if x.isNegative then '-' :: body else body

end NumberLayout

end SqlExecution
