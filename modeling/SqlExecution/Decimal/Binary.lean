/-! Binary floating-point numbers as the bits that hold them. Every finite number is a whole
multiple of the smallest positive one, so its magnitude is a natural number in that unit, and the
nearest number to a quotient is found with whole numbers alone. -/

namespace SqlExecution

/-- A binary interchange format: the widths of its fraction and exponent fields. -/
structure BinaryFormat where
  fraction : Nat
  exponent : Nat
  deriving DecidableEq, Repr

namespace BinaryFormat

def binary32 : BinaryFormat := ⟨23, 8⟩

def binary64 : BinaryFormat := ⟨52, 11⟩

/-- The smallest positive number is `2 ^ (-depth)`. -/
def depth (f : BinaryFormat) : Nat := Nat.pow 2 (f.exponent - 1) - 2 + f.fraction

/-- The unsigned bits of infinity; those of a number are below it, those of a NaN above. -/
def infinity (f : BinaryFormat) : Nat := (Nat.pow 2 f.exponent - 1) * Nat.pow 2 f.fraction

def signBit (f : BinaryFormat) : Nat := Nat.pow 2 (f.fraction + f.exponent)

/-- The significand and the power of two it is scaled by, in units of the smallest number. -/
def parts (f : BinaryFormat) (bits : Nat) : Nat × Nat :=
  let hidden := Nat.pow 2 f.fraction
  let e := bits / hidden
  if e = 0 then (bits % hidden, 0) else (hidden + bits % hidden, e - 1)

def magnitude (f : BinaryFormat) (bits : Nat) : Nat :=
  (f.parts bits).1 * Nat.pow 2 (f.parts bits).2

end BinaryFormat

/-- The whole number nearest to a quotient; a half goes to the even neighbour. -/
def roundHalfEven (num den : Nat) : Nat :=
  let q := num / den
  let twice := 2 * (num % den)
  if twice < den then q else if den < twice then q + 1 else q + q % 2

/-- The unsigned bits of the number nearest to `num / den`, infinity past the largest one. -/
def BinaryFormat.nearest (f : BinaryFormat) (num den : Nat) : Nat :=
  let scaled := num * Nat.pow 2 f.depth
  let shift := (scaled / den).log2 - f.fraction
  min (shift * Nat.pow 2 f.fraction + roundHalfEven scaled (den * Nat.pow 2 shift)) f.infinity

structure Binary (f : BinaryFormat) where
  bits : Nat
  deriving DecidableEq, Repr

abbrev Binary32 := Binary .binary32

abbrev Binary64 := Binary .binary64

namespace Binary

variable {f : BinaryFormat}

def isNegative (x : Binary f) : Bool := decide (f.signBit ≤ x.bits)

def unsigned (x : Binary f) : Nat := x.bits % f.signBit

def isNaN (x : Binary f) : Bool := decide (f.infinity < x.unsigned)

def isFinite (x : Binary f) : Bool := decide (x.unsigned < f.infinity)

def magnitude (x : Binary f) : Nat := f.magnitude x.unsigned

def ofSign (negative : Bool) (unsigned : Nat) : Binary f :=
  ⟨if negative then f.signBit + unsigned else unsigned⟩

def nan : Binary f := ⟨f.infinity + Nat.pow 2 (f.fraction - 1)⟩

def ofQuotient (negative : Bool) (num den : Nat) : Binary f :=
  ofSign negative (f.nearest num den)

def ofInt (n : Int) : Binary f := ofQuotient (n < 0) n.natAbs 1

def convert {g : BinaryFormat} (x : Binary f) : Binary g :=
  if x.isNaN then nan
  else if x.isFinite then ofQuotient x.isNegative x.magnitude (Nat.pow 2 f.depth)
  else ofSign x.isNegative g.infinity

/-- Equality of numbers: a NaN differs from itself, and the two zeros are equal. -/
def equal (x y : Binary f) : Bool :=
  !x.isNaN && !y.isNaN && (decide (x.bits = y.bits) || (x.unsigned == 0 && y.unsigned == 0))

end Binary

end SqlExecution
