import SqlExecution.Decimal.Binary

/-! Reading decimal text as the nearest binary number. The text is an optional sign and then digits
with an optional point and exponent, or one of the words for infinity and NaN in any case. -/

namespace SqlExecution

/-- An unsigned decimal number: `coefficient × 10 ^ scale`. -/
structure DecimalNumber where
  coefficient : Nat
  scale : Int
  deriving DecidableEq, Repr

namespace DecimalNumber

def digitsValue (ds : List Char) : Nat := ds.foldl (fun n c => 10 * n + (c.toNat - '0'.toNat)) 0

/-- Beyond this power of ten every number of either format is infinite or zero. -/
def reach : Int := 400

/-- The nearest number; scales past the reach of the format are decided without computing them. -/
def toBinary {f : BinaryFormat} (negative : Bool) (d : DecimalNumber) : Binary f :=
  let point := (Nat.toDigits 10 d.coefficient).length + d.scale
  if d.coefficient = 0 ∨ point < -reach then .ofSign negative 0
  else if reach < point then .ofSign negative f.infinity
  else if 0 ≤ d.scale then .ofQuotient negative (d.coefficient * Nat.pow 10 d.scale.toNat) 1
  else .ofQuotient negative d.coefficient (Nat.pow 10 (-d.scale).toNat)

def readExponent (cs : List Char) : Option Int :=
  let (negative, ds) := match cs with
    | '-' :: rest => (true, rest)
    | '+' :: rest => (false, rest)
    | _ => (false, cs)
  if ds.isEmpty || !ds.all Char.isDigit then none
  else some (if negative then -(digitsValue ds : Int) else digitsValue ds)

def read (cs : List Char) : Option DecimalNumber :=
  let whole := cs.takeWhile Char.isDigit
  let afterWhole := cs.dropWhile Char.isDigit
  let (fraction, rest) := match afterWhole with
    | '.' :: t => (t.takeWhile Char.isDigit, t.dropWhile Char.isDigit)
    | _ => ([], afterWhole)
  if whole.isEmpty && fraction.isEmpty then none
  else
    let coefficient := digitsValue (whole ++ fraction)
    match rest with
    | [] => some ⟨coefficient, -fraction.length⟩
    | c :: t =>
      if c == 'e' || c == 'E' then
        (readExponent t).map fun e => ⟨coefficient, e - fraction.length⟩
      else none

end DecimalNumber

def Binary.read {f : BinaryFormat} (text : String) : Option (Binary f) :=
  let (negative, cs) := match text.toList with
    | '-' :: rest => (true, rest)
    | '+' :: rest => (false, rest)
    | cs => (false, cs)
  let word := cs.map Char.toLower
  if word == "inf".toList || word == "infinity".toList then some (.ofSign negative f.infinity)
  else if word == "nan".toList then some .nan
  else (DecimalNumber.read cs).map (·.toBinary negative)

end SqlExecution
