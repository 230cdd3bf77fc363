import SqlExecution.Json.Document
import SqlExecution.Decimal.Reader

/-! The number that a number's text stands for. A whole number that fits 64 bits is exact; any
other is its leading digits, as many as fit 64 bits, scaled once by a power of ten in double
precision. -/

namespace SqlExecution.Json

def maxUnsigned : Nat := UInt64.size - 1

def maxExponent : Nat := 0x7fffffff

/-- The leading digits that fit 64 bits, and the digits after them. -/
def fitting (acc : Nat) : List Char → Nat × List Char
  | [] => (acc, [])
  | c :: rest =>
    let next := 10 * acc + (c.toNat - '0'.toNat)
    if maxUnsigned < next then (acc, c :: rest) else fitting next rest

def powerOfTen (e : Nat) : Binary64 := .ofQuotient false (Nat.pow 10 e) 1

def multiply (x y : Binary64) : Binary64 :=
  .ofQuotient false (x.magnitude * y.magnitude) (Nat.pow 2 (2 * BinaryFormat.binary64.depth))

def divide (x y : Binary64) : Binary64 := .ofQuotient false x.magnitude y.magnitude

def scaled (significand : Nat) (exponent : Int) : Option Binary64 :=
  let x : Binary64 := .ofQuotient false significand 1
  if significand = 0 then some x
  else if 308 < exponent then none
  else if 0 ≤ exponent then
    let y := multiply x (powerOfTen exponent.toNat)
    if y.isFinite then some y else none
  else if -308 ≤ exponent then some (divide x (powerOfTen (-exponent).toNat))
  else if -616 ≤ exponent then
    some (divide (divide x (powerOfTen 308)) (powerOfTen (-(exponent + 308)).toNat))
  else some (.ofQuotient false 0 1)

def withSign (negative : Bool) (x : Binary64) : Binary64 :=
  if negative then .ofSign true x.unsigned else x

namespace NumberText

/-- A magnitude with an exponent: overflow past any exponent is zero for a zero significand. -/
def real? (n : NumberText) : Option Binary64 :=
  let (significand, dropped) := fitting 0 n.whole
  let (significand, scale) :=
    if dropped.isEmpty then
      let (s, rest) := fitting significand n.fraction
      (s, (rest.length : Int) - n.fraction.length)
    else
      (fitting significand n.fraction).map id (fun rest =>
        (dropped.length : Int) + rest.length - n.fraction.length)
  let magnitude := match n.exponent with
    | none => scaled significand scale
    | some (negative, ds) =>
      let e := DecimalNumber.digitsValue ds
      if maxExponent < e then
        if significand = 0 ∨ negative then some (.ofSign false 0) else none
      else scaled significand (if negative then scale - e else scale + e)
  magnitude.map (withSign n.negative)

def value? (n : NumberText) : Option JsonNumber :=
  let (whole, dropped) := fitting 0 n.whole
  if dropped.isEmpty && n.fraction.isEmpty && n.exponent.isNone then
    if !n.negative then some (.integer whole)
    else if 0 < whole ∧ whole ≤ 0x8000000000000000 then some (.integer (-whole))
    else some (.real (withSign true (.ofQuotient false whole 1)))
  else n.real?.map .real

end NumberText

end SqlExecution.Json
