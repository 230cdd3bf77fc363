import SqlExecution.Calendar.Basic
import SqlExecution.Json.Basic
import SqlExecution.Uuid
import SqlExecution.Value.Type

/-! Database values: what parameters carry and cells hold. -/

namespace SqlExecution

inductive Value where
  | null
  | bool (b : Bool)
  | tinyInt (n : Int8)
  | smallInt (n : Int16)
  | int (n : Int32)
  | bigInt (n : Int64)
  | uBigInt (n : UInt64)
  | float (x : Binary32)
  | double (x : Binary64)
  /-- A decimal number of any precision, as its text. -/
  | decimal (digits : String)
  | text (s : String)
  | bytes (bs : List UInt8)
  | date (d : Date)
  | timestamp (t : Timestamp)
  | timestampTz (t : OffsetTimestamp)
  | uuid (u : Uuid)
  | json (j : Json)
  /-- A list of values, also what a composite parameter takes. -/
  | array (items : List Value)
  deriving Inhabited

namespace Value

def variant : Value → String
  | null => "Null"
  | bool _ => "Bool"
  | tinyInt _ => "TinyInt"
  | smallInt _ => "SmallInt"
  | int _ => "Int"
  | bigInt _ => "BigInt"
  | uBigInt _ => "UBigInt"
  | float _ => "Float"
  | double _ => "Double"
  | decimal _ => "Decimal"
  | text _ => "Text"
  | bytes _ => "Bytes"
  | date _ => "Date"
  | timestamp _ => "Timestamp"
  | timestampTz _ => "TimestampTz"
  | uuid _ => "Uuid"
  | json _ => "Json"
  | array _ => "Array"

def isNull : Value → Bool
  | null => true
  | _ => false

/-- The type a driver would infer; a null has none. -/
def dbType : Value → Option DbType
  | null => none
  | bool _ => some .boolean
  | tinyInt _ => some .sByte
  | smallInt _ => some .int16
  | int _ => some .int32
  | bigInt _ => some .int64
  | uBigInt _ => some .uInt64
  | float _ => some .single
  | double _ => some .double
  | decimal _ => some .decimal
  | text _ => some .string
  | bytes _ => some .binary
  | date _ => some .date
  | timestamp _ => some .dateTime
  | timestampTz _ => some .dateTimeOffset
  | uuid _ => some .guid
  | json _ => some .json
  | array _ => some .object

theorem dbType_eq_none_iff {v : Value} : v.dbType = none ↔ v.isNull = true := by
  cases v <;> simp [dbType, isNull]

/-- Any integer that fits 64 signed bits. -/
def int64? : Value → Option Int64
  | tinyInt n => some n.toInt64
  | smallInt n => some n.toInt64
  | int n => some n.toInt64
  | bigInt n => some n
  | uBigInt n => if n ≤ Int64.maxValue.toUInt64 then some n.toInt64 else none
  | _ => none

def string? : Value → Option String
  | text s => some s
  | decimal s => some s
  | _ => none

def array? : Value → Option (List Value)
  | array items => some items
  | _ => none

def ofOption {α : Type} (f : α → Value) : Option α → Value
  | none => null
  | some x => f x

mutual

/-- Equality of values: of one variant, floating-point numbers as numbers and timestamps with an
offset as moments. -/
def equal : Value → Value → Bool
  | null, null => true
  | bool a, bool b => a == b
  | tinyInt a, tinyInt b => a == b
  | smallInt a, smallInt b => a == b
  | int a, int b => a == b
  | bigInt a, bigInt b => a == b
  | uBigInt a, uBigInt b => a == b
  | float a, float b => a.equal b
  | double a, double b => a.equal b
  | decimal a, decimal b => a == b
  | text a, text b => a == b
  | bytes a, bytes b => a == b
  | date a, date b => a == b
  | timestamp a, timestamp b => a == b
  | timestampTz a, timestampTz b => a.equal b
  | uuid a, uuid b => a == b
  | json a, json b => a.equal b
  | array a, array b => equalItems a b
  | _, _ => false

def equalItems : List Value → List Value → Bool
  | [], [] => true
  | a :: as, b :: bs => equal a b && equalItems as bs
  | _, _ => false

end

end Value

end SqlExecution
