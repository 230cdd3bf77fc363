import SqlExecution.Value.Basic
import SqlExecution.Calendar.Writer
import SqlExecution.Json.Printer

/-! The text of a value in log output: numbers bare, other texts in single quotes
and not escaped. -/

namespace SqlExecution.Value

def hexDigit (n : Nat) : Char :=
  if n < 10 then Char.ofNat ('0'.toNat + n) else Char.ofNat ('A'.toNat + n - 10)

def hexByte (b : UInt8) : List Char := [hexDigit (b.toNat / 16), hexDigit (b.toNat % 16)]

def hexText (bs : List UInt8) : String := String.ofList ('0' :: 'x' :: bs.flatMap hexByte)

def singleQuoted (s : String) : String := "'" ++ s ++ "'"

def boolText (b : Bool) : String := if b then "true" else "false"

def intText (n : Int) : String := String.ofList (NumberLayout.intText n)

mutual

def logText : Value → String
  | null => "NULL"
  | bool b => boolText b
  | tinyInt n => intText n.toInt
  | smallInt n => intText n.toInt
  | int n => intText n.toInt
  | bigInt n => intText n.toInt
  | uBigInt n => intText n.toNat
  | float x => String.ofList (NumberLayout.log.write x)
  | double x => String.ofList (NumberLayout.log.write x)
  | decimal s => singleQuoted s
  | text s => singleQuoted s
  | bytes bs => hexText bs
  | date d => singleQuoted (String.ofList d.chars)
  | timestamp t => singleQuoted (String.ofList (t.chars ' '))
  | timestampTz t => singleQuoted (String.ofList t.chars)
  | uuid u => singleQuoted u.text
  | json j => singleQuoted j.text
  | array items => "[" ++ String.intercalate ", " (logTexts items) ++ "]"

def logTexts : List Value → List String
  | [] => []
  | v :: vs => v.logText :: logTexts vs

end

end SqlExecution.Value
