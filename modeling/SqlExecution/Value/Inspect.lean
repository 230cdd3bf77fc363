import SqlExecution.Value.LogText
import SqlExecution.Text.Inspect

/-! The inspection text of values and store types. -/

namespace SqlExecution

open Text

def Json.numberText : JsonNumber → String
  | n => applied "Number" (String.ofList (JsonNumber.toDocument n).chars)

namespace Json

mutual

def inspect : Json → String
  | .null => "Null"
  | .bool b => applied "Bool" (boolText b)
  | .number n => numberText n
  | .string s => applied "String" (quoted s)
  | .array items => "Array " ++ listText (inspectItems items)
  | .object members => "Object " ++ mapText (inspectMembers members)

def inspectItems : List Json → List String
  | [] => []
  | j :: js => j.inspect :: inspectItems js

def inspectMembers : List (String × Json) → List (String × String)
  | [] => []
  | (name, j) :: rest => (quoted name, j.inspect) :: inspectMembers rest

end

end Json

namespace Value

mutual

def inspect : Value → String
  | null => "Null"
  | bool b => applied "Bool" (boolText b)
  | tinyInt n => applied "TinyInt" (intText n.toInt)
  | smallInt n => applied "SmallInt" (intText n.toInt)
  | int n => applied "Int" (intText n.toInt)
  | bigInt n => applied "BigInt" (intText n.toInt)
  | uBigInt n => applied "UBigInt" (intText n.toNat)
  | float x => applied "Float" (String.ofList (NumberLayout.inspect.write x))
  | double x => applied "Double" (String.ofList (NumberLayout.inspect.write x))
  | decimal s => applied "Decimal" (quoted s)
  | text s => applied "Text" (quoted s)
  | bytes bs => applied "Bytes" (listText (bs.map fun b => intText b.toNat))
  | date d => applied "Date" (String.ofList d.chars)
  | timestamp t => applied "Timestamp" (String.ofList (t.chars 'T'))
  | timestampTz t => applied "TimestampTz" (String.ofList t.chars)
  | uuid u => applied "Uuid" u.text
  | json j => applied "Json" j.inspect
  | array items => applied "Array" (listText (inspectItems items))

def inspectItems : List Value → List String
  | [] => []
  | v :: vs => v.inspect :: inspectItems vs

end

end Value

def sizeText (size : Option UInt32) : String := optionText (size.map fun n => Value.intText n.toNat)

def dbTypeText (t : Option DbType) : String := optionText (t.map DbType.name)

def TypeMapping.inspect (m : TypeMapping) : String :=
  recordText "TypeMapping" [field "store_type" (quoted m.storeType),
    field "db_type" (dbTypeText m.dbType), field "size" (sizeText m.size)]

end SqlExecution
