import SqlExecution.Value.Basic
import SqlExecution.Calendar.Writer
import SqlExecution.Calendar.Reader
import SqlExecution.Json.Decode
import SqlExecution.Json.Printer

/-! The JSON form of values and type tags. A value is an object whose only member is named for the
variant and holds the content; a null value is its name alone. -/

namespace SqlExecution

open Json

def DbType.decoder : Decoder DbType := Decoder.choice DbType.ofName?

def Direction.decoder : Decoder Direction := Decoder.choice Direction.ofName?

def IsolationLevel.decoder : Decoder IsolationLevel := Decoder.choice IsolationLevel.ofName?

def Json.Document.ofOption {α : Type} (f : α → Document) : Option α → Document
  | none => .null
  | some x => f x

namespace TypeMapping

def toDocument (m : TypeMapping) : Document :=
  .ofMembers [("store_type", .ofString m.storeType),
    ("db_type", .ofOption (fun t => .ofString t.name) m.dbType),
    ("size", .ofOption (fun n => .ofInt n.toNat) m.size)]

def sizeDecoder : Decoder UInt32 := (Decoder.nat (UInt32.size - 1)).map (UInt32.ofNat ·)

def decoder : Decoder TypeMapping := fun room doc => do
  match ← Decoder.record ["store_type", "db_type", "size"] false room doc with
  | (room, [storeType, dbType, size]) =>
    some ⟨← Decoder.required .string room storeType,
      ← Decoder.orElse DbType.decoder.option none room dbType,
      ← Decoder.orElse sizeDecoder.option none room size⟩
  | _ => none

end TypeMapping

namespace Value

def tagged (name : String) (content : Document) : Document := .ofMembers [(name, content)]

mutual

def toDocument : Value → Document
  | null => .ofString "Null"
  | bool b => tagged "Bool" (.bool b)
  | tinyInt n => tagged "TinyInt" (.ofInt n.toInt)
  | smallInt n => tagged "SmallInt" (.ofInt n.toInt)
  | int n => tagged "Int" (.ofInt n.toInt)
  | bigInt n => tagged "BigInt" (.ofInt n.toInt)
  | uBigInt n => tagged "UBigInt" (.ofInt n.toNat)
  | float x => tagged "Float" (.ofReal .json32 x)
  | double x => tagged "Double" (.ofReal .json64 x)
  | decimal s => tagged "Decimal" (.ofString s)
  | text s => tagged "Text" (.ofString s)
  | bytes bs => tagged "Bytes" (.array (bs.map fun b => .ofInt b.toNat))
  | date d => tagged "Date" (.ofString (String.ofList d.chars))
  | timestamp t => tagged "Timestamp" (.ofString (String.ofList (t.chars 'T')))
  | timestampTz t => tagged "TimestampTz" (.ofString (String.ofList t.zuluChars))
  | uuid u => tagged "Uuid" (.ofString u.text)
  | json j => tagged "Json" j.toDocument
  | array items => tagged "Array" (.array (toDocuments items))

def toDocuments : List Value → List Document
  | [] => []
  | v :: vs => v.toDocument :: toDocuments vs

end

def jsonText (v : Value) : String := v.toDocument.text

def real {f : BinaryFormat} : JsonNumber → Binary f
  | .integer n => .ofInt n
  | .real x => x.convert

/-- The reader of the content of a variant that holds no other values. -/
def scalarDecoder : String → Option (Decoder Value)
  | "Bool" => some (Decoder.bool.map .bool)
  | "TinyInt" => some <|
    (Decoder.int Int8.minValue.toInt Int8.maxValue.toInt).map fun n => .tinyInt (.ofInt n)
  | "SmallInt" => some <|
    (Decoder.int Int16.minValue.toInt Int16.maxValue.toInt).map fun n => .smallInt (.ofInt n)
  | "Int" => some <|
    (Decoder.int Int32.minValue.toInt Int32.maxValue.toInt).map fun n => .int (.ofInt n)
  | "BigInt" => some <|
    (Decoder.int Int64.minValue.toInt Int64.maxValue.toInt).map fun n => .bigInt (.ofInt n)
  | "UBigInt" => some ((Decoder.nat (UInt64.size - 1)).map fun n => .uBigInt (.ofNat n))
  | "Float" => some (Decoder.number.map fun n => .float (real n))
  | "Double" => some (Decoder.number.map fun n => .double (real n))
  | "Decimal" => some (Decoder.string.map .decimal)
  | "Text" => some (Decoder.string.map .text)
  | "Bytes" => some ((Decoder.nat 255).list.map fun ns => .bytes (ns.map UInt8.ofNat))
  | "Date" => some (Decoder.string.filterMap fun s => (Date.read? s).map .date)
  | "Timestamp" => some (Decoder.string.filterMap fun s => (Timestamp.read? s).map .timestamp)
  | "TimestampTz" =>
    some (Decoder.string.filterMap fun s => (OffsetTimestamp.read? s).map .timestampTz)
  | "Uuid" => some (Decoder.string.filterMap fun s => (Uuid.read? s).map .uuid)
  | "Json" => some (Decoder.json.map .json)
  | _ => none

mutual

/-- Reads the JSON form; a null value may also be an object that holds null. -/
def ofDocument? (room : Nat) : Document → Option Value
  | .string (some name) => if name = "Null" then some .null else none
  | .object [(some name, content)] =>
    match room with
    | 0 => none
    | room + 1 => ofContent? room name content
  | _ => none

def ofContent? (room : Nat) (name : String) : Document → Option Value
  | .null => if name = "Null" then some .null else (scalarDecoder name).bind (· room .null)
  | .array items =>
    if name = "Array" then
      match room with
      | 0 => none
      | room + 1 => (ofDocuments? room items).map .array
    else (scalarDecoder name).bind (· room (.array items))
  | content => (scalarDecoder name).bind (· room content)

def ofDocuments? (room : Nat) : List Document → Option (List Value)
  | [] => some []
  | d :: rest => do
    let v ← ofDocument? room d
    let vs ← ofDocuments? room rest
    some (v :: vs)

end

def decoder : Decoder Value := ofDocument?

def readJson? (text : String) : Option Value := decoder.run text

end Value

end SqlExecution
