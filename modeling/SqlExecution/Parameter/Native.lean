import SqlExecution.Value.Record
import SqlExecution.Value.Inspect

/-! Native parameters: what a native command carries for the database. -/

namespace SqlExecution

structure NativeParameter where
  name : String
  value : Value
  dbType : Option DbType
  direction : Direction
  nullable : Bool
  size : Option UInt32

namespace NativeParameter

def of (name : String) (value : Value) : NativeParameter := ⟨name, value, none, .input, true, none⟩

open Json

def toDocument (p : NativeParameter) : Document :=
  .ofMembers [("name", .ofString p.name), ("value", p.value.toDocument),
    ("db_type", .ofOption (fun t => .ofString t.name) p.dbType),
    ("direction", .ofString p.direction.name), ("is_nullable", .bool p.nullable),
    ("size", .ofOption (fun n => .ofInt n.toNat) p.size)]

def decoder : Decoder NativeParameter := fun room doc => do
  match ← Decoder.record ["name", "value", "db_type", "direction", "is_nullable", "size"] false
    room doc with
  | (room, [name, value, dbType, direction, nullable, size]) =>
    some ⟨← Decoder.required .string room name,
      ← Decoder.required Value.decoder room value,
      ← Decoder.orElse DbType.decoder.option none room dbType,
      ← Decoder.required Direction.decoder room direction,
      ← Decoder.required .bool room nullable,
      ← Decoder.orElse TypeMapping.sizeDecoder.option none room size⟩
  | _ => none

/-- The parts of the log text after the value: what differs from a plain input parameter. -/
def facets (p : NativeParameter) : List String :=
  (p.dbType.map fun t => "DbType = " ++ t.name).toList ++
    (p.size.map fun n => "Size = " ++ Value.intText n.toNat).toList ++
    (if p.direction = .input then [] else ["Direction = " ++ p.direction.name]) ++
    (if p.nullable then [] else ["Nullable = false"])

/-- The log text: the value is shown only when that is allowed. -/
def logText (showValue : Bool) (p : NativeParameter) : String :=
  p.name ++ "=" ++ (if showValue then p.value.logText else "'?'") ++
    (if p.facets.isEmpty then "" else " (" ++ String.intercalate ", " p.facets ++ ")")

def logTexts (showValues : Bool) (ps : List NativeParameter) : String :=
  String.intercalate ", " (ps.map (logText showValues))

open Text

def inspect (p : NativeParameter) : String :=
  recordText "DbParameter" [field "name" (quoted p.name), field "value" p.value.inspect,
    field "db_type" (dbTypeText p.dbType), field "direction" p.direction.name,
    field "is_nullable" (boolText p.nullable), field "size" (sizeText p.size)]

end NativeParameter

end SqlExecution
