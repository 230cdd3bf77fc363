import SqlExecution.Json.Number

/-! Typed reading of JSON documents. Every reader is given how many containers may still be opened;
a member that is not asked for is not looked at. -/

namespace SqlExecution.Json

/-- Reads a document inside which the given number of containers may be opened. -/
abbrev Decoder (α : Type) := Nat → Document → Option α

/-- How deep a text may nest. -/
def nestingLimit : Nat := 127

mutual

def Document.toJson? (room : Nat) : Document → Option Json
  | .null => some .null
  | .bool b => some (.bool b)
  | .number n => n.value?.map .number
  | .string s => s.map .string
  | .array items => match room with
    | 0 => none
    | room + 1 => (Document.itemsToJson? room items).map .array
  | .object members => match room with
    | 0 => none
    | room + 1 => (Document.membersToJson? room members).map .ofMembers

def Document.itemsToJson? (room : Nat) : List Document → Option (List Json)
  | [] => some []
  | d :: rest => do
    let j ← d.toJson? room
    let js ← Document.itemsToJson? room rest
    some (j :: js)

def Document.membersToJson? (room : Nat) :
    List (Option String × Document) → Option (List (String × Json))
  | [] => some []
  | (name, d) :: rest => do
    let name ← name
    let j ← d.toJson? room
    let js ← Document.membersToJson? room rest
    some ((name, j) :: js)

end

def read? (text : String) : Option Json :=
  (Document.read? text).bind (·.toJson? nestingLimit)

namespace Decoder

def run {α : Type} (d : Decoder α) (text : String) : Option α :=
  (Document.read? text).bind (d nestingLimit)

def json : Decoder Json := fun room d => d.toJson? room

def string : Decoder String
  | _, .string s => s
  | _, _ => none

def bool : Decoder Bool
  | _, .bool b => some b
  | _, _ => none

def number : Decoder JsonNumber
  | _, .number n => n.value?
  | _, _ => none

def int (low high : Int) : Decoder Int := fun room d =>
  match number room d with
  | some (.integer n) => if low ≤ n ∧ n ≤ high then some n else none
  | _ => none

def nat (high : Nat) : Decoder Nat := fun room d => (int 0 high room d).map Int.toNat

def map {α β : Type} (f : α → β) (d : Decoder α) : Decoder β := fun room doc => (d room doc).map f

def filterMap {α β : Type} (f : α → Option β) (d : Decoder α) : Decoder β :=
  fun room doc => (d room doc).bind f

def option {α : Type} (d : Decoder α) : Decoder (Option α)
  | _, .null => some none
  | room, doc => (d room doc).map some

def items : Nat → Document → Option (Nat × List Document)
  | room + 1, .array items => some (room, items)
  | _, _ => none

def list {α : Type} (d : Decoder α) : Decoder (List α) := fun room doc => do
  let (room, ds) ← items room doc
  ds.mapM (d room)

/-- One of several names, alone or as the only member of an object that holds null. -/
def choice {α : Type} (named : String → Option α) : Decoder α
  | _, .string s => s.bind named
  | _ + 1, .object [(name, .null)] => name.bind named
  | _, _ => none

/-- The fields of a record in order, each absent or present: the members of an object, a name at
most once, or the items of an array, which has one for every field unless it may be short. -/
def record (names : List String) (mayBeShort : Bool) :
    Nat → Document → Option (Nat × List (Option Document))
  | room + 1, .array items =>
    if items.length = names.length ∨ (mayBeShort ∧ items.length < names.length) then
      some (room, items.map some ++ List.replicate (names.length - items.length) none)
    else none
  | room + 1, .object members => do
    let named ← members.mapM fun m => m.1.map (·, m.2)
    let known := named.filter fun m => names.contains m.1
    if (known.map (·.1)).Nodup then
      some (room, names.map fun name => (known.find? (·.1 == name)).map (·.2))
    else none
  | _, _ => none

def required {α : Type} (d : Decoder α) (room : Nat) (field : Option Document) : Option α :=
  field.bind (d room)

def orElse {α : Type} (d : Decoder α) (default : α) (room : Nat) : Option Document → Option α
  | none => some default
  | some doc => d room doc

end Decoder

end SqlExecution.Json
