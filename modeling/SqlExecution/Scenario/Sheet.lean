import SqlExecution.Json.Access
import SqlExecution.Scenario.Label

/-! Sheets: reports as they are put together. A sheet is like a JSON value, but it may hold
messages; their identifiers get labels only when the whole sheet is written, so that nothing else in
it is taken for an identifier. -/

namespace SqlExecution

inductive Sheet where
  | plain (j : Json)
  | message (m : Message)
  | array (items : List Sheet)
  /-- Members in the order of their names, each name once. -/
  | object (members : List (String × Sheet))
  deriving Inhabited

namespace Sheet

instance : Coe Json Sheet := ⟨plain⟩

def null : Sheet := plain .null

def bool (b : Bool) : Sheet := plain (.bool b)

def string (s : String) : Sheet := plain (.string s)

def ofNat (n : Nat) : Sheet := plain (.ofNat n)

def ofInt (n : Int) : Sheet := plain (.ofInt n)

def ofInt64 (n : Int64) : Sheet := plain (.ofInt64 n)

def ofOption {α : Type} (write : α → Sheet) : Option α → Sheet
  | none => null
  | some a => write a

/-- The object of the given members, a later one of a name replacing the earlier. -/
def ofMembers (members : List (String × Sheet)) : Sheet :=
  object (members.foldl (fun ms m => Named.insert m.1 m.2 ms) [])

mutual

def label : Sheet → StateM Labels Json
  | plain j => pure j
  | message m => .string <$> Labels.text m
  | array items => .array <$> labelItems items
  | object members => .object <$> labelMembers members

def labelItems : List Sheet → StateM Labels (List Json)
  | [] => pure []
  | item :: rest => do return (← label item) :: (← labelItems rest)

def labelMembers : List (String × Sheet) → StateM Labels (List (String × Json))
  | [] => pure []
  | (name, item) :: rest => do return (name, ← label item) :: (← labelMembers rest)

end

end Sheet

namespace Json

mutual

def mapStrings (f : String → String) : Json → Json
  | .string s => .string (f s)
  | .array items => .array (itemsMapStrings f items)
  | .object members => .object (membersMapStrings f members)
  | j => j

def itemsMapStrings (f : String → String) : List Json → List Json
  | [] => []
  | j :: js => mapStrings f j :: itemsMapStrings f js

def membersMapStrings (f : String → String) : List (String × Json) → List (String × Json)
  | [] => []
  | (name, j) :: rest => (name, mapStrings f j) :: membersMapStrings f rest

end

end Json

/-- The JSON of a sheet, given the names of connections: with labels for identifiers, and without
the details of cancellations. -/
def Sheet.written (names : List (ConnectionId × String)) (sheet : Sheet) : Json :=
  let labels : Labels := { connectionName := fun id => (names.find? (·.1 = id)).map (·.2) }
  (sheet.label labels).1.mapStrings Text.withoutReason

end SqlExecution
