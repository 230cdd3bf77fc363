import SqlExecution.Json.Basic

/-! Typed access to JSON values and their members. -/

namespace SqlExecution.Json

variable {α : Type}

abbrev Reader (α : Type) := Json → Option α

/-- A member that may be left out; null stands for one that is. -/
def optional (name : String) (read : Reader α) (j : Json) : Option (Option α) :=
  match j.member? name with
  | none => some none
  | some .null => some none
  | some x => (read x).map some

def required (name : String) (read : Reader α) (j : Json) : Option α := (j.member? name).bind read

def withDefault (name : String) (read : Reader α) (default : α) (j : Json) : Option α :=
  (optional name read j).map (·.getD default)

def string? : Reader String
  | .string s => some s
  | _ => none

def bool? : Reader Bool
  | .bool b => some b
  | _ => none

def int? (low high : Int) : Reader Int
  | .number (.integer n) => if low ≤ n ∧ n ≤ high then some n else none
  | _ => none

def nat? (high : Nat) : Reader Nat := fun j => (int? 0 high j).map Int.toNat

def int64? : Reader Int64 := fun j =>
  (int? Int64.minValue.toInt Int64.maxValue.toInt j).map fun n => Int64.ofInt n

def word? : Reader Nat := nat? (UInt64.size - 1)

def list? (read : Reader α) : Reader (List α)
  | .array items => items.mapM read
  | _ => none

def members? (read : Reader α) : Reader (List (String × α))
  | .object members => members.mapM fun m => (read m.2).map (m.1, ·)
  | _ => none

def choice? (ofName? : String → Option α) : Reader α := fun j => j.string?.bind ofName?

def oneOf? (names : List (String × α)) : Reader α := choice? fun s => Named.find? s names

def isObject : Json → Bool
  | .object _ => true
  | _ => false

def ofOption (write : α → Json) : Option α → Json
  | none => .null
  | some a => write a

def ofInt64 (n : Int64) : Json := .ofInt n.toInt

end SqlExecution.Json
