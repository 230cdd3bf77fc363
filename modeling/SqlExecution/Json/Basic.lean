import SqlExecution.Decimal.Binary
import SqlExecution.Named

/-! JSON values. A whole number that fits 64 bits is kept exactly, any other number as the nearest
double; the members of an object are held in the order of their names, each name once. -/

namespace SqlExecution

inductive JsonNumber where
  | integer (n : Int)
  | real (x : Binary64)
  deriving DecidableEq, Repr

inductive Json where
  | null
  | bool (b : Bool)
  | number (n : JsonNumber)
  | string (s : String)
  | array (items : List Json)
  | object (members : List (String × Json))
  deriving Inhabited

namespace JsonNumber

/-- An integer never equals a real, and reals compare as numbers. -/
def equal : JsonNumber → JsonNumber → Bool
  | .integer a, .integer b => a == b
  | .real a, .real b => a.equal b
  | _, _ => false

end JsonNumber

namespace Json

/-- The object of the given members, a later one of a name replacing the earlier. -/
def ofMembers (members : List (String × Json)) : Json :=
  .object (members.foldl (fun ms m => Named.insert m.1 m.2 ms) [])

def member? (name : String) : Json → Option Json
  | .object members => Named.find? name members
  | _ => none

def ofNat (n : Nat) : Json := .number (.integer n)

def ofInt (n : Int) : Json := .number (.integer n)

mutual

def equal : Json → Json → Bool
  | .null, .null => true
  | .bool a, .bool b => a == b
  | .number a, .number b => a.equal b
  | .string a, .string b => a == b
  | .array xs, .array ys => equalItems xs ys
  | .object xs, .object ys => equalMembers xs ys
  | _, _ => false

def equalItems : List Json → List Json → Bool
  | [], [] => true
  | x :: xs, y :: ys => equal x y && equalItems xs ys
  | _, _ => false

def equalMembers : List (String × Json) → List (String × Json) → Bool
  | [], [] => true
  | (j, x) :: xs, (k, y) :: ys => j == k && equal x y && equalMembers xs ys
  | _, _ => false

end

end Json

end SqlExecution
