import SqlExecution.Text.Quoted

/-! Inspection text: the constructor names and fields of a value, for people to read. -/

namespace SqlExecution

/-- A kind of text that is put together from words. -/
class Wording (α : Type) extends Append α where
  words : String → α

instance : Wording String := ⟨id⟩

namespace Text

open Wording (words)

variable {α : Type} [Wording α]

def commaSeparated : List α → α
  | [] => words ""
  | [part] => part
  | part :: rest => part ++ words ", " ++ commaSeparated rest

def field (name : String) (value : α) : α := words (name ++ ": ") ++ value

def recordText (name : String) (fields : List α) : α :=
  words (name ++ " \x7b ") ++ commaSeparated fields ++ words " \x7d"

def openRecordText (name : String) (fields : List α) : α :=
  words (name ++ " \x7b ") ++ commaSeparated fields ++ words ", .. \x7d"

def applied (name : String) (value : α) : α := words (name ++ "(") ++ value ++ words ")"

def optionText : Option α → α
  | none => words "None"
  | some value => applied "Some" value

def listText (items : List String) : String := "[" ++ commaSeparated items ++ "]"

def mapText (entries : List (String × String)) : String :=
  "\x7b" ++ commaSeparated (entries.map fun e => field e.1 e.2) ++ "\x7d"

def boolText (b : Bool) : String := if b then "true" else "false"

end Text

end SqlExecution
