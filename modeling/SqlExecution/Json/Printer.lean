import SqlExecution.Json.Basic
import SqlExecution.Json.Document
import SqlExecution.Decimal.Layout

/-! Compact JSON text: no blanks, control characters escaped, every other character as itself, a
sign on every exponent. -/

namespace SqlExecution.Json

def hexDigit (n : Nat) : Char :=
  if n < 10 then Char.ofNat ('0'.toNat + n) else Char.ofNat ('a'.toNat + n - 10)

def escape (c : Char) : List Char :=
  match c with
  | '"' => ['\\', '"']
  | '\\' => ['\\', '\\']
  | '\n' => ['\\', 'n']
  | '\r' => ['\\', 'r']
  | '\t' => ['\\', 't']
  | '\x08' => ['\\', 'b']
  | '\x0c' => ['\\', 'f']
  | c =>
    if c.toNat < 0x20 then ['\\', 'u', '0', '0', hexDigit (c.toNat / 16), hexDigit (c.toNat % 16)]
    else [c]

def quote (s : String) : List Char := '"' :: (s.toList.flatMap escape ++ ['"'])

namespace NumberText

def ofInt (n : Int) : NumberText := ⟨decide (n < 0), Nat.toDigits 10 n.natAbs, [], none⟩

def exponentChars : Option (Bool × List Char) → List Char
  | none => []
  | some (negative, ds) => 'e' :: (if negative then '-' else '+') :: ds

def chars (n : NumberText) : List Char :=
  (if n.negative then ['-'] else []) ++ n.whole ++
    (if n.fraction.isEmpty then [] else '.' :: n.fraction) ++ exponentChars n.exponent

end NumberText

namespace Document

/-- A string that is no text has no form of its own; it is written empty. -/
def stringChars (content : Option String) : List Char := quote (content.getD "")

mutual

def chars : Document → List Char
  | .null => ['n', 'u', 'l', 'l']
  | .bool true => ['t', 'r', 'u', 'e']
  | .bool false => ['f', 'a', 'l', 's', 'e']
  | .number n => n.chars
  | .string s => stringChars s
  | .array [] => ['[', ']']
  | .array (item :: rest) => '[' :: (item.chars ++ restItems rest)
  | .object [] => ['{', '}']
  | .object ((name, value) :: rest) =>
    '{' :: (stringChars name ++ ':' :: (value.chars ++ restMembers rest))

def restItems : List Document → List Char
  | [] => [']']
  | item :: rest => ',' :: (item.chars ++ restItems rest)

def restMembers : List (Option String × Document) → List Char
  | [] => ['}']
  | (name, value) :: rest => ',' :: (stringChars name ++ ':' :: (value.chars ++ restMembers rest))

end

def text (d : Document) : String := String.ofList d.chars

def ofString (s : String) : Document := .string (some s)

def ofInt (n : Int) : Document := .number (.ofInt n)

/-- JSON has no text for a NaN or an infinity; null stands for them. -/
def ofReal (layout : NumberLayout) {f : BinaryFormat} (x : Binary f) : Document :=
  match NumberText.ofChars? (layout.write x) with
  | some n => .number n
  | none => .null

def ofMembers (members : List (String × Document)) : Document :=
  .object (members.map fun m => (some m.1, m.2))

end Document

def JsonNumber.toDocument : JsonNumber → Document
  | .integer n => .ofInt n
  | .real x => .ofReal .json64 x

mutual

def toDocument : Json → Document
  | .null => .null
  | .bool b => .bool b
  | .number n => JsonNumber.toDocument n
  | .string s => .ofString s
  | .array items => .array (itemsToDocument items)
  | .object members => .object (membersToDocument members)

def itemsToDocument : List Json → List Document
  | [] => []
  | item :: rest => item.toDocument :: itemsToDocument rest

def membersToDocument : List (String × Json) → List (Option String × Document)
  | [] => []
  | (name, value) :: rest => (some name, value.toDocument) :: membersToDocument rest

end

def text (j : Json) : String := j.toDocument.text

end SqlExecution.Json
