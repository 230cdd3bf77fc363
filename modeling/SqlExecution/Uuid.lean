/-! Universally unique identifiers and their text: thirty-two hexadecimal digits in groups of eight,
four, four, four and twelve. -/

namespace SqlExecution

structure Uuid where
  value : BitVec 128
  deriving DecidableEq, Repr

namespace Uuid

def hexDigit (n : Nat) : Char :=
  if n < 10 then Char.ofNat ('0'.toNat + n) else Char.ofNat ('a'.toNat + n - 10)

def hexValue? (c : Char) : Option Nat :=
  if c.isDigit then some (c.toNat - '0'.toNat)
  else if 'a' ≤ c ∧ c ≤ 'f' then some (c.toNat - 'a'.toNat + 10)
  else if 'A' ≤ c ∧ c ≤ 'F' then some (c.toNat - 'A'.toNat + 10)
  else none

def hexChars (n : Nat) : Nat → List Char
  | 0 => []
  | width + 1 => hexChars (n / 16) width ++ [hexDigit (n % 16)]

def grouped : List Nat → List Char → List Char
  | [], ds => ds
  | [_], ds => ds
  | n :: sizes, ds => ds.take n ++ '-' :: grouped sizes (ds.drop n)

def groups : List Nat := [8, 4, 4, 4, 12]

def chars (u : Uuid) : List Char := grouped groups (hexChars u.value.toNat 32)

def text (u : Uuid) : String := String.ofList u.chars

def ofDigits? (ds : List Char) : Option Uuid := do
  if ds.length = 32 then
    let values ← ds.mapM hexValue?
    some ⟨BitVec.ofNat 128 (values.foldl (fun n d => 16 * n + d) 0)⟩
  else none

def ungrouped? : List Nat → List Char → Option (List Char)
  | [], cs => if cs.isEmpty then some [] else none
  | [n], cs => if cs.length = n then some cs else none
  | n :: sizes, cs =>
    match cs.drop n with
    | '-' :: rest => (ungrouped? sizes rest).map (cs.take n ++ ·)
    | _ => none

def ofHyphenated? (cs : List Char) : Option Uuid := (ungrouped? groups cs).bind ofDigits?

def resourceName : List Char := "urn:uuid:".toList

/-- What follows the name of a resource, which may be written in capitals. -/
def resourceDigits? (cs : List Char) : Option (List Char) :=
  if (cs.take resourceName.length).map Char.toLower = resourceName then
    some (cs.drop resourceName.length)
  else none

/-- Plain digits, or the hyphenated form alone, in braces or behind its name as a resource. -/
def read? (text : String) : Option Uuid :=
  let cs := text.toList
  if cs.length = 32 then ofDigits? cs
  else if cs.length = 36 then ofHyphenated? cs
  else match cs with
    | '{' :: rest => if rest.getLast? = some '}' then ofHyphenated? rest.dropLast else none
    | _ => (resourceDigits? cs).bind ofHyphenated?

def version (u : Uuid) : Nat := u.value.toNat / Nat.pow 2 76 % 16

end Uuid

end SqlExecution
