import SqlExecution.Calendar.Basic
import SqlExecution.Text.Blank

/-! Reading dates and timestamps. Fields need no padding and may be preceded by blanks; a year of
more than four digits carries a sign; digits of a fraction past the ninth are dropped. -/

namespace SqlExecution.Calendar

open Text (dropBlanks)

/-- A value read from the front of a text, and what follows it. -/
abbrev Field (α : Type) := List Char → Option (α × List Char)

def digitsValue (ds : List Char) : Nat := ds.foldl (fun n c => 10 * n + (c.toNat - '0'.toNat)) 0

/-- From one digit up to `width` digits. -/
def number (width : Nat) : Field Nat := fun cs =>
  let ds := (cs.take width).takeWhile Char.isDigit
  if ds.isEmpty then none else some (digitsValue ds, cs.drop ds.length)

/-- The largest number that the fields of a date may hold while it is read. -/
def maxField : Nat := 0x7fffffffffffffff

def digits : Field Nat := fun cs =>
  let ds := cs.takeWhile Char.isDigit
  if ds.isEmpty || decide (maxField < digitsValue ds) then none
  else some (digitsValue ds, cs.dropWhile Char.isDigit)

def literal (c : Char) : Field Unit
  | d :: rest => if d = c then some ((), rest) else none
  | [] => none

def spaced {α : Type} (f : Field α) : Field α := fun cs => f (dropBlanks cs)

def year : Field Int := spaced fun
  | '-' :: rest => (digits rest).map fun (n, rest) => (-(n : Int), rest)
  | '+' :: rest => (digits rest).map fun (n, rest) => ((n : Int), rest)
  | cs => (number 4 cs).map fun (n, rest) => ((n : Int), rest)

def separated {α : Type} (c : Char) (f : Field α) : Field α := fun cs => do
  let ((), rest) ← spaced (literal c) cs
  spaced f rest

def fraction : Field Nat
  | '.' :: rest =>
    let ds := rest.takeWhile Char.isDigit
    if ds.isEmpty then none
    else
      let kept := ds.take 9
      some (digitsValue kept * Nat.pow 10 (9 - kept.length), rest.dropWhile Char.isDigit)
  | cs => some (0, cs)

def date : Field Date := fun cs => do
  let (y, rest) ← year cs
  let (m, rest) ← separated '-' (number 2) rest
  let (d, rest) ← separated '-' (number 2) rest
  let date ← Date.of? y m d
  some (date, rest)

def time : Field TimeOfDay := fun cs => do
  let (h, rest) ← spaced (number 2) cs
  let (m, rest) ← separated ':' (number 2) rest
  let (s, rest) ← separated ':' (number 2) rest
  let (n, rest) ← fraction rest
  let time ← TimeOfDay.ofShown? h m s n
  some (time, rest)

def timestamp : Field Timestamp := fun cs => do
  let (d, rest) ← date cs
  let ((), rest) ← spaced (literal 'T') rest
  let (t, rest) ← time rest
  some (⟨d, t⟩, rest)

def twoDigits : Field Nat
  | a :: b :: rest => if a.isDigit && b.isDigit then some (digitsValue [a, b], rest) else none
  | _ => none

def offsetSign : Field Bool
  | '+' :: rest => some (false, rest)
  | '-' :: rest => some (true, rest)
  | '\u2212' :: rest => some (true, rest)
  | _ => none

/-- Hours and minutes in minutes, what stands between them being left to the caller. -/
def hoursMinutes (between : List Char → Option (List Char)) : Field Int := fun cs => do
  let (negative, rest) ← offsetSign cs
  let (h, rest) ← twoDigits rest
  let rest ← between rest
  let (m, rest) ← twoDigits rest
  let minutes : Int := (60 * h + m : Nat)
  if m < 60 then some (if negative then -minutes else minutes, rest)
  else none

def offset (between : List Char → Option (List Char)) : Field Int
  | 'Z' :: rest => some (0, rest)
  | 'z' :: rest => some (0, rest)
  | cs => hoursMinutes between cs

def dateTimeSeparator : Field Unit
  | c :: rest => if c = 'T' ∨ c = 't' ∨ c = ' ' then some ((), rest) else none
  | [] => none

def universal : Field Int
  | a :: b :: c :: rest =>
    if a.toUpper = 'U' ∧ b.toUpper = 'T' ∧ c.toUpper = 'C' then some (0, rest) else none
  | _ => none

def offsetTimestamp : Field OffsetTimestamp := fun cs => do
  let (d, rest) ← date cs
  let ((), rest) ← dateTimeSeparator rest
  let (t, rest) ← time rest
  let rest := dropBlanks rest
  let anyColons (cs : List Char) := some (cs.dropWhile fun c => c == ':' || Text.isBlank c)
  let (minutes, rest) ← (universal rest).orElse fun () => offset anyColons rest
  let value ← OffsetTimestamp.of? ⟨d, t⟩ minutes
  some (value, rest)

def whole {α : Type} (f : Field α) (text : String) : Option α :=
  match f text.toList with
  | some (value, rest) => if (dropBlanks rest).isEmpty then some value else none
  | none => none

def exactNumber (width : Nat) : Field Nat := fun cs =>
  let ds := cs.take width
  if ds.length = width ∧ ds.all Char.isDigit then some (digitsValue ds, cs.drop width) else none

/-- The strict form: every field padded and nothing between the parts. -/
def strictOffsetTimestamp : Field OffsetTimestamp := fun cs => do
  let (y, rest) ← exactNumber 4 cs
  let ((), rest) ← literal '-' rest
  let (m, rest) ← exactNumber 2 rest
  let ((), rest) ← literal '-' rest
  let (d, rest) ← exactNumber 2 rest
  let ((), rest) ← dateTimeSeparator rest
  let (h, rest) ← exactNumber 2 rest
  let ((), rest) ← literal ':' rest
  let (mi, rest) ← exactNumber 2 rest
  let ((), rest) ← literal ':' rest
  let (s, rest) ← exactNumber 2 rest
  let (n, rest) ← fraction rest
  let (minutes, rest) ← offset (fun cs => (literal ':' cs).map (·.2)) rest
  let date ← Date.of? y m d
  let time ← TimeOfDay.ofShown? h mi s n
  let value ← OffsetTimestamp.of? ⟨date, time⟩ minutes
  some (value, rest)

end SqlExecution.Calendar

namespace SqlExecution

def Date.read? (text : String) : Option Date := Calendar.whole Calendar.date text

def Timestamp.read? (text : String) : Option Timestamp := Calendar.whole Calendar.timestamp text

def OffsetTimestamp.read? (text : String) : Option OffsetTimestamp :=
  Calendar.whole Calendar.offsetTimestamp text

def OffsetTimestamp.readStrict? (text : String) : Option OffsetTimestamp :=
  match Calendar.strictOffsetTimestamp text.toList with
  | some (value, []) => some value
  | _ => none

end SqlExecution
