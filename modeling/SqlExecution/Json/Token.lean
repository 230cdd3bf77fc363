/-! The tokens of JSON text, found by an automaton that reads one character at a time. -/

namespace SqlExecution.Json

structure NumberText where
  negative : Bool
  whole : List Char
  fraction : List Char
  exponent : Option (Bool × List Char)
  deriving DecidableEq, Repr

namespace NumberText

def wholeOk : List Char → Bool
  | [] => false
  | ['0'] => true
  | '0' :: _ => false
  | _ => true

def readExponent : List Char → Option (Option (Bool × List Char))
  | [] => some none
  | c :: rest =>
    if c == 'e' || c == 'E' then
      let (negative, ds) := match rest with
        | '-' :: t => (true, t)
        | '+' :: t => (false, t)
        | _ => (false, rest)
      if !ds.isEmpty && ds.all Char.isDigit then some (some (negative, ds)) else none
    else none

def ofChars? (cs : List Char) : Option NumberText :=
  let (negative, body) := match cs with
    | '-' :: rest => (true, rest)
    | _ => (false, cs)
  let whole := body.takeWhile Char.isDigit
  if !wholeOk whole then none
  else match body.dropWhile Char.isDigit with
    | '.' :: t =>
      let fraction := t.takeWhile Char.isDigit
      if fraction.isEmpty then none
      else (readExponent (t.dropWhile Char.isDigit)).map (⟨negative, whole, fraction, ·⟩)
    | rest => (readExponent rest).map (⟨negative, whole, [], ·⟩)

end NumberText

inductive Token where
  | openArray
  | closeArray
  | openObject
  | closeObject
  | colon
  | comma
  | null
  | bool (b : Bool)
  | number (n : NumberText)
  /-- The content, absent when half of a surrogate pair keeps it from being text. -/
  | string (content : Option String)
  deriving DecidableEq, Repr

/-- The part of a string read so far: its characters, last first, and a first half of a surrogate
pair that waits for the second. -/
structure StringPart where
  chars : List Char
  half : Option Nat
  isText : Bool
  deriving DecidableEq, Repr

namespace StringPart

def empty : StringPart := ⟨[], none, true⟩

/-- A half that does not find its partner keeps the string from being text. -/
def settle (p : StringPart) : StringPart :=
  if p.half.isSome then { p with half := none, isText := false } else p

def push (p : StringPart) (c : Char) : StringPart :=
  { p.settle with chars := c :: p.settle.chars }

/-- A sixteen-bit unit: a character, or half of a surrogate pair. -/
def pushUnit (p : StringPart) (u : Nat) : StringPart :=
  if 0xD800 ≤ u ∧ u < 0xDC00 then { p.settle with half := some u }
  else if 0xDC00 ≤ u ∧ u < 0xE000 then
    match p.half with
    | some h =>
      { p with
        half := none
        chars := Char.ofNat (0x10000 + (h - 0xD800) * 0x400 + (u - 0xDC00)) :: p.chars }
    | none => { p with isText := false }
  else p.push (Char.ofNat u)

def token (p : StringPart) : Token :=
  .string (if p.settle.isText then some (String.ofList p.chars.reverse) else none)

end StringPart

inductive LexState where
  | between
  | word (rest : List Char) (token : Token)
  | number (chars : List Char)
  | text (p : StringPart)
  | escape (p : StringPart)
  | hex (p : StringPart) (left : Nat) (unit : Nat)
  deriving DecidableEq, Repr

def isBlank (c : Char) : Bool := c == ' ' || c == '\n' || c == '\t' || c == '\r'

def isNumberChar (c : Char) : Bool :=
  c.isDigit || c == '-' || c == '+' || c == '.' || c == 'e' || c == 'E'

def hexValue? (c : Char) : Option Nat :=
  if c.isDigit then some (c.toNat - '0'.toNat)
  else if 'a' ≤ c ∧ c ≤ 'f' then some (c.toNat - 'a'.toNat + 10)
  else if 'A' ≤ c ∧ c ≤ 'F' then some (c.toNat - 'A'.toNat + 10)
  else none

def unescape? : Char → Option Char
  | '"' => some '"'
  | '\\' => some '\\'
  | '/' => some '/'
  | 'b' => some '\x08'
  | 'f' => some '\x0c'
  | 'n' => some '\n'
  | 'r' => some '\r'
  | 't' => some '\t'
  | _ => none

namespace LexState

def start (c : Char) : Option (List Token × LexState) :=
  if isBlank c then some ([], between)
  else match c with
    | '[' => some ([.openArray], between)
    | ']' => some ([.closeArray], between)
    | '{' => some ([.openObject], between)
    | '}' => some ([.closeObject], between)
    | ':' => some ([.colon], between)
    | ',' => some ([.comma], between)
    | '"' => some ([], text .empty)
    | 'n' => some ([], word ['u', 'l', 'l'] .null)
    | 't' => some ([], word ['r', 'u', 'e'] (.bool true))
    | 'f' => some ([], word ['a', 'l', 's', 'e'] (.bool false))
    | _ => if c.isDigit || c == '-' then some ([], number [c]) else none

def step : LexState → Char → Option (List Token × LexState)
  | between, c => start c
  | word [] _, _ => none
  | word [e] token, c => if c = e then some ([token], between) else none
  | word (e :: rest) token, c => if c = e then some ([], word rest token) else none
  | number cs, c =>
    if isNumberChar c then some ([], number (c :: cs))
    else do
      let n ← NumberText.ofChars? cs.reverse
      let (tokens, next) ← start c
      some (.number n :: tokens, next)
  | text p, c =>
    if c = '"' then some ([p.token], between)
    else if c = '\\' then some ([], escape p)
    else if c.toNat < 0x20 then none
    else some ([], text (p.push c))
  | escape p, c =>
    if c = 'u' then some ([], hex p 4 0)
    else (unescape? c).map fun e => ([], text (p.push e))
  | hex p left unit, c => do
    let d ← hexValue? c
    let unit := 16 * unit + d
    if left ≤ 1 then some ([], text (p.pushUnit unit)) else some ([], hex p (left - 1) unit)

def finish : LexState → Option (List Token)
  | between => some []
  | number cs => (NumberText.ofChars? cs.reverse).map ([.number ·])
  | _ => none

def run : LexState → List Char → Option (List Token)
  | s, [] => s.finish
  | s, c :: cs => do
    let (tokens, next) ← s.step c
    let rest ← run next cs
    some (tokens ++ rest)

end LexState

def tokens? (text : String) : Option (List Token) := LexState.between.run text.toList

end SqlExecution.Json
