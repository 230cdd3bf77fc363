/-! Regular expressions of a plain kind: anchors, classes of characters, and such classes repeated.
A compiler is given the text of an expression; `Pattern.compile` knows this kind only. -/

namespace SqlExecution

/-- A letter, a digit or an underscore: it stands for itself in an expression. -/
structure WordChar where
  char : Char
  plain : char.isAlphanum = true ∨ char = '_'
  deriving DecidableEq

inductive ClassItem where
  | single (c : WordChar)
  | range (low high : WordChar) (ordered : low.char ≤ high.char)

structure CharClass where
  items : List ClassItem
  nonempty : items ≠ []

inductive PatternPart where
  | start
  | finish
  | one (k : CharClass)
  | many (k : CharClass)

abbrev Pattern := List PatternPart

def WordChar.of? (c : Char) : Option WordChar :=
  if plain : c.isAlphanum = true ∨ c = '_' then some ⟨c, plain⟩ else none

theorem WordChar.of?_self (c : WordChar) : of? c.char = some c := by simp [of?, c.plain]

namespace ClassItem

def chars : ClassItem → List Char
  | single c => [c.char]
  | range low high _ => [low.char, '-', high.char]

def has : ClassItem → Char → Bool
  | single c, d => d == c.char
  | range low high _, d => decide (low.char ≤ d) && decide (d ≤ high.char)

end ClassItem

namespace CharClass

def chars (k : CharClass) : List Char := '[' :: (k.items.flatMap ClassItem.chars ++ [']'])

def has (k : CharClass) (c : Char) : Bool := k.items.any (·.has c)

end CharClass

def PatternPart.chars : PatternPart → List Char
  | start => ['^']
  | finish => ['$']
  | one k => k.chars
  | many k => k.chars ++ ['*']

namespace Pattern

def text (p : Pattern) : String := String.ofList (p.flatMap PatternPart.chars)

/-- Whether `next` goes on behind some characters that are all admitted, or behind none. The flag
tells whether nothing precedes. -/
def skips (admits : Char → Bool) (next : Bool → List Char → Bool) : Bool → List Char → Bool
  | opening, [] => next opening []
  | opening, c :: cs => next opening (c :: cs) || admits c && skips admits next false cs

/-- Whether the expression matches from here on. -/
def fits : Pattern → Bool → List Char → Bool
  | [], _, _ => true
  | .start :: p, opening, cs => opening && fits p opening cs
  | .finish :: p, opening, cs => cs.isEmpty && fits p opening cs
  | .one _ :: _, _, [] => false
  | .one k :: p, _, c :: cs => k.has c && fits p false cs
  | .many k :: p, opening, cs => skips k.has (fits p) opening cs

def accepts (p : Pattern) (s : String) : Bool := skips (fun _ => true) (fits p) true s.toList

/-- How far an expression is read; of parts and items the latest comes first. -/
inductive Reading where
  | parts (done : List PatternPart)
  | items (done : List PatternPart) (read : List ClassItem)
  | upTo (done : List PatternPart) (read : List ClassItem) (low : WordChar)

namespace Reading

def part (done : List PatternPart) : Char → Option Reading
  | '^' => some (parts (.start :: done))
  | '$' => some (parts (.finish :: done))
  | '[' => some (items done [])
  | '*' =>
    match done with
    | .one k :: done => some (parts (.many k :: done))
    | _ => none
  | _ => none

def item (done : List PatternPart) (read : List ClassItem) : Char → Option Reading
  | ']' =>
    if nonempty : read ≠ [] then
      some (parts (.one ⟨read.reverse, mt List.reverse_eq_nil_iff.1 nonempty⟩ :: done))
    else none
  | '-' =>
    match read with
    | .single low :: read => some (upTo done read low)
    | _ => none
  | c => (WordChar.of? c).map fun c => items done (.single c :: read)

def bound (done : List PatternPart) (read : List ClassItem) (low : WordChar) (c : Char) :
    Option Reading := do
  let high ← WordChar.of? c
  if ordered : low.char ≤ high.char then some (items done (.range low high ordered :: read))
  else none

def step : Reading → Char → Option Reading
  | parts done => part done
  | items done read => item done read
  | upTo done read low => bound done read low

end Reading

def parse? (text : String) : Option Pattern := do
  match ← text.toList.foldlM Reading.step (.parts []) with
  | .parts done => some done.reverse
  | _ => none

/-- From the text of an expression to its test of other texts, or to what is wrong with it. -/
abbrev Compiler := String → Except String (String → Bool)

def compile : Compiler := fun text =>
  match parse? text with
  | some p => .ok p.accepts
  | none => .error "unsupported pattern"

end Pattern

end SqlExecution
