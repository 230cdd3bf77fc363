import SqlExecution.Parameter.Declared
import SqlExecution.Text.Pattern

/-! Statements: a text with its declared parameters, and the drafts that they are composed from. -/

namespace SqlExecution

structure Statement where
  text : String
  parameters : List Parameter

structure Draft where
  text : String
  parameters : List Parameter

namespace Draft

def empty : Draft := ⟨"", []⟩

def append (s : String) (d : Draft) : Draft := { d with text := d.text ++ s }

def appendLine (s : String) (d : Draft) : Draft := { d with text := d.text ++ s ++ "\n" }

def add (p : Parameter) (d : Draft) : Draft := { d with parameters := d.parameters ++ [p] }

@[simp] theorem parameters_append (s : String) (d : Draft) :
    (d.append s).parameters = d.parameters := rfl

@[simp] theorem parameters_appendLine (s : String) (d : Draft) :
    (d.appendLine s).parameters = d.parameters := rfl

@[simp] theorem text_add (p : Parameter) (d : Draft) : (d.add p).text = d.text := rfl

def namePattern : String := "^[A-Za-z_][A-Za-z0-9_]*$"

def badNamePattern (problem : String) : Error :=
  .custom ("invalid parameter name pattern: " ++ problem)

/-- The test of names, as the compiler makes it of their pattern. -/
def nameRule (compile : Pattern.Compiler) : Result (String → Bool) :=
  (compile namePattern).mapError badNamePattern

def invalidName (name : String) : Error :=
  .parameter .invalidName name ("'" ++ name ++ "' is not a valid parameter name.")

def declaredTwice (name : String) : Error :=
  .parameter .duplicate name ("The parameter '" ++ name ++ "' is declared more than once.")

/-- The first name that the rule does not accept or that was seen before. -/
def checkNames (isName : String → Bool) (seen : List String) : List String → Result Unit
  | [] => .ok ()
  | name :: rest =>
    if !isName name then .error (invalidName name)
    else if seen.contains name then .error (declaredTwice name)
    else checkNames isName (name :: seen) rest

def validateBy (compile : Pattern.Compiler) (d : Draft) : Result Unit := do
  let isName ← nameRule compile
  checkNames isName [] (d.parameters.map (·.invariant))

def template (d : Draft) : Statement := ⟨d.text, d.parameters⟩

def buildBy (compile : Pattern.Compiler) (d : Draft) : Result Statement := do
  d.validateBy compile
  return d.template

def validate (d : Draft) : Result Unit := d.validateBy Pattern.compile

def build (d : Draft) : Result Statement := d.buildBy Pattern.compile

end Draft

end SqlExecution
