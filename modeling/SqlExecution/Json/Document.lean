import SqlExecution.Json.Basic
import SqlExecution.Json.Token

/-! The shape of JSON text before any limit is applied: numbers as written, members in order and
repeated names kept. A stack of open containers reads it from the tokens. -/

namespace SqlExecution.Json

inductive Document where
  | null
  | bool (b : Bool)
  | number (n : NumberText)
  | string (content : Option String)
  | array (items : List Document)
  | object (members : List (Option String × Document))
  deriving Inhabited

/-- A container whose end is not read yet, its contents last first. -/
inductive Frame where
  | items (done : List Document)
  | members (done : List (Option String × Document))
  | value (done : List (Option String × Document)) (name : Option String)

inductive Phase where
  | value (mayClose : Bool)
  | name (mayClose : Bool)
  | colon
  | next
  | complete (d : Document)

structure Reading where
  frames : List Frame
  phase : Phase

namespace Reading

def initial : Reading := ⟨[], .value false⟩

/-- Place a finished value in the innermost open container. -/
def deliver (d : Document) : List Frame → Option Reading
  | [] => some ⟨[], .complete d⟩
  | .items done :: rest => some ⟨.items (d :: done) :: rest, .next⟩
  | .value done name :: rest => some ⟨.members ((name, d) :: done) :: rest, .next⟩
  | .members _ :: _ => none

def closeArray : List Frame → Option Reading
  | .items done :: rest => deliver (.array done.reverse) rest
  | _ => none

def closeObject : List Frame → Option Reading
  | .members done :: rest => deliver (.object done.reverse) rest
  | _ => none

def stepValue (frames : List Frame) (mayClose : Bool) : Token → Option Reading
  | .null => deliver .null frames
  | .bool b => deliver (.bool b) frames
  | .number n => deliver (.number n) frames
  | .string s => deliver (.string s) frames
  | .openArray => some ⟨.items [] :: frames, .value true⟩
  | .openObject => some ⟨.members [] :: frames, .name true⟩
  | .closeArray => if mayClose then closeArray frames else none
  | _ => none

def stepName (frames : List Frame) (mayClose : Bool) : Token → Option Reading
  | .string s => match frames with
    | .members done :: rest => some ⟨.value done s :: rest, .colon⟩
    | _ => none
  | .closeObject => if mayClose then closeObject frames else none
  | _ => none

def stepNext (frames : List Frame) : Token → Option Reading
  | .comma => match frames with
    | .items _ :: _ => some ⟨frames, .value false⟩
    | .members _ :: _ => some ⟨frames, .name false⟩
    | _ => none
  | .closeArray => closeArray frames
  | .closeObject => closeObject frames
  | _ => none

def step (r : Reading) (t : Token) : Option Reading :=
  match r.phase with
  | .value mayClose => stepValue r.frames mayClose t
  | .name mayClose => stepName r.frames mayClose t
  | .colon => if t = .colon then some ⟨r.frames, .value false⟩ else none
  | .next => stepNext r.frames t
  | .complete _ => none

def run : Reading → List Token → Option Document
  | r, [] => match r.phase with
    | .complete d => some d
    | _ => none
  | r, t :: ts => (r.step t).bind (run · ts)

end Reading

def Document.read? (text : String) : Option Document :=
  (tokens? text).bind Reading.initial.run

end SqlExecution.Json
