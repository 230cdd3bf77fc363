import SqlExecution.Error
import SqlExecution.Text.Inspect

/-! How an operation ends: with a value, an error, a cancellation or a panic. A blocking operation
knows only values and errors. -/

namespace SqlExecution

inductive CancelKind where
  | user
  | timeout
  | deadline
  | failFast
  | shutdown
  deriving DecidableEq, Repr

def CancelKind.name : CancelKind → String
  | .user => "User"
  | .timeout => "Timeout"
  | .deadline => "Deadline"
  | .failFast => "FailFast"
  | .shutdown => "Shutdown"

def CancelKind.all : List CancelKind := [.user, .timeout, .deadline, .failFast, .shutdown]

def CancelKind.ofName? (s : String) : Option CancelKind := all.find? (·.name == s)

structure CancelReason where
  kind : CancelKind
  message : Option String
  deriving DecidableEq, Repr

def CancelReason.description (r : CancelReason) : String :=
  Text.recordText "CancelReason" [Text.field "kind" r.kind.name,
    Text.field "message" (Text.optionText (r.message.map Text.quoted))]

inductive Failure where
  | error (e : Error)
  | cancelled (reason : CancelReason)
  | panicked (message : String)
  deriving DecidableEq, Repr

/-- The error that observers and blocking callers see in place of a failure. -/
def Failure.toError : Failure → Error
  | .error e => e
  | .cancelled reason => .cancelled reason.description
  | .panicked message =>
    .custom ("panicked: "
      ++ Text.recordText "PanicPayload" [Text.field "message" (Text.quoted message)])

abbrev Outcome (α : Type) := Except Failure α

/-- What a blocking operation returns. -/
abbrev Result (α : Type) := Except Error α

namespace Outcome

def ofResult {α : Type} : Result α → Outcome α
  | .ok a => .ok a
  | .error e => .error (.error e)

def toResult {α : Type} : Outcome α → Result α
  | .ok a => .ok a
  | .error f => .error f.toError

/-- What a blocking caller gets from an operation that may still be pending: there is no later. -/
def completeBlocking {α : Type} : Option (Outcome α) → Result α
  | some outcome => outcome.toResult
  | none => .error (.custom "blocking execution suspended on an asynchronous operation")

end Outcome

/-- Whether an operation blocks or runs under a context that can be cancelled. -/
inductive Mode where
  | blocking
  | async
  deriving DecidableEq, Repr

namespace Mode

def isAsync : Mode → Bool
  | blocking => false
  | async => true

def name : Mode → String
  | blocking => "Blocking"
  | async => "Async"

/-- An asynchronous operation stops here once its context is cancelled. -/
def checkpoint (mode : Mode) (cancelled : Option CancelReason) : Outcome Unit :=
  match mode, cancelled with
  | async, some reason => .error (.cancelled reason)
  | _, _ => .ok ()

@[simp] theorem checkpoint_blocking (c : Option CancelReason) : blocking.checkpoint c = .ok () :=
  rfl

@[simp] theorem checkpoint_none (mode : Mode) : mode.checkpoint none = .ok () := by
  cases mode <;> rfl

end Mode

end SqlExecution
