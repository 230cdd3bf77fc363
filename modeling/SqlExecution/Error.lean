import SqlExecution.Message

/-! What can go wrong: the connection, a command, a parameter, a reader, a transaction, or something
of an interceptor's own. Each error has a kind to branch on and a message to read. -/

namespace SqlExecution

inductive ConnectionErrorKind where
  | opening
  | closing
  | broken
  deriving DecidableEq, Repr

inductive CommandErrorKind where
  | database
  | timeout
  | cancelled
  | creation
  deriving DecidableEq, Repr

inductive ParameterErrorKind where
  | missing
  | mismatch
  | invalidName
  | duplicate
  deriving DecidableEq, Repr

inductive ReaderErrorKind where
  | closed
  | noRow
  | ordinalOutOfRange
  | nullValue
  | typeMismatch
  deriving DecidableEq, Repr

inductive TransactionErrorKind where
  | alreadyStarted
  /-- The transaction was committed, rolled back or disposed before. -/
  | completed
  | begin
  | commit
  | rollback
  deriving DecidableEq, Repr

inductive Error where
  | connection (kind : ConnectionErrorKind) (message : String) (source : Option String)
  | command (kind : CommandErrorKind) (message : String) (sql source : Option String)
  | parameter (kind : ParameterErrorKind) (parameter message : String)
  | reader (kind : ReaderErrorKind) (message : String)
  | transaction (kind : TransactionErrorKind) (message : Message) (source : Option String)
  | custom (message : String)
  deriving DecidableEq, Repr, Inhabited

namespace Error

def missingParameter (name : String) : Error :=
  .parameter .missing name ("No value provided for required parameter '" ++ name ++ "'.")

def cancelled (description : String) : Error :=
  .command .cancelled ("Cancelled: " ++ description) none none

def isCancelled : Error → Bool
  | .command .cancelled _ _ _ => true
  | _ => false

/-- The text of the error; a command error ends in the command's text where that is known. -/
def message : Error → Message
  | .connection _ m _ => "connection error: " ++ m
  | .command _ m none _ => "command error: " ++ m
  | .command _ m (some sql) _ => "command error: " ++ m ++ " (sql: " ++ sql ++ ")"
  | .parameter _ _ m => "parameter error: " ++ m
  | .reader _ m => "reader error: " ++ m
  | .transaction _ m _ => ("transaction error: " : Message) ++ m
  | .custom m => m

def source : Error → Option String
  | .connection _ _ s => s
  | .command _ _ _ s => s
  | .transaction _ _ s => s
  | _ => none

@[simp] theorem isCancelled_cancelled (description : String) :
    (cancelled description).isCancelled = true := rfl

end Error

end SqlExecution
