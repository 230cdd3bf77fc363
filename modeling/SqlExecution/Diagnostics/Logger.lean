import SqlExecution.Diagnostics.Interceptor
import SqlExecution.Diagnostics.Options

/-! Loggers: options and the interceptors that events are delivered to, in order of registration. An
event that neither an interceptor nor a trace record would show is not raised. -/

namespace SqlExecution

structure Logger (σ : Type) where
  options : DiagnosticsOptions
  commandInterceptors : List (CommandInterceptor σ)
  transactionInterceptors : List (TransactionInterceptor σ)

namespace Logger

variable {σ : Type}

def raisesCreate (l : Logger σ) (limit : Option TraceLevel) : Bool :=
  l.options.createEvents && (!l.commandInterceptors.isEmpty || TraceLevel.debug.isKept limit)

def raisesExecute (l : Logger σ) (limit : Option TraceLevel) : Bool :=
  l.options.executeEvents && (!l.commandInterceptors.isEmpty || TraceLevel.info.isKept limit)

def raisesTransaction (l : Logger σ) (limit : Option TraceLevel) : Bool :=
  !l.transactionInterceptors.isEmpty || TraceLevel.debug.isKept limit

/-- The parameters of a command, values hidden unless the options show them, and its timeout
in whole seconds. -/
def describe (l : Logger σ) (c : NativeCommand) : String :=
  "Parameters=[" ++ NativeParameter.logTexts l.options.sensitiveData c.parameters ++ "]" ++
    match c.timeout with
    | none => ""
    | some ms => ", CommandTimeout='" ++ Value.intText (ms / 1000 : Nat) ++ "'"

open Text

def inspect (l : Logger σ) : String :=
  recordText "DiagnosticsLogger" [field "options" l.options.inspect,
    field "command_interceptors" (Value.intText l.commandInterceptors.length),
    field "transaction_interceptors" (Value.intText l.transactionInterceptors.length)]

end Logger

end SqlExecution
