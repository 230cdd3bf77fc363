import SqlExecution.Engine.Transaction

/-! The inspection texts of connections and transactions. -/

namespace SqlExecution

variable {σ : Type}

open Text

def thousandthsText (n : Nat) : String :=
  let places := (Nat.toDigits 10 (1000 + n % 1000)).drop 1
  let kept := (places.reverse.dropWhile (· == '0')).reverse
  Value.intText (n / 1000 : Nat) ++ (if kept.isEmpty then "" else "." ++ String.ofList kept)

/-- A duration in milliseconds: in seconds from one second on, in milliseconds below. -/
def durationText (ms : Nat) : String :=
  if ms ≥ 1000 then thousandthsText ms ++ "s"
  else if ms = 0 then "0ns"
  else Value.intText ms ++ "ms"

def ConnectionId.inspect (driver : String) (id : ConnectionId) : Engine σ Message := do
  let c ← Engine.connection id
  return openRecordText "RelationalConnection" [field "db" driver,
    field "connection_id" (applied "ConnectionId" id),
    field "command_timeout" (optionText (c.timeout.map fun ms => durationText ms)),
    field "open_count" (Value.intText c.openCount),
    field "current_transaction_id"
      (optionText (c.ambient.map fun a => applied "TransactionId" a.id))]

def Transaction.inspect (t : Transaction σ) : Message :=
  openRecordText "RelationalTransaction" [field "transaction_id" (applied "TransactionId" t.id),
    field "connection_id" (applied "ConnectionId" t.connection), field "owned" (boolText t.owned),
    field "state" t.state.name]

end SqlExecution
