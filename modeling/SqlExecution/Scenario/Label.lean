import SqlExecution.Message

/-! Labels. Minted identifiers differ from run to run, so texts for comparison have labels in their
place: connections by name, transactions and executions numbered in the order of their first
appearance. Durations and the details of a cancellation are left out. -/

namespace SqlExecution

/-- The identifiers seen so far, in the order of their labels, and the names of connections. -/
structure Labels where
  connectionName : ConnectionId → Option String
  transactions : List TransactionId := []
  commands : List CommandId := []

namespace Labels

/-- The place of an item, which is added at the end if it is new. -/
def place {α : Type} [DecidableEq α] (a : α) (seen : List α) : Nat × List α :=
  match seen.idxOf? a with
  | some i => (i, seen)
  | none => (seen.length, seen ++ [a])

def numbered (stem : String) (i : Nat) : String :=
  stem ++ "#" ++ String.ofList (Nat.toDigits 10 (i + 1))

/-- The label of an identifier; a connection without a name is written out. -/
def label : Identifier → StateM Labels String
  | .connection id => fun labels =>
    ((labels.connectionName id).getD (Identifier.connection id).text, labels)
  | .transaction id => fun labels =>
    let (i, seen) := place id labels.transactions
    (numbered "txn" i, { labels with transactions := seen })
  | .command id => fun labels =>
    let (i, seen) := place id labels.commands
    (numbered "cmd" i, { labels with commands := seen })

def labelPiece : Message.Piece → StateM Labels String
  | .words s => pure s
  | .identifier id => label id

def text (m : Message) : StateM Labels String := return String.join (← m.pieces.mapM labelPiece)

end Labels

namespace Text

def cancellation : List Char := "Cancelled: ".toList

def withoutReasonChars : List Char → List Char
  | [] => []
  | c :: rest =>
    if (cancellation ++ "CancelReason \x7b".toList).isPrefixOf (c :: rest) then
      cancellation ++ "<reason>".toList
    else c :: withoutReasonChars rest

/-- Cut a text short where the reason of a cancellation is given. -/
def withoutReason (s : String) : String := String.ofList (withoutReasonChars s.toList)

def afterDuration? : List Char → Option (List Char)
  | '(' :: rest =>
    match rest.takeWhile Char.isDigit, rest.dropWhile Char.isDigit with
    | _ :: _, 'm' :: 's' :: ')' :: tail => some tail
    | _, _ => none
  | _ => none

def withoutDurationChars : List Char → List Char
  | [] => []
  | c :: rest =>
    match afterDuration? (c :: rest) with
    | some tail => "(_ms)".toList ++ tail
    | none => c :: withoutDurationChars rest

def withoutDuration (s : String) : String := String.ofList (withoutDurationChars s.toList)

end Text

end SqlExecution
