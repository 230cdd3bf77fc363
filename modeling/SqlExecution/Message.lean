import SqlExecution.Identifier
import SqlExecution.Text.Inspect

/-! Messages: texts for people in which the identifiers of connections, transactions and executions
stay apart from the words around them, whatever those words are. -/

namespace SqlExecution

inductive Message.Piece where
  | words (s : String)
  | identifier (id : Identifier)
  deriving DecidableEq, Repr

/-- Words and identifiers in the order in which they are read. -/
structure Message where
  pieces : List Message.Piece
  deriving DecidableEq, Repr, Inhabited

namespace Message

def ofString (s : String) : Message := ⟨[.words s]⟩

def ofIdentifier (id : Identifier) : Message := ⟨[.identifier id]⟩

instance : Append Message := ⟨fun m n => ⟨m.pieces ++ n.pieces⟩⟩

instance : Wording Message := ⟨ofString⟩

instance : Coe String Message := ⟨ofString⟩

instance : Coe ConnectionId Message := ⟨fun id => ofIdentifier (.connection id)⟩

instance : Coe TransactionId Message := ⟨fun id => ofIdentifier (.transaction id)⟩

instance : Coe CommandId Message := ⟨fun id => ofIdentifier (.command id)⟩

def textBy (write : Identifier → String) (m : Message) : String :=
  String.join <| m.pieces.map fun
    | .words s => s
    | .identifier id => write id

def text (m : Message) : String := m.textBy Identifier.text

@[simp] theorem textBy_ofString (write : Identifier → String) (s : String) :
    (ofString s).textBy write = s := by simp [textBy, ofString, String.join]

@[simp] theorem textBy_ofIdentifier (write : Identifier → String) (id : Identifier) :
    (ofIdentifier id).textBy write = write id := by simp [textBy, ofIdentifier, String.join]

@[simp] theorem textBy_append (write : Identifier → String) (m n : Message) :
    (m ++ n).textBy write = m.textBy write ++ n.textBy write := by
  change (Message.mk (m.pieces ++ n.pieces)).textBy write = _
  simp [textBy, String.join_append]

end Message

end SqlExecution
