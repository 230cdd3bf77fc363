import SqlExecution.Uuid

/-! Identifiers that the engine mints. Each is a serial number within its kind; written out it is a
version 4 identifier, and no two minted identifiers are written alike. -/

namespace SqlExecution

structure ConnectionId where
  serial : Nat
  deriving DecidableEq, Repr

structure TransactionId where
  serial : Nat
  deriving DecidableEq, Repr

structure CommandId where
  serial : Nat
  deriving DecidableEq, Repr

inductive Identifier where
  | connection (id : ConnectionId)
  | transaction (id : TransactionId)
  | command (id : CommandId)
  deriving DecidableEq, Repr

namespace Identifier

/-- The identifier of the kind with the serial number zero. The kinds differ in
the leading group. -/
def base : Identifier → Nat
  | connection _ => 0xc3a51e0f9b3e4c718d52000000000000
  | transaction _ => 0x7be90d449b3e4c718d52000000000000
  | command _ => 0x2f68c1b79b3e4c718d52000000000000

def serial : Identifier → Nat
  | connection id => id.serial
  | transaction id => id.serial
  | command id => id.serial

/-- Serial numbers fill the last group. -/
def serialBound : Nat := 0x1000000000000

def uuid (id : Identifier) : Uuid := ⟨BitVec.ofNat 128 (id.base + id.serial % serialBound)⟩

def text (id : Identifier) : String := id.uuid.text

end Identifier

end SqlExecution
