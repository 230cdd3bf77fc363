import SqlExecution.Text.Inspect

/-! What a hook before an operation may decide: to let the operation run, or to
supply its result. -/

namespace SqlExecution

inductive Interception (α : Type) where
  | noResult
  | hasResult (value : α)
  deriving DecidableEq, Repr

namespace Interception

variable {α β : Type}

def hasValue : Interception α → Bool
  | noResult => false
  | hasResult _ => true

def toOption : Interception α → Option α
  | noResult => none
  | hasResult a => some a

def ofOption : Option α → Interception α
  | none => noResult
  | some a => hasResult a

def map (f : α → β) : Interception α → Interception β
  | noResult => noResult
  | hasResult a => hasResult (f a)

def inspect (text : α → String) : Interception α → String
  | noResult => "NoResult"
  | hasResult a => Text.applied "HasResult" (text a)

def mapM {m : Type → Type} [Monad m] {α β : Type} (f : α → m β) : Interception α → m (Interception β)
  | noResult => pure noResult
  | hasResult a => hasResult <$> f a

end Interception

end SqlExecution
