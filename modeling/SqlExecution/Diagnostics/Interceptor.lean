import SqlExecution.Diagnostics.Event
import SqlExecution.Native.Driver

/-! Interceptors. A hook before an operation is offered the result so far and may supply one; a hook
after it may replace the value; the hooks on failure and disposal only watch. -/

namespace SqlExecution

/-- The hooks around one way of executing. -/
structure Around (σ α : Type) where
  executing : NativeCommand → CommandEvent → Interception α → Dual σ (Interception α)
  executed : NativeCommand → CommandEvent → α → Dual σ α

def Around.passThrough {σ α : Type} : Around σ α := ⟨fun _ _ i => .pure i, fun _ _ a => .pure a⟩

structure CommandInterceptor (σ : Type) where
  name : String
  coverage : Coverage
  creating : CommandEvent → Interception NativeCommand → Act σ (Result (Interception NativeCommand))
  /-- May change or replace the command, also when it fails. -/
  created : CommandEvent → NativeCommand → Act σ (NativeCommand × Result Unit)
  nonQuery : Around σ Int64
  scalar : Around σ (Option Value)
  reader : Around σ Cursor
  failed : Mode → NativeCommand → CommandEvent → Error → Act σ Unit
  disposing : Mode → NativeCommand → CommandEvent → Disposal → Act σ Unit

def CommandInterceptor.passThrough {σ : Type} (name : String) : CommandInterceptor σ where
  name := name
  coverage := .none
  creating _ i s := (.ok i, s)
  created _ c s := ((c, .ok ()), s)
  nonQuery := .passThrough
  scalar := .passThrough
  reader := .passThrough
  failed _ _ _ _ s := ((), s)
  disposing _ _ _ _ s := ((), s)

structure TransactionInterceptor (σ : Type) where
  name : String
  coverage : Coverage
  starting : TransactionEvent → Interception NativeTransaction → Dual σ (Interception NativeTransaction)
  started : TransactionEvent → NativeTransaction → Dual σ NativeTransaction

def TransactionInterceptor.passThrough {σ : Type} (name : String) : TransactionInterceptor σ where
  name := name
  coverage := .none
  starting _ i := .pure i
  started _ t := .pure t

end SqlExecution
