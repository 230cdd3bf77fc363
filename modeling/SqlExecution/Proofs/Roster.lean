import Mathlib.Logic.Function.Basic
import SqlExecution.Engine.Transaction

/-! Who keeps which transaction, and what the connections take for their ambient ones. Wrappers
enter, end and leave one at a time. Through all of that the ambient transaction of a connection
is the one of the only wrapper that is active on it. -/

namespace SqlExecution

variable {σ : Type}

namespace Transaction

def asAmbient (t : Transaction σ) : Ambient := ⟨t.native, t.id⟩

/-- The ambient transactions without that of the wrapper. A newer one on its connection stays. -/
def ceded (t : Transaction σ) (ambient : ConnectionId → Option Ambient) :
    ConnectionId → Option Ambient :=
  fun c => if c = t.connection then (ambient c).filter (·.id ≠ t.id) else ambient c

theorem ceded_eq_some_iff {t : Transaction σ} {ambient : ConnectionId → Option Ambient}
    {c : ConnectionId} {a : Ambient} :
    t.ceded ambient c = some a ↔ ambient c = some a ∧ (c = t.connection → a.id ≠ t.id) := by
  unfold ceded
  by_cases here : c = t.connection <;> simp [here, Option.filter_eq_some_iff]

theorem ceded_update {t : Transaction σ} {a : Ambient} (other : a.id ≠ t.id)
    (ambient : ConnectionId → Option Ambient) (c : ConnectionId) :
    t.ceded (Function.update ambient c (some a)) =
      Function.update (t.ceded ambient) c (some a) := by
  funext c'
  by_cases here : c' = c
  · subst here
    simp [ceded, Option.filter, other]
  · simp [ceded, Function.update_of_ne here]

end Transaction

theorem update_eq_some_iff {ι β : Type} [DecidableEq ι] {f : ι → Option β} {i j : ι} {o : Option β}
    {b : β} : Function.update f i o j = some b ↔ (j = i ∧ o = some b) ∨ (j ≠ i ∧ f j = some b) := by
  by_cases here : j = i
  · subst here
    simp
  · simp [here]

structure Roster (σ : Type) where
  ambient : ConnectionId → Option Ambient
  /-- The first serial number not minted yet. -/
  nextSerial : Nat
  kept : String → Option (Transaction σ)

namespace Roster

/-- Wrappers have identifiers of their own, minted already, and a connection has an ambient
transaction just if a wrapper is active on it. -/
structure Consistent (r : Roster σ) : Prop where
  minted {name : String} {t : Transaction σ} (kept : r.kept name = some t) :
    t.id.serial < r.nextSerial
  apart {name name' : String} {t t' : Transaction σ} (kept : r.kept name = some t)
    (kept' : r.kept name' = some t') (same : t.id = t'.id) : name = name'
  ambient (c : ConnectionId) (a : Ambient) :
    r.ambient c = some a ↔
      ∃ name t, r.kept name = some t ∧ t.state = .active ∧ t.connection = c ∧ t.asAmbient = a

namespace Consistent

variable {r : Roster σ} {name name' : String} {t t' : Transaction σ}

theorem single (consistent : r.Consistent) (kept : r.kept name = some t)
    (kept' : r.kept name' = some t') (active : t.state = .active) (active' : t'.state = .active)
    (beside : t.connection = t'.connection) : name = name' := by
  have here := (consistent.ambient _ _).2 ⟨name, t, kept, active, beside, rfl⟩
  have here' := (consistent.ambient _ _).2 ⟨name', t', kept', active', rfl, rfl⟩
  have same : t.asAmbient = t'.asAmbient := Option.some.inj (here.symm.trans here')
  exact consistent.apart kept kept' (congrArg Ambient.id same)

theorem ceded_of_inactive (consistent : r.Consistent) (kept : r.kept name = some t)
    (ended : t.state ≠ .active) : t.ceded r.ambient = r.ambient := by
  funext c
  refine Option.ext fun a => ?_
  rw [Transaction.ceded_eq_some_iff]
  refine ⟨And.left, fun found => ⟨found, fun _ same => ?_⟩⟩
  obtain ⟨name', t', kept', active, _, rfl⟩ := (consistent.ambient c a).1 found
  cases consistent.apart kept' kept same
  cases kept'.symm.trans kept
  exact ended active

theorem ceded_of_active (consistent : r.Consistent) (kept : r.kept name = some t)
    (active : t.state = .active) (c : ConnectionId) :
    t.ceded r.ambient c = if c = t.connection then none else r.ambient c := by
  unfold Transaction.ceded
  split
  · next here =>
    subst here
    rw [(consistent.ambient _ _).2 ⟨name, t, kept, active, rfl, rfl⟩]
    simp [Option.filter, Transaction.asAmbient]
  · rfl

theorem mint (consistent : r.Consistent) {next : Nat} (later : r.nextSerial ≤ next) :
    Consistent { r with nextSerial := next } where
  minted kept := Nat.lt_of_lt_of_le (consistent.minted kept) later
  apart := consistent.apart
  ambient := consistent.ambient

theorem enter (consistent : r.Consistent) (vacant : r.kept name = none)
    (free : r.ambient t.connection = none) (active : t.state = .active)
    (fresh : r.nextSerial ≤ t.id.serial) :
    Consistent
      { ambient := Function.update r.ambient t.connection (some t.asAmbient)
        nextSerial := t.id.serial + 1
        kept := Function.update r.kept name (some t) } where
  minted found := by
    rcases update_eq_some_iff.1 found with ⟨rfl, is⟩ | ⟨_, old⟩
    · cases is
      exact Nat.lt_succ_self _
    · exact Nat.lt_succ_of_lt (Nat.lt_of_lt_of_le (consistent.minted old) fresh)
  apart {k k' v v'} found found' same := by
    -- The identifier is newer than all that are kept, so only the wrapper itself has it.
    have newer : ∀ {k v}, r.kept k = some v → v.id ≠ t.id := by
      intro k v kept same
      have old := consistent.minted kept
      rw [same] at old
      omega
    rcases update_eq_some_iff.1 found with ⟨here, is⟩ | ⟨_, old⟩ <;>
      rcases update_eq_some_iff.1 found' with ⟨here', is'⟩ | ⟨_, old'⟩
    · rw [here, here']
    · cases is
      exact absurd same.symm (newer old')
    · cases is'
      exact absurd same (newer old)
    · exact consistent.apart old old' same
  ambient c a := by
    refine update_eq_some_iff.trans ⟨?_, ?_⟩
    · rintro (⟨rfl, is⟩ | ⟨_, old⟩)
      · cases is
        exact ⟨name, t, Function.update_self .., active, rfl, rfl⟩
      · obtain ⟨k, u, kept, rest⟩ := (consistent.ambient c a).1 old
        have distinct : k ≠ name := fun same => by
          rw [same, vacant] at kept
          cases kept
        exact ⟨k, u, update_eq_some_iff.2 (.inr ⟨distinct, kept⟩), rest⟩
    · rintro ⟨k, u, found, isActive, rfl, rfl⟩
      rcases update_eq_some_iff.1 found with ⟨_, is⟩ | ⟨_, old⟩
      · cases is
        exact .inl ⟨rfl, rfl⟩
      · have there := (consistent.ambient _ _).2 ⟨k, u, old, isActive, rfl, rfl⟩
        have elsewhere : u.connection ≠ t.connection := fun same => by
          rw [same, free] at there
          cases there
        exact .inr ⟨elsewhere, there⟩

theorem cede (consistent : r.Consistent) (kept : r.kept name = some t)
    {successor : Option (Transaction σ)}
    (ended : ∀ u ∈ successor, u.id = t.id ∧ u.state ≠ .active) :
    Consistent
      { r with
        ambient := t.ceded r.ambient
        kept := Function.update r.kept name successor } := by
  -- Under every name there was a wrapper with the identifier of the one that is there now.
  have before : ∀ {k v}, Function.update r.kept name successor k = some v →
      ∃ v', r.kept k = some v' ∧ v'.id = v.id := by
    intro k v found
    rcases update_eq_some_iff.1 found with ⟨rfl, is⟩ | ⟨_, old⟩
    · exact ⟨t, kept, (ended v is).1.symm⟩
    · exact ⟨v, old, rfl⟩
  refine ⟨fun found => ?_, fun found found' same => ?_, fun c a => ?_⟩
  · obtain ⟨v, kept, id⟩ := before found
    exact id ▸ consistent.minted kept
  · obtain ⟨v, kept, id⟩ := before found
    obtain ⟨v', kept', id'⟩ := before found'
    exact consistent.apart kept kept' (by rw [id, id', same])
  · refine Transaction.ceded_eq_some_iff.trans ⟨?_, ?_⟩
    · rintro ⟨ambient, distinct⟩
      obtain ⟨k, u, old, active, rfl, rfl⟩ := (consistent.ambient c a).1 ambient
      have other : k ≠ name := fun same => by
        rw [same, kept] at old
        cases old
        exact distinct rfl rfl
      exact ⟨k, u, update_eq_some_iff.2 (.inr ⟨other, old⟩), active, rfl, rfl⟩
    · rintro ⟨k, u, found, active, rfl, rfl⟩
      rcases update_eq_some_iff.1 found with ⟨_, is⟩ | ⟨other, old⟩
      · exact absurd active (ended u is).2
      · exact ⟨(consistent.ambient _ _).2 ⟨k, u, old, active, rfl, rfl⟩,
          fun _ id => other (consistent.apart old kept id)⟩

end Consistent

end Roster

end SqlExecution
