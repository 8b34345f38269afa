import LightStream.Proofs.Entries
import LightStream.Proofs.Replacement
import LightStream.Proofs.Traces

/-!
The administration operations over the history of a control group: one at a time, decided once.
-/

namespace LightStream

structure Administrations where
  stored : AdministrationRequestId → Option AdministrationOperation
  active : Option AdministrationOperation

namespace Administrations

variable {before after : Administrations}

/-- What a command does to the operations: nothing, or it begins one, ends the pending one, or
clears an ended one. -/
inductive Move (before after : Administrations) : Prop
  | kept (same : after = before) : Move before after
  | began (intent : AdministrationIntent) (fresh : before.stored intent.request = none)
      (idle : before.active = none)
      (stored : after.stored intent.request = some (.pending intent))
      (others : ∀ other, other ≠ intent.request → after.stored other = before.stored other)
      (active : after.active = some (.pending intent)) : Move before after
  | ended (request : AdministrationRequestId) (operation settled : AdministrationOperation)
      (found : before.stored request = some operation) (pending : operation.lifecycle = .pending)
      (same : settled.intent = operation.intent) (closed : settled.lifecycle ≠ .pending)
      (stored : after.stored request = some settled)
      (others : ∀ other, other ≠ request → after.stored other = before.stored other)
      (slot : after.active = none ∨ after.active = some settled) : Move before after
  | cleared (operation active : AdministrationOperation)
      (found : before.stored active.intent.request = some operation)
      (closed : operation.lifecycle ≠ .pending) (running : before.active = some active)
      (others : ∀ other, after.stored other = before.stored other) (gone : after.active = none) :
      Move before after

/-- The active operation is stored under its request, and no other one is pending. -/
structure Sound (table : Administrations) : Prop where
  own : ∀ request operation, table.stored request = some operation →
    operation.intent.request = request
  pending : ∀ request operation, table.stored request = some operation →
    operation.lifecycle = .pending → table.active = some operation
  active : ∀ active, table.active = some active →
    table.stored active.intent.request = some active

def Last (before after : Administrations) : Prop :=
  ∀ request operation, before.stored request = some operation →
    ∃ later, after.stored request = some later ∧ later.intent = operation.intent ∧
      (operation.lifecycle ≠ .pending → later = operation)

theorem Move.last (move : before.Move after) : before.Last after := by
  intro request operation stored
  cases move with
  | kept same => exact ⟨operation, by rw [same, stored], rfl, fun _ => rfl⟩
  | began intent fresh idle _ others active =>
      refine ⟨operation, ?_, rfl, fun _ => rfl⟩
      rw [others request (by grind), stored]
  | ended own operation' settled found pending same closed _ others slot =>
      by_cases own' : request = own
      · exact ⟨settled, by grind, by grind, by grind⟩
      · exact ⟨operation, (others request own').trans stored, rfl, fun _ => rfl⟩
  | cleared operation' active found closed running others gone =>
      exact ⟨operation, (others request).trans stored, rfl, fun _ => rfl⟩

theorem Sound.moved (sound : before.Sound) (move : before.Move after) : after.Sound := by
  obtain ⟨named, running, held⟩ := sound
  cases move with
  | kept same => exact same ▸ ⟨named, running, held⟩
  | began intent fresh idle began others active =>
      constructor <;> grind [AdministrationOperation.pending]
  | ended request operation settled found pending same closed ended others slot =>
      have active := running request operation found pending
      refine ⟨by grind, ?_, by grind⟩
      -- a second pending operation would be the active one too
      intro other stored holds begun
      by_cases own : other = request
      · grind
      · have stood := (others other own).symm.trans holds
        obtain rfl := Option.some.inj (active.symm.trans (running other stored stood begun))
        exact absurd ((named other operation stood).symm.trans (named request operation found)) own
  | cleared operation active found closed running others gone => constructor <;> grind

end Administrations

namespace GroupView

variable {view : GroupView} {logId : GroupLogId}

end GroupView

namespace GroupDb

variable {identity : GroupIdentity} {window : Nat} {content : PayloadId → Record}
  {Allowed : GroupDb → GroupEntry → Prop} {steps : List Step} {db next : GroupDb}
  {entry : GroupEntry} {result : ApplyResult}

end GroupDb

end LightStream
