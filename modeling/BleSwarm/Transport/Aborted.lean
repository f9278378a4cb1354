import BleSwarm.Transport.Outbound.Step
import BleSwarm.Transport.Yield

/-!
# Aborted dials

`_endCentral` takes the session off its peripheral, `_abortDial` leaves it there. What
arrives late for the session of an aborted dial therefore still finds it.
-/

namespace BleSwarm

namespace Core

variable (env : Env) (c : Core)

/-- The notification is a HELLO for the session of the peripheral, which has no stream and opens
no channel, and the HELLO is acceptable on the gatt pipe. -/
def welcomes (p : Ref) (data : Bytes) : Bool :=
  match (c.peripheral p).session, decodeFrame (some data) with
  | some sess, some f =>
    let hello := decodeKeyPayload f.payload
    f.id == (c.central.sessions.get sess).id && f.type == typeHello &&
      (c.peripheral p).stream.isNone && !(c.central.sessions.get sess).upgrading &&
      env.cfg.accept hello.key && (c.links.peers.get? (toHex hello.key)).isNone &&
      env.cfg.pipeFor hello.flags == some .gatt
  | _, _ => false

/-- The attempt has its channel, its session is still that of the peripheral, and the preamble can
be written. -/
def takesChannel (a : Ref) : Bool :=
  let attempt := c.central.attempts.get a
  !attempt.resumed && (attempt.result.bind id).isSome &&
    (c.peripheral attempt.peripheral).session == some attempt.session && !env.halted &&
    !env.native.preambleThrows

theorem helloFate_bound_iff (p sess : Ref) (payload : Bytes) :
    c.helloFate env p sess payload = some .bound ↔
      (c.peripheral p).stream = none ∧ (c.central.sessions.get sess).upgrading = false ∧
      env.cfg.accept (decodeKeyPayload payload).key = true ∧
      c.links.peers.get? (toHex (decodeKeyPayload payload).key) = none ∧
      env.cfg.pipeFor (decodeKeyPayload payload).flags = some .gatt := by
  simp only [helloFate]
  cases stream : (c.peripheral p).stream with
  | some st => simp
  | none =>
    cases upgrading : (c.central.sessions.get sess).upgrading with
    | true => simp
    | false =>
      cases accepted : env.cfg.accept (decodeKeyPayload payload).key with
      | false => simp
      | true =>
        cases linked : c.links.peers.get? (toHex (decodeKeyPayload payload).key) with
        | some r => simp
        | none =>
          simp only [Option.isSome_none, Bool.or_self, Bool.not_true, if_neg Bool.false_ne_true]
          split <;> simp_all

theorem notifyFate_bound_iff (p : Ref) (data : Bytes) :
    c.notifyFate env p data = some .bound ↔ c.welcomes env p data = true := by
  simp only [notifyFate, welcomes]
  cases (c.peripheral p).session with
  | none => simp
  | some sess =>
    cases decodeFrame (some data) with
    | none => simp
    | some f =>
      by_cases own : f.id = (c.central.sessions.get sess).id
      · by_cases hello : f.type = typeHello
        · simp [own, hello, helloFate_bound_iff, and_assoc]
        · have closes : (if f.type = typeClose then
              if (c.peripheral p).stream.isSome then none else some Fate.ended else none) ≠
                some .bound := by
            split
            · split <;> simp
            · simp
          simp [own, hello, closes]
      · simp [own]

theorem openFate_bound_iff (a : Ref) :
    c.openFate env a = some .bound ↔ c.takesChannel env a = true := by
  simp only [openFate, takesChannel]
  cases resumed : (c.central.attempts.get a).resumed with
  | true => simp
  | false =>
    rcases result : (c.central.attempts.get a).result with _ | _ | ch
    · simp
    · simp
    · by_cases current : (c.peripheral (c.central.attempts.get a).peripheral).session =
          some (c.central.attempts.get a).session
      · cases env.halted <;> cases env.native.preambleThrows <;> simp [current]
      · simp [current]

end Core

open BleSwarm.Core BleSwarm.Transport

/-- A transport, and the peripherals whose last dial was aborted. -/
structure Aborting where
  transport : Transport
  /-- `_abortDial` was called for the peripheral since its last 'connect' event. -/
  aborted : Ref → Bool := fun _ => false

namespace Aborting

def abortedAfter (w : Aborting) (a : Action) (p : Ref) : Bool :=
  match a with
  | .input i =>
    match i.event with
    | .connect q => if q = p then false else w.aborted p
    | _ => w.transport.ends a = some (p, .aborted) || w.aborted p
  | _ => w.aborted p

def act (w : Aborting) (a : Action) : Aborting where
  transport := w.transport.act a
  aborted := w.abortedAfter a

/-- No stream is bound to a peripheral whose dial was aborted. -/
def Forsakes (w : Aborting) (a : Action) : Prop := ∀ p ∈ w.transport.binds a, w.aborted p = false

/-- No HELLO is welcome for the session that an aborted dial left behind, and no open resumes
for it with a channel. -/
def Unanswered (w : Aborting) : Action → Prop
  | .input i =>
    match i.event with
    | .notify p data => w.transport.life.opened = true → w.aborted p = true →
      0 < (w.transport.listeners p).notify →
        w.transport.core.welcomes (w.transport.env i.now i.native) p data = false
    | .resumeOpen a => w.transport.life.opened = true →
      w.aborted (w.transport.core.central.attempts.get a).peripheral = true →
        w.transport.core.takesChannel (w.transport.env i.now i.native) a = false
    | _ => True
  | _ => True

instance (w : Aborting) (a : Action) : Decidable (w.Forsakes a) :=
  inferInstanceAs (Decidable (∀ _ ∈ _, _))

instance (w : Aborting) (a : Action) : Decidable (w.Unanswered a) := by
  unfold Unanswered
  rcases a with ⟨_, _, event⟩ | _
  · rcases event with _ | _ <;> infer_instance
  all_goals infer_instance

/-- A stream is bound by a welcome HELLO, or by an open that resumes with a channel. -/
theorem ends_bound_iff (t : Transport) (i : Input) (p : Ref) : t.ends (.input i) = some (p, .bound) ↔
    t.life.opened = true ∧
      ((∃ data, i.event = .notify p data ∧ 0 < (t.listeners p).notify ∧
        t.core.welcomes (t.env i.now i.native) p data = true) ∨
      ∃ a, i.event = .resumeOpen a ∧ (t.core.central.attempts.get a).peripheral = p ∧
        t.core.takesChannel (t.env i.now i.native) a = true) := by
  simp only [← notifyFate_bound_iff, ← openFate_bound_iff]
  cases opened : t.life.opened with
  | false => simp [ends, opened]
  | true =>
    obtain ⟨now, native, event⟩ := i
    simp only [ends, opened, if_true, true_and]
    cases event with
    | notify q data =>
      unfold fate
      dsimp only
      split
      · rename_i hears
        simp only [Option.map_eq_some_iff, Prod.mk.injEq]
        constructor
        · rintro ⟨f, answered, rfl, rfl⟩
          exact .inl ⟨data, rfl, hears, answered⟩
        · rintro (⟨_, ⟨⟩, -, answered⟩ | ⟨_, ⟨⟩, -⟩)
          exact ⟨_, answered, rfl, rfl⟩
      · rename_i deaf
        refine ⟨fun ends => (by cases ends), ?_⟩
        rintro (⟨_, ⟨⟩, hears, -⟩ | ⟨_, ⟨⟩, -⟩)
        exact absurd hears deaf
    | resumeOpen a => simp [fate, and_comm]
    | _ => simp [fate]

theorem forsakes_iff (w : Aborting) (a : Action) : w.Forsakes a ↔ w.Unanswered a := by
  have binds : w.Forsakes a ↔ ∀ p, w.transport.ends a = some (p, .bound) → w.aborted p = false :=
    forall_congr' fun p => imp_congr_left (w.transport.mem_binds_iff a p)
  rw [binds]
  cases a with
  | input i =>
    simp only [ends_bound_iff]
    obtain ⟨now, native, event⟩ := i
    cases event with
    | notify q data => cases old : w.aborted q <;> simp [Unanswered, old]
    | resumeOpen a =>
      cases old : w.aborted (w.transport.core.central.attempts.get a).peripheral <;>
        simp [Unanswered, old]
    | _ => simp [Unanswered]
  | _ => simp [ends, Unanswered]

end Aborting

end BleSwarm
