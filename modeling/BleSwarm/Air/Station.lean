import BleSwarm.Lib.Network
import BleSwarm.Transport.Mailed

/-!
# Devices on the air

Every device runs a transport. What its central writes goes to the device behind the
peripheral, what its server notifies goes to whoever subscribed. The air may lose a frame,
deliver it late, out of order or more than once, but it makes none up.
-/

namespace BleSwarm

variable {ι : Type*}

/-- A frame on the air. -/
inductive Message (ι : Type*)
  | write (src dst : ι) (frame : Bytes)
  | notification (src : ι) (frame : Bytes)
  deriving DecidableEq

/-- What a device does: a step of its transport, or the transmission of a fragment that its
owner wrote to a gatt stream. -/
inductive Deed
  | act (a : Action)
  | transmit (st : Ref) (payload : Bytes) (ackWrites : Bool) (now : Nat) (native : Native)

namespace Deed

/-- The psm that the native server reports. -/
def published : Deed → List Nat
  | .act (.input i) =>
    match i.event with
    | .channelPublish psm => [psm]
    | _ => []
  | _ => []

/-- What is handed to a gatt stream. -/
def handed (c : Core) : Deed → List (Ref × Bytes)
  | .transmit st payload _ _ _ =>
    if st < c.streams.next && (c.streams.get st).pipe = .gatt then [(st, payload)] else []
  | _ => []

/-- The frames that the server takes. -/
def heard (t : Transport) : Deed → List Bytes
  | .act a => t.takes a
  | _ => []

/-- The stream that is bound to a peripheral object when a session is started on that. -/
def reused (t : Transport) : Deed → List Ref
  | .act (.input i) =>
    match i.event with
    | .notifyState p true =>
      if (t.listeners p).notifyState = 0 then [] else (t.core.peripheral p).stream.toList
    | _ => []
  | _ => []

end Deed

/-- A gatt stream sends a fragment. -/
def Transport.transmit (t : Transport) (st : Ref) (payload : Bytes) (ackWrites : Bool) (now : Nat)
    (native : Native) : Transport :=
  let t := t.begin native
  t.withCore fun c => c.sendFragment (t.env now native) st payload ackWrites

/-- A transport with what came to it from its own device so far and what its server took. -/
structure Station where
  transport : Transport
  published : List Nat := []
  handed : List (Ref × Bytes) := []
  reused : List Ref := []
  heard : List Bytes := []

namespace Station

def core (s : Station) : Core := s.transport.core

def step (s : Station) (d : Deed) : Station where
  transport :=
    match d with
    | .act a => s.transport.act a
    | .transmit st payload ackWrites now native => s.transport.transmit st payload ackWrites now native
  published := s.published ++ d.published
  handed := s.handed ++ d.handed s.core
  reused := s.reused ++ d.reused s.transport
  heard := s.heard ++ d.heard s.transport

end Station

/-- All stations and all that was said. -/
abbrev Sky (ι : Type*) := Network.State ι Station (Message ι)

/-- The devices and which of them is behind a peripheral object of another. -/
structure Airspace (ι : Type*) where
  cfg : ι → Config
  peer : ι → Ref → ι

namespace Airspace

variable (w : Airspace ι)

/-- The frame that a command puts on the air. -/
def written (i : ι) : Command → Option (Message ι)
  | .send p frame _ => some (.write i (w.peer i p) frame)
  | _ => none

/-- What a device puts on the air as it takes a step: the frames that its central writes and
those that its native server newly accepts. -/
def speaks (i : ι) (s : Station) (d : Deed) : List (Message ι) :=
  (s.step d).core.out.filterMap (w.written i) ++
    ((s.step d).core.gatt.accepted.drop s.core.gatt.accepted.length).map (.notification i)

/-- A frame only comes to a device that was on the air to it, and a psm has two bytes. -/
def admits (air : List (Message ι)) (i : ι) : Deed → Prop
  | .act (.input input) =>
    match input.event with
    | .writeRequests requests => ∀ req ∈ requests, ∃ j, .write j i req.1 ∈ air
    | .notify p data => .notification (w.peer i p) data ∈ air
    | .channelPublish psm => psm < 65536
    | _ => True
  | _ => True

def network : Network ι Station Deed (Message ι) where
  step _ := Station.step
  speaks := w.speaks
  admits _ := w.admits

/-- Every transport is as constructed, and the air is empty. -/
def silent (topic : ι → Option Bytes) (online : ι → Bool) (ids : ι → Ref → PeripheralId) :
    Sky ι where
  nodes i := { transport := .create (w.cfg i) (topic i) (online i) (ids i) }

/-- What came to the transport of a device. -/
def evidence (s : Sky ι) (i : ι) : Evidence where
  written frame := ∃ j, .write j i frame ∈ s.air
  notified p frame := .notification (w.peer i p) frame ∈ s.air
  published psm := psm ∈ (s.nodes i).published
  handed st payload := (st, payload) ∈ (s.nodes i).handed
  reused st := st ∈ (s.nodes i).reused

variable [DecidableEq ι]

/-- The message writes the frame to the device. -/
def writes (i : ι) (frame : Bytes) : Message ι → Bool
  | .write _ dst written => decide (dst = i) && decide (written = frame)
  | .notification _ _ => false

theorem any_writes (air : List (Message ι)) (i : ι) (frame : Bytes) :
    air.any (writes i frame) = true ↔ ∃ j, .write j i frame ∈ air := by
  rw [List.any_eq_true]
  constructor
  · rintro ⟨m, mem, same⟩
    cases m with
    | write j dst written =>
      simp only [writes, Bool.and_eq_true, decide_eq_true_eq] at same
      obtain ⟨rfl, rfl⟩ := same
      exact ⟨j, mem⟩
    | notification j written => cases same
  · rintro ⟨j, mem⟩
    exact ⟨_, mem, by simp [writes]⟩

instance (air : List (Message ι)) (i : ι) (frame : Bytes) :
    Decidable (∃ j, .write j i frame ∈ air) := decidable_of_iff _ (any_writes air i frame)

instance (air : List (Message ι)) (i : ι) (d : Deed) : Decidable (w.admits air i d) := by
  unfold admits
  rcases d with (⟨_, _, event⟩ | _) | _
  · rcases event with _ | _ <;> infer_instance
  all_goals infer_instance

instance (s : Sky ι) (e : ι × Deed) : Decidable (w.network.Admitted s e) :=
  inferInstanceAs (Decidable (w.admits s.air e.1 e.2))

variable {w} {s : Sky ι}

/-- A step adds to the evidence of every device. -/
theorem evidence_le (s : Sky ι) (e : ι × Deed) (i : ι) :
    w.evidence s i ≤ w.evidence (w.network.act s e) i := by
  let Holds : Station → Station → Prop := fun x y =>
    x.published ⊆ y.published ∧ x.handed ⊆ y.handed ∧ x.reused ⊆ y.reused
  have stays : ∀ x, Holds x x := fun _ => ⟨fun _ => id, fun _ => id, fun _ => id⟩
  have more : ∀ x d, Holds x (x.step d) := by
    refine fun x d => ⟨fun v mem => ?_, fun v mem => ?_, fun v mem => ?_⟩
    all_goals exact List.mem_append_left _ mem
  obtain ⟨published, handed, reused⟩ := w.network.act_related stays (more (s.nodes e.1) e.2) i
  exact {
    written := fun frame ⟨j, mem⟩ => ⟨j, List.mem_append_left _ mem⟩
    notified := fun p frame mem => List.mem_append_left _ mem
    published := fun psm mem => published mem
    handed := fun st payload mem => handed mem
    reused := fun st mem => reused mem }

end Airspace

end BleSwarm
