import BleSwarm.Air.Agreement
import BleSwarm.Transport.Peers

/-!
# What the handshake adds

OPEN and HELLO only announce keys. A noise handshake runs between the two ends of a channel
and proves to each the key of the other. Links that are delivered are then between devices
that accepted each other under the very keys they are delivered with.
-/

namespace BleSwarm

open BleSwarm.Core BleSwarm.Transport

namespace Core

theorem sendFragment_quiet (env : Env) (c : Core) (st : Ref) (payload : Bytes) (ackWrites : Bool) :
    Quiet c (c.sendFragment env st payload ackWrites) := by
  simp only [sendFragment]
  split
  · split
    · exact notify_quiet env c _
    · exact issue_quiet c _
  · exact .refl c

end Core

namespace Transport

/-- Only the 'open' event of a noise stream delivers a link. -/
theorem act_delivers (t : Transport) (a : Action) :
    (t.act a).core.links.delivered = t.core.links.delivered ∨
    ∃ i r key, a = .input i ∧ i.event = .connOpen r key ∧ r < t.core.links.conns.next ∧
      (t.act a).core.links.delivered = t.core.links.delivered ++ [(r, key)] := by
  rcases act_links t a with holds | ⟨i, r, key, rfl, event, run⟩ | ⟨i, r, rfl, -, run⟩
  · exact .inl holds.delivered
  · rw [run]
    rcases onConnOpen_delivered (t.env i.now i.native) (t.begin i.native).core r key with
      same | ⟨there, more⟩
    · exact .inl same
    · exact .inr ⟨i, r, key, rfl, event, there, more⟩
  · rw [run]
    exact .inl (Links.onClose_lists _ r).1

end Transport

namespace Station

theorem step_delivers (s : Station) (d : Deed) :
    (s.step d).core.links.delivered = s.core.links.delivered ∨
    ∃ i r key, d = .act (.input i) ∧ i.event = .connOpen r key ∧ r < s.core.links.conns.next ∧
      (s.step d).core.links.delivered = s.core.links.delivered ++ [(r, key)] := by
  cases d with
  | act a =>
    refine (act_delivers s.transport a).imp_right ?_
    rintro ⟨i, r, key, rfl, opens⟩
    exact ⟨i, r, key, rfl, opens⟩
  | transmit st payload ackWrites now native =>
    left
    have quiet := sendFragment_quiet (s.transport.env now native) (s.transport.begin native).core st
      payload ackWrites
    exact congrArg Links.delivered quiet.links

end Station

namespace Airspace

variable {ι : Type*}

/-- The links are at opposite ends of a session. -/
structure Facing (w : Airspace ι) (s : Sky ι) (i : ι) (r : Ref) (j : ι) (r' : Ref) : Prop where
  here : r < (s.nodes i).core.links.conns.next
  there : r' < (s.nodes j).core.links.conns.next
  opposite : w.Opposite s i ((s.nodes i).core.links.conns.get r).stream j
    ((s.nodes j).core.links.conns.get r').stream

/-- The handshake of a link completes with a link at the opposite end of its session, and
proves the key of the device there. -/
def Handshakes (w : Airspace ι) (s : Sky ι) (e : ι × Deed) : Prop :=
  match e.2 with
  | .act (.input input) =>
    match input.event with
    | .connOpen r key => r < (s.nodes e.1).core.links.conns.next →
      ∃ j r', w.Facing s e.1 r j r' ∧ key = (w.cfg j).publicKey
    | _ => True
  | _ => True

/-- Every delivered link faces one at the device whose key it is delivered under. -/
def Faced (w : Airspace ι) (s : Sky ι) : Prop :=
  ∀ i, ∀ d ∈ (s.nodes i).core.links.delivered,
    ∃ j r', w.Facing s i d.1 j r' ∧ d.2 = (w.cfg j).publicKey

/-- What the two ends of a session know of each other. -/
structure Agreed (w : Airspace ι) (s : Sky ι) (i : ι) (r : Ref) (j : ι) (r' : Ref) : Prop where
  announced : ((s.nodes i).core.links.conns.get r).announced = (w.cfg j).publicKey
  answered : ((s.nodes j).core.links.conns.get r').announced = (w.cfg i).publicKey
  accepts : (w.cfg i).accept (w.cfg j).publicKey = true
  accepted : (w.cfg j).accept (w.cfg i).publicKey = true
  pipe : (w.cfg i).pipe = (w.cfg j).pipe
  roles : ((s.nodes j).core.links.conns.get r').isInitiator =
    !((s.nodes i).core.links.conns.get r).isInitiator

variable [DecidableEq ι] {w : Airspace ι} {s : Sky ι} {e : ι × Deed} {i j : ι} {r r' : Ref}

/-! Sessions and their streams stay where they are. -/

theorem Paired.act {a b : ι} {n k : Ref} (h : w.Paired s a n b k) :
    w.Paired (w.network.act s e) a n b k := by
  have opener := act_lasts (w := w) s e a
  have accepter := act_lasts (w := w) s e b
  obtain ⟨id, announced⟩ := accepter.session k h.accepted
  exact { h with
    started := h.started.trans_le opener.started
    asked := List.mem_append_left _ h.asked
    accepted := h.accepted.trans_le accepter.sessions
    id := id.trans h.id
    announced := announced.trans h.announced }

theorem Bridge.act {a b : ι} {st st' : Ref} (h : w.Bridge s a st b st')
    (made : st < (s.nodes a).core.streams.next) (made' : st' < (s.nodes b).core.streams.next) :
    w.Bridge (w.network.act s e) a st b st' := by
  obtain ⟨p, n, k, owner, peer, paired, owner'⟩ := h
  exact ⟨p, n, k, ((act_lasts (w := w) s e a).owner st made).trans owner, peer, paired.act,
    ((act_lasts (w := w) s e b).owner st' made').trans owner'⟩

theorem Facing.act (justified : w.Justified s) (h : w.Facing s i r j r') :
    w.Facing (w.network.act s e) i r j r' := by
  have near := act_lasts (w := w) s e i
  have far := act_lasts (w := w) s e j
  have same : (((w.network.act s e).nodes i).core.links.conns.get r).stream =
      ((s.nodes i).core.links.conns.get r).stream := congrArg Prod.fst (near.link r h.here)
  have same' : (((w.network.act s e).nodes j).core.links.conns.get r').stream =
      ((s.nodes j).core.links.conns.get r').stream := congrArg Prod.fst (far.link r' h.there)
  have made := ((justified.grounded i).links r h.here).1
  have made' := ((justified.grounded j).links r' h.there).1
  refine ⟨h.here.trans_le near.links, h.there.trans_le far.links, ?_⟩
  rw [same, same']
  exact h.opposite.imp (fun bridge => bridge.act made made') fun bridge => bridge.act made' made

/-- What is delivered in a step faces a link. -/
theorem act_faced (justified : w.Justified s) (handshakes : w.Handshakes s e) (faced : w.Faced s) :
    w.Faced (w.network.act s e) := by
  intro i d delivered
  have old : d ∈ (s.nodes i).core.links.delivered → ∃ j r', w.Facing s i d.1 j r' ∧
      d.2 = (w.cfg j).publicKey := faced i d
  suffices before : ∃ j r', w.Facing s i d.1 j r' ∧ d.2 = (w.cfg j).publicKey by
    obtain ⟨j, r', facing, key⟩ := before
    exact ⟨j, r', facing.act justified, key⟩
  by_cases same : i = e.1
  · subst same
    have here : (w.network.act s e).nodes e.1 = (s.nodes e.1).step e.2 := w.network.act_self s e
    rw [here] at delivered
    rcases (s.nodes e.1).step_delivers e.2 with same | ⟨input, r, key, deed, event, there, more⟩
    · exact old (same ▸ delivered)
    · rw [more] at delivered
      rcases List.mem_append.mp delivered with before | new
      · exact old before
      · obtain rfl := List.mem_singleton.mp new
        simp only [Handshakes, deed, event] at handshakes
        exact handshakes there
  · rw [w.network.act_of_ne s same] at delivered
    exact old delivered

/-! What the ends of a session know. -/

omit [DecidableEq ι] in
theorem Agreed.symm (h : w.Agreed s i r j r') : w.Agreed s j r' i r where
  announced := h.answered
  answered := h.announced
  accepts := h.accepted
  accepted := h.accepts
  pipe := h.pipe.symm
  roles := by rw [h.roles, Bool.not_not]

omit [DecidableEq ι] in
theorem bridge_agreed (lawful : w.Lawful) (distinct : w.Distinct s) (justified : w.Justified s)
    (vouched : Network.Vouched w.Vouches s) (here : r < (s.nodes i).core.links.conns.next)
    (there : r' < (s.nodes j).core.links.conns.next)
    (bridge : w.Bridge s i ((s.nodes i).core.links.conns.get r).stream j
      ((s.nodes j).core.links.conns.get r').stream) : w.Agreed s i r j r' := by
  obtain ⟨p, n, k, owner, rfl, paired, owner'⟩ := bridge
  obtain ⟨-, joined⟩ := (justified.grounded i).links r here
  obtain ⟨-, joined'⟩ := (justified.grounded _).links r' there
  rw [owner] at joined
  rw [owner'] at joined'
  obtain ⟨dials, flags, psm, told, accepts, -⟩ := joined
  obtain ⟨announced, -⟩ := told_paired lawful distinct justified vouched paired.started told
  exact {
    announced := announced
    answered := joined'.2.trans paired.announced
    accepts := announced ▸ accepts
    accepted := paired.accepts
    pipe := paired.pipe
    roles := by rw [joined'.1, dials]; rfl }

/-- Two devices that a link is delivered between stand at the two ends of one session, accepted
each other under the keys that the handshake proved, are on the same pipe, and one of them dialed. -/
theorem delivered_agrees (lawful : w.Lawful) (topic : ι → Option Bytes) (online : ι → Bool)
    (ids : ι → Ref → PeripheralId) {es : List (ι × Deed)}
    (admitted : Runs.Each w.network.act w.network.Admitted (w.silent topic online ids) es)
    (handshakes : Runs.Each w.network.act w.Handshakes (w.silent topic online ids) es)
    (reached : Runs.run w.network.act (w.silent topic online ids) es = s)
    (distinct : w.Distinct s) (i : ι) (r : Ref) (key : Bytes)
    (delivered : (r, key) ∈ (s.nodes i).core.links.delivered) :
    ∃ j r', key = (w.cfg j).publicKey ∧ w.Facing s i r j r' ∧ w.Agreed s i r j r' := by
  let Kept : Sky ι → Prop := fun s => w.Justified s ∧ w.Faced s
  have start : Kept (w.silent topic online ids) :=
    ⟨silent_justified topic online ids, fun i d mem => by cases mem⟩
  have step : ∀ s e, Kept s → w.network.Admitted s e ∧ w.Handshakes s e →
      Kept (w.network.act s e) := by
    rintro s e ⟨justified, faced⟩ ⟨admitted, handshakes⟩
    exact ⟨act_justified justified admitted, act_faced justified handshakes faced⟩
  obtain ⟨-, faced⟩ := Runs.invariant step start (Runs.each_and admitted handshakes)
  rw [reached] at faced
  have reachable : w.Reachable s := ⟨topic, online, ids, es, admitted, reached⟩
  obtain ⟨justified, vouched⟩ := reachable.justified
  obtain ⟨j, r', facing, proved⟩ := faced i (r, key) delivered
  refine ⟨j, r', proved, facing, ?_⟩
  rcases facing.opposite with bridge | bridge
  · exact bridge_agreed lawful distinct justified vouched facing.here facing.there bridge
  · exact (bridge_agreed lawful distinct justified vouched facing.there facing.here bridge).symm

/-- A handshake completes. -/
def completes : Deed → Bool
  | .act (.input input) =>
    match input.event with
    | .connOpen _ _ => true
    | _ => false
  | _ => false

omit [DecidableEq ι] in
theorem handshakes_of_not_completes (s : Sky ι) (rest : completes e.2 = false) :
    w.Handshakes s e := by
  obtain ⟨i, d⟩ := e
  cases d with
  | transmit st payload ackWrites now native => trivial
  | act a =>
    cases a with
    | input input =>
      obtain ⟨now, native, event⟩ := input
      cases event with
      | connOpen r key => cases rest
      | _ => trivial
    | _ => trivial

theorem delivered_agrees_of_two :
    let w := twoDevices .gatt
    let key := List.replicate 32 2
    let s := acquainted .gatt none [(false, hears 8 (.connOpen 0 key))]
    ∃ j r', key = (w.cfg j).publicKey ∧ w.Facing s false 0 j r' ∧ w.Agreed s false 0 j r' := by
  intro w key s
  let met := acquainted .gatt none []
  have air : met.air = [.write false true (openFrame (w.cfg false) ((w.cfg false).randomId 0)),
      .notification true (helloFrame (w.cfg true) ((w.cfg false).randomId 0) none)] := by
    decide +kernel
  have paired : w.Paired met false 0 true 0 := {
    started := by decide +kernel
    asked := air ▸ List.mem_cons_self
    accepted := by decide +kernel
    id := by decide +kernel
    announced := by decide +kernel
    accepts := by decide +kernel
    pipe := rfl }
  have facing : w.Facing met false 0 true 0 := {
    here := by decide +kernel
    there := by decide +kernel
    opposite := .inl ⟨0, 0, 0, by decide +kernel, rfl, paired, by decide +kernel⟩ }
  let Any : Sky Bool → Prop := fun _ => True
  have start : Any (w.silent (fun _ => none) (fun _ => false) fun _ p => p) := trivial
  have quiet : Runs.Each w.network.act (fun _ e => completes e.2 = false) _
    (acquaint .gatt none []) :=
    Runs.each_of_mem (by decide) (w.silent (fun _ => none) (fun _ => false) fun _ p => p)
  have before : Runs.Each w.network.act w.Handshakes _ (acquaint .gatt none []) :=
    Runs.each_of_invariant (fun _ _ _ _ => trivial)
      (fun s e _ rest => handshakes_of_not_completes s rest) start quiet
  have handshakes : Runs.Each w.network.act w.Handshakes
      (w.silent (fun _ => none) (fun _ => false) fun _ p => p)
      (acquaint .gatt none [(false, hears 8 (.connOpen 0 key))]) :=
    Runs.each_append.mpr ⟨before, ⟨fun _ => ⟨true, 0, facing, rfl⟩, trivial⟩⟩
  have delivered : (s.nodes false).core.links.delivered = [(0, key)] := by decide +kernel
  exact delivered_agrees (twoDevices_lawful .gatt) _ _ _ (by decide +kernel) handshakes rfl
    (distinct_of_one (by decide +kernel) (by decide +kernel)) false 0 key
    (delivered ▸ List.mem_singleton_self _)

end Airspace

end BleSwarm
