import BleSwarm.Air.Station

/-!
# What is on the air is vouched for

The transport of every device is grounded in what the air brought, and whoever sent a frame
had reason to: each OPEN is of a session that was started, each HELLO of a session that was
accepted, and the payload of each DATA frame was handed to a stream of that session.
-/

namespace BleSwarm

open BleSwarm.Core BleSwarm.Transport

namespace Transport

variable {ev : Evidence} {t : Transport}

theorem transmit_traces {st : Ref} {payload : Bytes} (ackWrites : Bool) (now : Nat) (native : Native)
    (handed : st < t.core.streams.next → (t.core.streams.get st).pipe = .gatt →
      ev.handed st payload) :
    Traces (t.env now native) ev (t.begin native).core
      (t.transmit st payload ackWrites now native).core := by
  by_cases made : st < t.core.streams.next ∧ (t.core.streams.get st).pipe = .gatt
  · exact .send _ ackWrites (handed made.1 made.2)
  · have none : (t.transmit st payload ackWrites now native).core = (t.begin native).core := by
      have streams : (t.begin native).core.streams = t.core.streams := rfl
      refine if_neg ?_
      simpa [streams] using made
    rw [none]
    exact .refl _

end Transport

namespace Station

variable {ev : Evidence} {s : Station}

/-- What a deed brings from outside is evidence. -/
def Brings (ev : Evidence) (s : Station) : Deed → Prop
  | .act a => s.transport.Brings ev a
  | .transmit st payload _ _ _ =>
    st < s.core.streams.next → (s.core.streams.get st).pipe = .gatt → ev.handed st payload

theorem step_cfg (s : Station) (d : Deed) : (s.step d).transport.cfg = s.transport.cfg := by
  cases d with
  | act a => exact act_cfg s.transport a
  | transmit st payload ackWrites now native => rfl

theorem step_grounded {d : Deed} (brings : s.Brings ev d) (g : Grounded ev s.transport.cfg s.core) :
    Grounded ev s.transport.cfg (s.step d).core := by
  cases d with
  | act a =>
    have cfg : (s.transport.act a).cfg = s.transport.cfg := act_cfg s.transport a
    exact act_grounded brings g
  | transmit st payload ackWrites now native =>
    have traces := transmit_traces (t := s.transport) ackWrites now native brings
    exact traces.grounded (begin_grounded native g)

theorem step_lasts (s : Station) (d : Deed) : Lasts s.core (s.step d).core := by
  cases d with
  | act a => exact act_lasts s.transport a
  | transmit st payload ackWrites now native =>
    have begun : Lasts s.core (s.transport.begin native).core := { Lasts.refl s.core with }
    exact begun.trans (sendFragment_lasts _ _ st payload ackWrites)

end Station

namespace Airspace

variable {ι : Type*} {w : Airspace ι} {s : Sky ι} {e : ι × Deed}

/-- Every transport believes only what the air brought. -/
structure Justified (w : Airspace ι) (s : Sky ι) : Prop where
  cfg : ∀ i, (s.nodes i).transport.cfg = w.cfg i
  grounded : ∀ i, Grounded (w.evidence s i) (w.cfg i) (s.nodes i).core
  small : ∀ i, ∀ psm ∈ (s.nodes i).published, psm < 65536

/-- The sender of a message had reason to. -/
def Vouches (w : Airspace ι) (s : Sky ι) : Message ι → Prop
  | .write j i frame => ∃ p withResponse, w.peer j p = i ∧
    Stated (w.evidence s j) (w.cfg j) (s.nodes j).core (.send p frame withResponse)
  | .notification j frame => Noted (w.evidence s j) (w.cfg j) (s.nodes j).core frame

theorem silent_justified (topic : ι → Option Bytes) (online : ι → Bool)
    (ids : ι → Ref → PeripheralId) : w.Justified (w.silent topic online ids) where
  cfg _ := rfl
  grounded i := create_grounded (w.cfg i) (topic i) (online i) (ids i)
  small _ := List.forall_mem_nil _

theorem admitted_small (admitted : w.network.Admitted s e) : ∀ psm ∈ e.2.published, psm < 65536 := by
  obtain ⟨i, d⟩ := e
  intro psm mem
  cases d with
  | transmit st payload ackWrites now native => cases mem
  | act a =>
    cases a with
    | input input =>
      obtain ⟨now, native, event⟩ := input
      cases event with
      | channelPublish port =>
        obtain rfl := List.mem_singleton.mp mem
        exact admitted
      | _ => cases mem
    | _ => cases mem

variable [DecidableEq ι]

/-- What a device may do brings nothing but evidence. -/
theorem admitted_brings (admitted : w.network.Admitted s e) :
    (s.nodes e.1).Brings (w.evidence (w.network.act s e) e.1) e.2 := by
  obtain ⟨i, d⟩ := e
  have here : (w.network.act s (i, d)).nodes i = (s.nodes i).step d := w.network.act_self s (i, d)
  have aired : ∀ m ∈ s.air, m ∈ (w.network.act s (i, d)).air := fun m => List.mem_append_left _
  cases d with
  | transmit st payload ackWrites now native =>
    intro made gatt
    simp only [evidence, here]
    apply List.mem_append_right
    simp [Deed.handed, made, gatt]
  | act a =>
    cases a with
    | input input =>
      obtain ⟨now, native, event⟩ := input
      cases event with
      | writeRequests requests =>
        intro req mem
        obtain ⟨j, sent⟩ := admitted req mem
        exact ⟨j, aired _ sent⟩
      | notify p data => exact aired _ admitted
      | channelPublish psm =>
        simp only [Station.Brings, Transport.Brings, Attested, evidence, here]
        exact List.mem_append_right _ List.mem_cons_self
      | notifyState p isNotifying =>
        intro subscribed waits st bound
        subst subscribed
        simp only [evidence, here]
        apply List.mem_append_right
        simp only [Deed.reused, if_neg waits]
        exact Option.mem_toList.mpr bound
      | _ => trivial
    | _ => trivial

theorem act_cfg (cfg : ∀ i, (s.nodes i).transport.cfg = w.cfg i) (i : ι) :
    ((w.network.act s e).nodes i).transport.cfg = w.cfg i := by
  let Same : Station → Station → Prop := fun x y => y.transport.cfg = x.transport.cfg
  have same := w.network.act_related (R := Same) (fun _ => rfl) ((s.nodes e.1).step_cfg e.2) i
  exact same.trans (cfg i)

theorem act_lasts (s : Sky ι) (e : ι × Deed) (i : ι) :
    Lasts (s.nodes i).core ((w.network.act s e).nodes i).core := by
  let Stays : Station → Station → Prop := fun x y => Lasts x.core y.core
  exact w.network.act_related (R := Stays) (fun x => .refl x.core) ((s.nodes e.1).step_lasts e.2) i

theorem act_justified (justified : w.Justified s) (admitted : w.network.Admitted s e) :
    w.Justified (w.network.act s e) where
  cfg := act_cfg justified.cfg
  grounded i := by
    have before := (justified.grounded i).mono (evidence_le s e i)
    by_cases same : i = e.1
    · subst same
      have brings := admitted_brings admitted
      have here : (w.network.act s e).nodes e.1 = (s.nodes e.1).step e.2 := w.network.act_self s e
      rw [← justified.cfg e.1] at before ⊢
      rw [here]
      exact Station.step_grounded brings before
    · rw [w.network.act_of_ne s same]
      exact before
  small i := by
    by_cases same : i = e.1
    · subst same
      have here : (w.network.act s e).nodes e.1 = (s.nodes e.1).step e.2 := w.network.act_self s e
      rw [here]
      intro psm mem
      rcases List.mem_append.mp mem with old | new
      · exact justified.small e.1 psm old
      · exact admitted_small admitted psm new
    · rw [w.network.act_of_ne s same]
      exact justified.small i

/-- A message stays vouched for. -/
theorem vouches_act {m : Message ι} (vouches : w.Vouches s m) :
    w.Vouches (w.network.act s e) m := by
  cases m with
  | write j i frame =>
    obtain ⟨p, withResponse, there, stated⟩ := vouches
    exact ⟨p, withResponse, there, (stated.mono (evidence_le s e j)).lasts (act_lasts s e j)⟩
  | notification j frame => exact (vouches.mono (evidence_le s e j)).lasts (act_lasts s e j)

/-- A device vouches for what it says. -/
theorem speaks_vouched (justified : w.Justified (w.network.act s e)) {m : Message ι}
    (mem : m ∈ w.network.speaks e.1 (s.nodes e.1) e.2) : w.Vouches (w.network.act s e) m := by
  have here : (w.network.act s e).nodes e.1 = (s.nodes e.1).step e.2 := w.network.act_self s e
  have grounded := justified.grounded e.1
  rw [here] at grounded
  rcases List.mem_append.mp mem with write | notification
  · obtain ⟨command, issued, is⟩ := List.mem_filterMap.mp write
    have stated := grounded.commands command issued
    cases command with
    | send p frame withResponse =>
      obtain rfl := Option.some.inj is
      refine ⟨p, withResponse, rfl, ?_⟩
      rw [here]
      exact stated
    | _ => cases is
  · obtain ⟨frame, taken, rfl⟩ := List.mem_map.mp notification
    have noted := grounded.accepted frame (List.mem_of_mem_drop taken)
    simp only [Vouches, here]
    exact noted

/-- The devices get here by what they may do. -/
def Reachable (w : Airspace ι) (s : Sky ι) : Prop :=
  ∃ topic online ids es, Runs.Each w.network.act w.network.Admitted (w.silent topic online ids) es ∧
    Runs.run w.network.act (w.silent topic online ids) es = s

theorem Reachable.justified (reachable : w.Reachable s) :
    w.Justified s ∧ Network.Vouched w.Vouches s := by
  obtain ⟨topic, online, ids, es, admitted, rfl⟩ := reachable
  apply Network.sound ?_ ?_ ?_ (silent_justified topic online ids) (List.forall_mem_nil _) admitted
  · exact fun _ _ justified _ admitted => act_justified justified admitted
  · exact fun _ _ _ _ _ vouches => vouches_act vouches
  · exact fun _ _ justified _ admitted _ mem => speaks_vouched (act_justified justified admitted) mem

end Airspace

end BleSwarm
