import BleSwarm.Transport.Outbound.Step
import BleSwarm.Transport.Yield

/-!
# The deadline of a dial

A dial has no other guard against a peripheral that never answers than its timer, which
also makes it count in `connecting`. An error of the central names no peripheral, and its
handler clears the timer of every dial.
-/

namespace BleSwarm

open BleSwarm.Core BleSwarm.Transport

/-- A step, and whose connect it reports as failed (for statements only). -/
structure Report where
  action : Action
  failed : Option PeripheralId := none

/-- A transport and the dials in flight on it. -/
structure Flights where
  transport : Transport
  /-- Those for which `connect` was called and which have not been bound, ended, aborted or
  reported as failed since. -/
  flying : List PeripheralId := []

namespace Flights

/-- The dial of the peripheral ends with the step. -/
def lands (w : Flights) (r : Report) (id : PeripheralId) : Bool :=
  (w.transport.ends r.action).any (fun e => (w.transport.core.peripheral e.1).id == id) ||
    (failure r.action && r.failed == some id)

def act (w : Flights) (r : Report) : Flights where
  transport := w.transport.act r.action
  flying :=
    (w.flying ++ (w.transport.act r.action).core.outbound.connects.map
      fun p => (w.transport.core.peripheral p).id).filter fun id => !w.lands r id

/-- The dial timer of the peripheral is armed, which makes it one of those `connecting`. -/
def hasTimer (t : Transport) (id : PeripheralId) : Bool := (t.core.outbound.timers id).isSome

/-- Behind the step every dial in flight has its timer. -/
def Timed (w : Flights) (r : Report) : Prop :=
  ∀ id ∈ (w.act r).flying, hasTimer (w.act r).transport id = true

/-- A failed connect is reported while no other dial is in flight. -/
def Alone (w : Flights) (r : Report) : Prop :=
  w.transport.life.opened = true → failure r.action = true → ∀ id ∈ w.flying, r.failed = some id

instance (w : Flights) (r : Report) : Decidable (w.Timed r) := inferInstanceAs (Decidable (∀ _ ∈ _, _))

instance (w : Flights) (r : Report) : Decidable (w.Alone r) := inferInstanceAs (Decidable (_ → _ → _))

/-- Every dial in flight on a running transport has its timer. -/
structure Guarded (w : Flights) : Prop where
  live : w.transport.halted = false
  timed : ∀ id ∈ w.flying, hasTimer w.transport id = true

theorem mem_flying {w : Flights} {r : Report} {id : PeripheralId} :
    id ∈ (w.act r).flying ↔ w.lands r id = false ∧ (id ∈ w.flying ∨
      ∃ p ∈ (w.transport.act r.action).core.outbound.connects, (w.transport.core.peripheral p).id = id) := by
  simp only [act, List.mem_filter, List.mem_append, List.mem_map, Bool.not_eq_true']
  exact and_comm

/-- All steps but the report of a failed connect. -/
theorem Guarded.timed_of_heeds {w : Flights} (h : w.Guarded) {r : Report} (undisturbed : Undisturbed r.action)
    (heeds : failure r.action = false) : w.Timed r := by
  intro id mem
  obtain ⟨flies, mem⟩ := mem_flying.mp mem
  obtain ⟨env, -, moves⟩ := act_moves_of_undisturbed h.live undisturbed heeds
  have other : ∀ p f, w.transport.ends r.action = some (p, f) → w.transport.outset.ids p ≠ id := by
    intro p f ends here
    have here : (w.transport.core.peripheral p).id = id := here
    simp [lands, ends, here] at flies
  rcases moves.kept other with ⟨timers, -, connects⟩ | ⟨⟨p, timers⟩, -⟩
  · have old : id ∈ w.flying := by
      rcases mem with old | ⟨p, mem, here⟩
      · exact old
      · cases (connects p here).mp mem
    have before := h.timed id old
    unfold hasTimer at before ⊢
    exact (congrArg Option.isSome timers).trans before
  · exact congrArg Option.isSome timers

/-- The report of a failed connect leaves a timer to no dial. -/
theorem Guarded.timed_failure_iff {w : Flights} (h : w.Guarded) {r : Report}
    (failed : failure r.action = true) : w.Timed r ↔ w.Alone r := by
  obtain ⟨i, action, event⟩ := (failure_iff r.action).mp failed
  have ends : w.transport.ends r.action = none := by
    rw [action, ends, event]
    exact ite_self _
  have lands : ∀ id, w.lands r id = true ↔ r.failed = some id := by
    intro id
    simp [Flights.lands, ends, failed]
  rcases act_failure (t := w.transport) failed with ⟨still, opened⟩ | ⟨severed, opened⟩
  · change (w.act r).transport.core.outbound = _ at still
    refine iff_of_true (fun id mem => ?_) fun here => absurd (opened.symm.trans here) (by simp)
    obtain ⟨-, old | ⟨p, mem, -⟩⟩ := mem_flying.mp mem
    · rw [hasTimer, still]
      exact h.timed id old
    · change p ∈ (w.act r).transport.core.outbound.connects at mem
      rw [still] at mem
      cases mem
  · change (w.act r).transport.core.outbound = _ at severed
    constructor
    · intro timed _ _ id mem
      by_contra other
      have flies : id ∈ (w.act r).flying :=
        mem_flying.mpr ⟨by simpa using mt (lands id).mp other, .inl mem⟩
      have timed := timed id flies
      rw [hasTimer, severed] at timed
      cases timed
    · intro alone id mem
      obtain ⟨flies, old | ⟨p, mem, -⟩⟩ := mem_flying.mp mem
      · rw [(lands id).mpr (alone opened failed id old)] at flies
        cases flies
      · change p ∈ (w.act r).transport.core.outbound.connects at mem
        rw [severed] at mem
        cases mem

theorem Guarded.timed_iff {w : Flights} (h : w.Guarded) {r : Report} (undisturbed : Undisturbed r.action) :
    w.Timed r ↔ w.Alone r := by
  cases failed : failure r.action with
  | false =>
    have timed := h.timed_of_heeds undisturbed failed
    exact iff_of_true timed fun _ here => absurd (failed.symm.trans here) (by simp)
  | true => exact h.timed_failure_iff failed

/-- Every dial in flight keeps its deadline exactly in the runs in which no other dial is in
flight when a failed connect is reported. -/
theorem deadlines_kept_iff (cfg : Config) (topic : Option Bytes) (online : Bool)
    (ids : Ref → PeripheralId) (reports : List Report)
    (undisturbed : ∀ r ∈ reports, Undisturbed r.action) :
    Runs.Each act Timed { transport := create cfg topic online ids } reports ↔
      Runs.Each act Alone { transport := create cfg topic online ids } reports := by
  have same : ∀ (w : Flights) (r : Report), w.Guarded → Undisturbed r.action →
      (w.Timed r ↔ w.Alone r) := fun w r h ok => h.timed_iff ok
  have keep : ∀ (w : Flights) (r : Report), w.Guarded → Undisturbed r.action → w.Timed r →
      (w.act r).Guarded := fun w r h ok timed => ⟨act_live h.live ok, timed⟩
  refine Runs.each_iff_of_allowed same keep ?_ (Runs.each_of_mem undisturbed _)
  exact ⟨rfl, fun _ mem => by cases mem⟩

/-- Two devices are dialed half a second apart. -/
def twoDials : List Report :=
  [⟨.open .poweredOn .poweredOn 0, none⟩, ⟨.input { now := 1000, event := .discover 7 none }, none⟩,
    ⟨.input { now := 1500, event := .discover 8 none }, none⟩]

/-- The connect to the first of them fails, and the second loses its deadline. -/
theorem failure_strips_others :
    let cfg := Config.plain (List.replicate 32 1) .gatt .ios
    ¬ Runs.Each act Timed { transport := create cfg none false id }
      (twoDials ++ [⟨.input { now := 1600, event := .centralError true }, some 7⟩]) := by
  decide +kernel

/-- One of them is given up first, and the connect to the other fails. -/
theorem lone_failure_keeps_deadlines :
    let cfg := Config.plain (List.replicate 32 1) .gatt .ios
    Runs.Each act Timed { transport := create cfg none false id }
      (twoDials ++ [⟨.input { now := 16000, event := .dialTimeout 7 }, none⟩,
        ⟨.input { now := 16100, event := .centralError true }, some 8⟩]) := by
  intro cfg
  exact (deadlines_kept_iff cfg none false id _ (by decide)).mpr (by decide +kernel)

end Flights

end BleSwarm
