import BleSwarm.Transport.Deadline

/-!
# Failed dials cool

A dial that fails leaves a cooldown behind, before which its peripheral is not dialed again.
The failed connects that the central reports are the exception: their handler clears the
timers and notes nothing.
-/

namespace BleSwarm.Transport

open BleSwarm.Core Flights

instance (env : Env) (cool : Nat) : Decidable (Cooldown env cool) := inferInstanceAs (Decidable (_ ∧ _))

/-- The dials in flight. -/
def dialing (t : Transport) : List PeripheralId := t.core.dial.devices.keys.filter (hasTimer t)

/-- The dial ends with the step, and no stream is bound. -/
def fails (t : Transport) (a : Action) (id : PeripheralId) : Bool :=
  !hasTimer (t.act a) id && !(t.binds a).any fun p => (t.core.peripheral p).id == id

/-- The dials that fail leave a cooldown that begins now, and only peripherals are dialed
whose cooldown is over. -/
def Cools (t : Transport) (a : Action) : Prop :=
  (∀ id ∈ t.dialing ++ (t.dialed a).map (fun p => (t.core.peripheral p).id), t.fails a id = true →
    Cooldown (t.env (clock a)) ((t.act a).core.outbound.cools id)) ∧
  ∀ p ∈ t.dialed a, t.core.outbound.cools (t.core.peripheral p).id ≤ clock a

/-- A failed connect is reported while no dial is in flight. -/
def Unreported (t : Transport) (a : Action) : Prop :=
  t.life.opened = true → failure a = true → t.dialing = []

/-- No dial in flight began later than the event. -/
def Onward (t : Transport) : Action → Prop
  | .input i => ∀ id ∈ t.dialing, ∀ timer ∈ t.core.outbound.timers id, timer.2 ≤ i.now + connectTimeout
  | _ => True

instance (t : Transport) (a : Action) : Decidable (t.Cools a) := inferInstanceAs (Decidable (_ ∧ _))

instance (t : Transport) (a : Action) : Decidable (t.Unreported a) :=
  inferInstanceAs (Decidable (_ → _ → _))

instance (t : Transport) : ∀ a, Decidable (t.Onward a)
  | .input i =>
    decidable_of_iff (∀ id ∈ t.dialing, ∀ timer ∈ (t.core.outbound.timers id).toList,
      timer.2 ≤ i.now + connectTimeout) (by simp only [Onward, Option.mem_toList, Option.mem_def])
  | .open _ _ _ | .suspend _ _ | .drained _ _ _ | .resume _ | .close _ | .setOnline _ _
  | .setTopic _ => .isTrue trivial

theorem mem_dialing {t : Transport} {id : PeripheralId} : id ∈ t.dialing ↔ hasTimer t id = true := by
  rw [dialing, List.mem_filter]
  refine ⟨And.right, fun timed => ⟨?_, timed⟩⟩
  by_contra absent
  simp [hasTimer, outbound, (t.core.dial.devices.get?_eq_none_iff id).mpr absent] at timed

/-- All steps but the report of a failed connect. -/
theorem cools_of_heeds {t : Transport} {a : Action} (live : t.halted = false)
    (undisturbed : Undisturbed a) (heeds : failure a = false) : t.Cools a := by
  obtain ⟨env, now, moves⟩ := act_moves_of_undisturbed live undisturbed heeds
  constructor
  · intro id mem fails
    simp only [Transport.fails, Bool.and_eq_true, Bool.not_eq_true'] at fails
    obtain ⟨untimed, unbound⟩ := fails
    by_cases ended : ∃ p f, t.ends a = some (p, f) ∧ t.outset.ids p = id
    · obtain ⟨p, f, ends, here⟩ := ended
      rw [ends] at moves
      rcases moves.cooled with cooldown | ⟨sess, bound⟩
      · rw [← now, ← here]
        exact cooldown
      · have new : p ∈ t.binds a := by
          rw [binds, bound]
          simp [outset]
        rw [List.any_eq_false] at unbound
        exact absurd (by simpa [outset, outbound] using here) (unbound p new)
    · push Not at ended
      rcases moves.kept ended with ⟨timers, -, connects⟩ | ⟨⟨p, timers⟩, -⟩
      · rcases List.mem_append.mp mem with old | new
        · have timed : hasTimer (t.act a) id = true :=
            (congrArg Option.isSome timers).trans (mem_dialing.mp old)
          rw [untimed] at timed
          cases timed
        · obtain ⟨p, mem, here⟩ := List.mem_map.mp new
          cases (connects p here).mp mem
      · have timed : hasTimer (t.act a) id = true := congrArg Option.isSome timers
        rw [untimed] at timed
        cases timed
  · intro p mem
    rw [← now]
    rw [dialed] at mem
    rcases moves.connects with ⟨none, -⟩ | ⟨q, one, -, cooled, -⟩
    · rw [none] at mem
      cases mem
    · rw [one] at mem
      obtain rfl : p = q := by simpa [outset] using mem
      exact cooled

/-- A failed connect is reported, and no dial was in flight. -/
theorem cools_of_unreported {t : Transport} {a : Action} (failed : failure a = true)
    (unreported : t.Unreported a) : t.Cools a := by
  have idle : t.dialed a = [] := by
    rcases act_failure (t := t) failed with ⟨same, -⟩ | ⟨severed, -⟩
    · rw [dialed, same]
      rfl
    · rw [dialed, severed]
      rfl
  refine ⟨fun id mem fails => ?_, fun p mem => ?_⟩
  · rw [idle, List.map_nil, List.append_nil] at mem
    rcases act_failure (t := t) failed with ⟨same, -⟩ | ⟨-, opened⟩
    · have timed := mem_dialing.mp mem
      simp only [Transport.fails, hasTimer, same, Bool.and_eq_true, Bool.not_eq_true'] at fails
      exact absurd (fails.1.symm.trans timed) (by simp)
    · rw [unreported opened failed] at mem
      cases mem
  · rw [idle] at mem
    cases mem

/-- On a running transport a dial in flight began when its peripheral did not cool. -/
structure Fresh (t : Transport) : Prop where
  live : t.halted = false
  began : ∀ id p deadline, t.core.outbound.timers id = some (p, deadline) →
    t.core.outbound.cools id + connectTimeout ≤ deadline

theorem Fresh.act {t : Transport} (h : t.Fresh) {a : Action} (undisturbed : Undisturbed a) :
    (t.act a).Fresh := by
  refine ⟨act_live h.live undisturbed, fun id p deadline timer => ?_⟩
  cases failed : failure a with
  | true =>
    rcases act_failure (t := t) failed with ⟨same, -⟩ | ⟨severed, -⟩
    · rw [same] at timer ⊢
      exact h.began id p deadline timer
    · rw [severed] at timer
      cases timer
  | false =>
    obtain ⟨env, -, moves⟩ := act_moves_of_undisturbed h.live undisturbed failed
    by_cases ended : ∃ q f, t.ends a = some (q, f) ∧ t.outset.ids q = id
    · obtain ⟨q, f, ends, here⟩ := ended
      rw [ends] at moves
      have gone := moves.ended
      rw [here, timer] at gone
      cases gone
    · push Not at ended
      rcases moves.kept ended with ⟨timers, cools, -⟩ | ⟨⟨q, timers⟩, cools, -, cooled⟩
      · rw [timers] at timer
        rw [cools]
        exact h.began id p deadline timer
      · rw [timers] at timer
        obtain ⟨-, rfl⟩ := Prod.mk.inj (Option.some.inj timer)
        rw [cools]
        exact Nat.add_le_add_right cooled connectTimeout

/-- On a clock that does not go back the report of a failed connect leaves no cooldown behind. -/
theorem Fresh.unreported {t : Transport} (h : t.Fresh) {a : Action} (onward : t.Onward a)
    (cools : t.Cools a) : t.Unreported a := by
  intro opened failed
  obtain ⟨i, rfl, -⟩ := (failure_iff a).mp failed
  rcases act_failure (t := t) failed with ⟨-, unopened⟩ | ⟨severed, -⟩
  · exact absurd (opened.symm.trans unopened) (by simp)
  · rw [List.eq_nil_iff_forall_not_mem]
    intro id mem
    have fails : t.fails (.input i) id = true := by
      simp [Transport.fails, hasTimer, binds, severed, outset]
    have cooldown := (cools.1 id (List.mem_append_left _ mem) fails).1
    rw [severed] at cooldown
    obtain ⟨⟨p, deadline⟩, timer⟩ := Option.isSome_iff_exists.mp (mem_dialing.mp mem)
    have began := h.began id p deadline timer
    have begun : deadline ≤ i.now + connectTimeout := onward id mem (p, deadline) timer
    have late : i.now + dialCooldownBaseLonely ≤ t.core.outbound.cools id := cooldown
    have pause : 0 < dialCooldownBaseLonely := by decide
    omega

/-- Failed dials cool in the runs in which no failed connect is reported while a dial is in
flight, and on a clock that does not go back in no other. -/
theorem failed_dials_cool_iff (cfg : Config) (topic : Option Bytes) (online : Bool)
    (ids : Ref → PeripheralId) (actions : List Action) (undisturbed : ∀ a ∈ actions, Undisturbed a) :
    (Runs.Each act Unreported (create cfg topic online ids) actions →
      Runs.Each act Cools (create cfg topic online ids) actions) ∧
    (Runs.Each act Onward (create cfg topic online ids) actions →
      Runs.Each act Cools (create cfg topic online ids) actions →
        Runs.Each act Unreported (create cfg topic online ids) actions) := by
  have allowed : Runs.Each act (fun _ a => Undisturbed a) (create cfg topic online ids) actions :=
    Runs.each_of_mem undisturbed _
  have start : (create cfg topic online ids).Fresh := by
    refine ⟨rfl, fun id p deadline timer => ?_⟩
    cases timer
  constructor
  · intro unreported
    have keep : ∀ (t : Transport) a, t.Fresh → Undisturbed a ∧ t.Unreported a → (t.act a).Fresh :=
      fun t a h ok => h.act ok.1
    have here : ∀ (t : Transport) a, t.Fresh → Undisturbed a ∧ t.Unreported a → t.Cools a := by
      intro t a h ok
      cases failed : failure a with
      | false => exact cools_of_heeds h.live ok.1 failed
      | true => exact cools_of_unreported failed ok.2
    exact Runs.each_of_invariant keep here start (Runs.each_and allowed unreported)
  · intro onward cools
    have keep : ∀ (t : Transport) a, t.Fresh → Undisturbed a ∧ t.Onward a ∧ t.Cools a →
        (t.act a).Fresh := fun t a h ok => h.act ok.1
    have here : ∀ (t : Transport) a, t.Fresh → Undisturbed a ∧ t.Onward a ∧ t.Cools a →
        t.Unreported a := fun t a h ok => h.unreported ok.2.1 ok.2.2
    exact Runs.each_of_invariant keep here start (Runs.each_and allowed (Runs.each_and onward cools))

/-- The connect to a device fails, and it is dialed again half a second later. -/
theorem failed_connect_redialed :
    let cfg := Config.plain (List.replicate 32 1) .gatt .ios
    let run : List Action := startThen [.discover 7 none, .centralError true] ++
      [.input { now := 1500, event := .discover 7 none }]
    ¬ Runs.Each act Cools (create cfg none false id) run ∧
      .connect 7 ∈ (Runs.run act (create cfg none false id) run).core.out := by
  decide +kernel

/-- A device that lacks the service cools. -/
theorem missing_service_cools :
    let cfg := Config.plain (List.replicate 32 1) .gatt .ios
    let run := startThen [.discover 7 none, .connect 7, .servicesDiscover 7 false]
    Runs.Each act Cools (create cfg none false id) run ∧
      Runs.Each act Unreported (create cfg none false id) run := by
  intro cfg run
  have cool := failed_dials_cool_iff cfg none false id run (by decide)
  have cools := cool.1 (by decide +kernel)
  exact ⟨cools, cool.2 (by decide +kernel) cools⟩

end BleSwarm.Transport
