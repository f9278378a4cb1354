import BleSwarm.Swarm.Handled
import BleSwarm.Transport.Clean
import Mathlib.Data.Fintype.EquivFin

/-!
# How the transports of a swarm get where they are

Each was built for the swarm, served while it was the current one, and was suspended when it
was retired; since then nobody calls on it. To release its managers leaves a mark that no
handler reads, so where it is now some run of the transport's own machine gets as well.
-/

namespace BleSwarm

namespace Handling

theorem exists_actions {handlings : List Handling}
    (unreleased : ∀ h ∈ handlings, h.releases = false) :
    ∃ actions : List Action, handlings = actions.map .act := by
  induction handlings with
  | nil => exact ⟨[], rfl⟩
  | cons h handlings ih =>
    obtain ⟨actions, rfl⟩ := ih fun h mem => unreleased h (List.mem_cons_of_mem _ mem)
    have kind := unreleased h List.mem_cons_self
    cases h with
    | act a => exact ⟨a :: actions, rfl⟩
    | _ => cases kind

end Handling

namespace Transport

/-- The same but for what has been released. -/
def marked (t : Transport) (destroyed removed : Bool) : Transport :=
  { t with life.managersDestroyed := destroyed, life.servicesRemoved := removed }

/-- No handler asks what has been released. -/
theorem handle_marked (env : Env) (destroyed removed : Bool) (t : Transport) (e : Event) :
    (t.marked destroyed removed).handle
        { env with life.managersDestroyed := destroyed, life.servicesRemoved := removed } e =
      (t.handle env e).marked destroyed removed := by
  cases e with
  | notifyState p isNotifying =>
    let env' : Env :=
      { env with life.managersDestroyed := destroyed, life.servicesRemoved := removed }
    have once : Function.Semiconj (fun t : Transport => t.marked destroyed removed)
        (fun t => onNotifyState env t p isNotifying)
          (fun t => onNotifyState env' t p isNotifying) := by
      intro t
      cases isNotifying <;> rfl
    let unheard : Transport := t.setListeners p fun l => { l with notifyState := 0 }
    exact (once.iterate_right (t.listeners p).notifyState unheard).symm
  | _ => rfl

theorem act_marked (t : Transport) (a : Action) (destroyed removed : Bool) :
    (t.marked destroyed removed).act a = (t.act a).marked destroyed removed := by
  let mark : Transport → Transport := fun t => t.marked destroyed removed
  cases a with
  | input i =>
    let begun := t.begin i.native
    have handled := handle_marked (begun.env i.now i.native) destroyed removed begun i.event
    simp only [act, input]
    refine Eq.trans ?_ (apply_ite mark _ _ _).symm
    dsimp only [mark]
    rw [← handled]
    rfl
  | «open» server central now =>
    simp only [act, runOpen]
    refine Eq.trans ?_ (apply_ite mark _ _ _).symm
    rw [apply_ite mark]
    rfl
  | drained call now native =>
    simp only [act, drained]
    refine Eq.trans ?_ (apply_ite mark _ _ _).symm
    rfl
  | resume now =>
    simp only [act, resume]
    refine Eq.trans ?_ (apply_ite mark _ _ _).symm
    rfl
  | close now =>
    simp only [act, close]
    refine Eq.trans ?_ (apply_ite mark _ _ _).symm
    rw [apply_ite mark]
    rfl
  | _ => rfl

theorem run_marked (t : Transport) (actions : List Action) (destroyed removed : Bool) :
    Runs.run act (t.marked destroyed removed) actions =
      (Runs.run act t actions).marked destroyed removed := by
  induction actions generalizing t with
  | nil => rfl
  | cons a actions ih =>
    rw [Runs.run_cons, act_marked]
    exact ih (t.act a)

/-- A release is a step that does nothing, and a mark. -/
theorem exists_idle (t : Transport) : ∃ call, t.act (.drained call 0 {}) = t.begin {} := by
  obtain ⟨call, unknown⟩ := Infinite.exists_notMem_finset t.life.drains.toFinset
  refine ⟨call, ?_⟩
  simp only [act, drained]
  exact if_neg fun pending => unknown (List.mem_toFinset.mpr pending)

theorem run_served (t : Transport) (actions : List Action) :
    Runs.run handled t (actions.map .act) = Runs.run act t actions := by
  induction actions generalizing t with
  | nil => rfl
  | cons a actions ih => exact ih (t.act a)

/-- Without calls, what is done to a transport is a run of its own machine, and marks. -/
theorem run_retired (t : Transport) {handlings : List Handling}
    (uncalled : ∀ h ∈ handlings, h.commands = false) : ∃ actions destroyed removed,
    Runs.run handled t handlings = (Runs.run act t actions).marked destroyed removed ∧
      ∀ a ∈ actions, (Handling.act a).commands = false := by
  induction handlings generalizing t with
  | nil => exact ⟨[], t.life.managersDestroyed, t.life.servicesRemoved, rfl, by simp⟩
  | cons h handlings ih =>
    have rest : ∀ h ∈ handlings, h.commands = false :=
      fun h mem => uncalled h (List.mem_cons_of_mem _ mem)
    have released : ∀ before removed, t.handled h = (t.begin {}).marked before removed →
        ∃ actions destroyed removed, Runs.run handled t (h :: handlings) =
          (Runs.run act t actions).marked destroyed removed ∧
            ∀ a ∈ actions, (Handling.act a).commands = false := by
      intro before removed release
      obtain ⟨call, idle⟩ := t.exists_idle
      obtain ⟨actions, destroyed, removed', run, quiet⟩ := ih
        ((t.begin {}).marked before removed) rest
      refine ⟨.drained call 0 {} :: actions, destroyed, removed', ?_, ?_⟩
      · rw [Runs.run_cons, Runs.run_cons, release, run, idle, run_marked]
        rfl
      · rw [List.forall_mem_cons]
        exact ⟨rfl, quiet⟩
    cases h with
    | act a =>
      obtain ⟨actions, destroyed, removed, run, quiet⟩ := ih (t.act a) rest
      refine ⟨a :: actions, destroyed, removed, run, ?_⟩
      rw [List.forall_mem_cons]
      exact ⟨uncalled _ List.mem_cons_self, quiet⟩
    | destroyManagers => exact released true t.life.servicesRemoved rfl
    | removeServices => exact released t.life.managersDestroyed true rfl

end Transport

namespace BluetoothSwarm

variable {s s' : BluetoothSwarm} {turn : Turn} {k : Nat}

/-- A transport was built for the swarm, served while it was the current one, was suspended last
when it was retired, and has not been called since. -/
structure History (s : BluetoothSwarm) (k : Nat) (served retired : List Handling) : Prop where
  built : ∃ topic online, s.transports k =
    Runs.run Transport.handled (Transport.create s.cfg topic online s.ids) (served ++ retired)
  serves : ∀ h ∈ served, h.releases = false
  current : s.transport = some k → retired = []
  left : s.transport ≠ some k → ∃ h, served.getLast? = some h ∧ h.suspends = true
  rests : ∀ h ∈ retired, h.commands = false

/-- Every transport that was created has a history. -/
def Recorded (s : BluetoothSwarm) : Prop :=
  ∀ k, s.created k = true → ∃ served retired, s.History k served retired

/-- What is done in an operation is added to the history of each transport. -/
theorem Treats.recorded (treats : Treats s s') (h : s.Recorded) : s'.Recorded := by
  intro k known'
  cases known : s.created k with
  | false =>
    obtain ⟨topic, online, built⟩ := treats.built k known known'
    obtain ⟨pos, entered⟩ := (created_iff s' k).mp known'
    have new : s.gen < k := by
      by_contra old
      rw [(created_iff s k).mpr ⟨pos, by omega⟩] at known
      cases known
    have current : s'.transport = some k := treats.next.holds new entered
    refine ⟨[], [], ⟨topic, online, ?_⟩, by simp, fun _ => rfl, fun gone => absurd current gone,
      by simp⟩
    rw [treats.cfg, treats.ids]
    exact built
  | true =>
    obtain ⟨served, retired, history⟩ := h k known
    obtain ⟨handlings, handled⟩ := treats.handled k known
    obtain ⟨topic, online, run⟩ := history.built
    have grown : s'.transports k = Runs.run Transport.handled
        (Transport.create s'.cfg topic online s'.ids) (served ++ retired ++ handlings) := by
      rw [treats.cfg, treats.ids, handled.run, run]
      exact (List.foldl_append ..).symm
    by_cases serving : s.transport = some k
    · obtain rfl : retired = [] := history.current serving
      rw [List.append_nil] at grown
      refine ⟨served ++ handlings, [], ⟨topic, online, ?_⟩, ?_, fun _ => rfl, fun gone => ?_, by simp⟩
      · rw [List.append_nil]
        exact grown
      · intro x mem
        exact (List.mem_append.mp mem).elim (history.serves x) (handled.serves serving x)
      · obtain ⟨x, last, suspends⟩ := handled.leaves serving gone
        refine ⟨x, ?_, suspends⟩
        rw [List.getLast?_append, last]
        rfl
    · obtain ⟨pos, entered⟩ := (created_iff s k).mp known
      have former : s'.office.Former k := treats.next.former ⟨pos, entered, serving⟩
      refine ⟨served, retired ++ handlings, ⟨topic, online, ?_⟩, history.serves,
        fun here => absurd here former.left, fun _ => history.left serving, ?_⟩
      · rw [← List.append_assoc]
        exact grown
      · intro x mem
        exact (List.mem_append.mp mem).elim (history.rests x) (handled.rests serving x)

theorem run_recorded (cfg : Config) (ids : Ref → PeripheralId) (supported : Bool)
    (topic : Option Bytes) (online : Bool) (turns : List Turn) :
    let s := Runs.run step (create cfg ids supported topic online) turns
    s.Manned ∧ s.Recorded ∧ s.cfg = cfg ∧ s.ids = ids := by
  let Kept : BluetoothSwarm → Prop := fun s => s.Manned ∧ s.Recorded ∧ s.cfg = cfg ∧ s.ids = ids
  have keep : ∀ s turn, Kept s → Kept (s.step turn) := by
    rintro s turn ⟨manned, recorded, rfl, rfl⟩
    have treats := step_treats manned turn
    exact ⟨manned.step turn, treats.recorded recorded, treats.cfg, treats.ids⟩
  have start : Kept (create cfg ids supported topic online) := by
    refine ⟨.create cfg ids supported topic online, fun k known => ?_, rfl, rfl⟩
    obtain ⟨pos, le⟩ := (created_iff _ k).mp known
    have le : k ≤ 0 := le
    omega
  exact Runs.always keep start turns

/-- A transport is where its own machine gets from a transport as built. While it is the current
one it has only taken steps of that machine; a retired one was suspended last, has not been
called since, and may bear the marks of its release. -/
structure Lived (s : BluetoothSwarm) (k : Nat) (built : Transport) (served retired : List Action) :
    Prop where
  serves : s.transport = some k → s.transports k = Runs.run Transport.act built served
  left : s.transport ≠ some k → ∃ now native, served.getLast? = some (.suspend now native)
  rests : s.transport ≠ some k → ∃ destroyed removed, s.transports k =
    (Runs.run Transport.act built (served ++ retired)).marked destroyed removed
  uncalled : ∀ a ∈ retired, (Handling.act a).commands = false

/-- Whatever a swarm goes through, each of its transports goes through a run of its own machine. -/
theorem transports_run (cfg : Config) (ids : Ref → PeripheralId) (supported : Bool)
    (topic : Option Bytes) (online : Bool) (turns : List Turn) (k : Nat) :
    let s := Runs.run step (create cfg ids supported topic online) turns
    s.created k = true → ∃ topic online served retired,
      s.Lived k (Transport.create cfg topic online ids) served retired := by
  intro s known
  obtain ⟨-, recorded, same, same'⟩ := run_recorded cfg ids supported topic online turns
  obtain ⟨served, retired, history⟩ := recorded k known
  obtain ⟨topic, online, run⟩ := history.built
  obtain ⟨actions, rfl⟩ := Handling.exists_actions history.serves
  let left := Runs.run Transport.act (Transport.create cfg topic online ids) actions
  have run : s.transports k = Runs.run Transport.handled left retired := by
    rw [run, same, same']
    exact (List.foldl_append ..).trans (congrArg (List.foldl _ · _) (Transport.run_served _ _))
  obtain ⟨rest, destroyed, removed, ends, quiet⟩ := left.run_retired history.rests
  refine ⟨topic, online, actions, rest, fun current => ?_, fun gone => ?_,
    fun gone => ⟨destroyed, removed, ?_⟩, quiet⟩
  · rw [run, history.current current]
    rfl
  · obtain ⟨h, last, suspends⟩ := history.left gone
    rw [List.getLast?_map] at last
    obtain ⟨a, final, rfl⟩ := Option.map_eq_some_iff.mp last
    cases a with
    | suspend now native => exact ⟨now, native, final⟩
    | _ => cases suspends
  · rw [run, ends]
    exact congrArg (fun t : Transport => t.marked destroyed removed) (List.foldl_append ..).symm

/-- The radio is cycled under a transport, which is retired and released. -/
def cycledTurns : List Turn := atOnce
  [.call .start, .run 0, .opened 1 .poweredOn .poweredOn, .run 0,
    .event 1 (.centralState .poweredOff), .event 1 (.centralState .poweredOn), .drained 1 0, .run 0]

def cycledSwarm : BluetoothSwarm :=
  Runs.run step (create
    (Config.plain (List.replicate 32 1) .gatt .ios) id true none false) cycledTurns

theorem cycledSwarm_retires : cycledSwarm.created 1 = true ∧ cycledSwarm.transport ≠ some 1 :=
  ⟨by decide +kernel, by decide +kernel⟩

theorem transports_run_of_cycled :
    let cfg := Config.plain (List.replicate 32 1) .gatt .ios
    ∃ topic online served retired now native,
      cycledSwarm.Lived 1 (Transport.create cfg topic online id) served retired ∧
        served.getLast? = some (.suspend now native) := by
  intro cfg
  obtain ⟨known, gone⟩ := cycledSwarm_retires
  obtain ⟨topic, online, served, retired, lived⟩ :=
    transports_run cfg id true none false cycledTurns 1 known
  obtain ⟨now, native, last⟩ := lived.left gone
  exact ⟨topic, online, served, retired, now, native, lived, last⟩

end BluetoothSwarm

/-- No call begins a scan of a halted transport. -/
theorem Core.Calls.unscanning {env : Env} {c c' : Core} (h : Core.Calls env c c')
    (halted : env.halted = true) (scans : c'.radio.scanning = true) : c.radio.scanning = true := by
  induction h with
  | trans _ _ ih ih' => exact ih (ih' scans)
  | skip c => exact scans
  | doOpen c server central opened =>
    exact (Core.doOpen_tellsUuid c server central).still halted scans
  | beginSuspend c suspended => exact (Core.beginSuspend_tellsUuid c).still halted scans
  | teardown c =>
    have silent := congrArg Radio.scanning (Core.teardown_radio env c)
    exact absurd (silent.symm.trans scans) Bool.false_ne_true
  | doResume c live => cases live.symm.trans halted
  | doClose c closing =>
    rw [Core.doClose_eq] at scans
    exact scans
  | setOnline c online => exact (Core.setOnline_radioSteps c online).tellsUuid.still halted scans
  | setTopic c topic =>
    unfold Core.setTopic at scans
    dsimp only at scans
    split at scans
    · exact scans
    · exact scans

namespace Transport

open BleSwarm.Core

variable {t : Transport}

/-- A transport that is halted, and stays so, begins no scan. -/
theorem act_still (a : Action) (halted : t.halted = true) (after : (t.act a).halted = true)
    (scans : (t.act a).core.radio.scanning = true) : t.core.radio.scanning = true := by
  rcases t.act_split a with ⟨i, rfl, -, run⟩ | ⟨i, rfl, -, run⟩ | ⟨-, env, -, stays, -, calls⟩
  · rw [run] at scans
    exact scans
  · rw [run] at scans
    exact (handle_tellsUuid (t.begin i.native) (t.env i.now i.native) i.event).still halted scans
  · exact calls.unscanning (stays.trans after) scans

/-- Suspended, with no timer of the scan or the dial window armed and none in a record, and scanning
at most until its goodbyes are over. -/
structure Asleep (t : Transport) : Prop where
  suspended : t.life.suspended = true
  dormant : t.core.Dormant
  scans : t.core.radio.scanning = true → t.life.drains ≠ []

theorem suspend_asleep (t : Transport) (now : Nat) (native : Native) :
    (t.act (.suspend now native)).Asleep := by
  refine ⟨rfl, t.act_suspend now native, fun _ => ?_⟩
  simp [act]

/-- Nothing but a call wakes it. -/
theorem act_asleep {a : Action} (uncalled : (Handling.act a).commands = false) (h : t.Asleep) :
    (t.act a).Asleep := by
  have suspended : (t.act a).life.suspended = true := by
    refine Suspension.act_suspended t a ?_ h.suspended
    rintro now rfl
    cases uncalled
  have halts : ∀ t : Transport, t.life.suspended = true → t.halted = true := by
    intro t suspended
    simp [halted, suspended]
  have still := act_still a (halts t h.suspended) (halts _ suspended)
  refine ⟨suspended, act_dormant a (halts t h.suspended) (halts _ suspended) h.dormant,
    fun scans => ?_⟩
  have before := h.scans (still scans)
  cases a with
  | input i => exact (congrArg Life.drains (t.input_life i)).symm ▸ before
  | «open» server central now => exact (t.runOpen_drains now server central).symm ▸ before
  | drained call now native =>
    simp only [act, drained] at scans ⊢
    split at scans
    · have silent := congrArg Radio.scanning (teardown_radio (t.env now native) (t.begin native).core)
      exact absurd (silent.symm.trans scans) Bool.false_ne_true
    · rename_i unknown
      rw [if_neg unknown]
      exact before
  | _ => cases uncalled

theorem handled_asleep {h : Handling} (uncalled : h.commands = false) (asleep : t.Asleep) :
    (t.handled h).Asleep ∧ (t.handled h).core.dial.strays.Sublist t.core.dial.strays := by
  cases h with
  | act a =>
    have strays := t.act_strays a
    rw [left_of_dormant a asleep.dormant.outbound, List.append_nil] at strays
    exact ⟨act_asleep uncalled asleep, strays⟩
  | _ =>
    obtain ⟨scan, dials, window, held⟩ := asleep.dormant
    exact ⟨⟨asleep.suspended, ⟨scan, dials, window, held⟩, asleep.scans⟩, .refl _⟩

/-- Whoever sleeps arms no timer that outlives its record. -/
theorem run_asleep {handlings : List Handling} (uncalled : ∀ h ∈ handlings, h.commands = false)
    (asleep : t.Asleep) : (Runs.run handled t handlings).Asleep ∧
      (Runs.run handled t handlings).core.dial.strays.Sublist t.core.dial.strays := by
  induction handlings generalizing t with
  | nil => exact ⟨asleep, .refl _⟩
  | cons h handlings ih =>
    obtain ⟨sleeps, fewer⟩ := handled_asleep (uncalled h List.mem_cons_self) asleep
    obtain ⟨sleeps', fewer'⟩ := ih (fun h mem => uncalled h (List.mem_cons_of_mem _ mem)) sleeps
    exact ⟨sleeps', fewer'.trans fewer⟩

/-- A transport that closes delivers no link and enters none. -/
theorem handled_fades (closing : t.life.closing = true) (h : Handling) :
    t.core.links.Fades (t.handled h).core.links := by
  cases h with
  | act a =>
    by_cases opens : ∃ i r key, a = .input i ∧ i.event = .connOpen r key
    · obtain ⟨i, r, key, rfl, event⟩ := opens
      rcases Suspension.connOpen_cases t i event with ⟨links, -⟩ | ⟨-, fades⟩
      · simp [Suspension.links, closing] at links
      · exact fades
    · refine t.act_fades a fun i r key here event => ?_
      exact opens ⟨i, r, key, here, event⟩
  | _ => exact .of_same rfl rfl

theorem run_fades (closing : t.life.closing = true) (handlings : List Handling) :
    t.core.links.Fades (Runs.run handled t handlings).core.links := by
  induction handlings generalizing t with
  | nil => exact .of_same rfl rfl
  | cons h handlings ih => exact (handled_fades closing h).trans (ih (handled_closing h closing))

end Transport

namespace BluetoothSwarm

variable {s s' : BluetoothSwarm} {k : Nat}

/-- A transport that has been retired sleeps. -/
theorem History.asleep {served retired : List Handling} (h : s.History k served retired)
    (gone : s.transport ≠ some k) : (s.transports k).Asleep := by
  obtain ⟨topic, online, run⟩ := h.built
  obtain ⟨last, final, suspends⟩ := h.left gone
  obtain ⟨first, rfl⟩ := List.getLast?_eq_some_iff.mp final
  let before := Runs.run Transport.handled (Transport.create s.cfg topic online s.ids) first
  have run : s.transports k = Runs.run Transport.handled (before.handled last) retired := by
    rw [run]
    simp only [before, Runs.run, List.foldl_append, List.foldl_cons, List.foldl_nil]
  have slept : (before.handled last).Asleep := by
    cases last with
    | act a =>
      cases a with
      | suspend now native => exact before.suspend_asleep now native
      | _ => cases suspends
    | _ => cases suspends
  rw [run]
  exact (Transport.run_asleep h.rests slept).1

/-- Whoever has been retired is only let go of. -/
theorem Treats.former (treats : Treats s s') (former : s.office.Former k) :
    ∃ handlings, s'.transports k = Runs.run Transport.handled (s.transports k) handlings ∧
      ∀ h ∈ handlings, h.commands = false := by
  obtain ⟨handlings, handled⟩ := treats.handled k (created_of_former former)
  exact ⟨handlings, handled.run, handled.rests former.left⟩

theorem run_former (manned : s.Manned) (former : s.office.Former k) (turns : List Turn) :
    (Runs.run step s turns).office.Former k ∧ ∃ handlings,
      (Runs.run step s turns).transports k = Runs.run Transport.handled (s.transports k) handlings ∧
        ∀ h ∈ handlings, h.commands = false := by
  have refines : ∀ s turn, Manned s → s.office.Next (s.step turn).office :=
    fun s turn manned => (step_treats manned turn).next
  have keep : ∀ s turn, Manned s → (s.step turn).Manned := fun s turn manned => manned.step turn
  refine ⟨former.run refines keep manned turns, ?_⟩
  induction turns generalizing s with
  | nil => exact ⟨[], rfl, by simp⟩
  | cons turn turns ih =>
    have treats := step_treats manned turn
    obtain ⟨first, run, quiet⟩ := treats.former former
    obtain ⟨rest, run', quiet'⟩ := ih (manned.step turn) (treats.next.former former)
    refine ⟨first ++ rest, ?_, fun h mem => (List.mem_append.mp mem).elim (quiet h) (quiet' h)⟩
    rw [Runs.run_cons, run', run]
    exact (List.foldl_append ..).symm

/-- A transport that has been retired never comes back. Nobody calls on it again, and it sleeps. Only
the dial timers that had outlived their records by then may still be armed. -/
theorem retired_for_good (cfg : Config) (ids : Ref → PeripheralId) (supported : Bool)
    (topic : Option Bytes) (online : Bool) (before after : List Turn) (k : Nat) :
    let s := Runs.run step (create cfg ids supported topic online) before
    let s' := Runs.run step s after
    s.created k = true → s.transport ≠ some k →
      s'.transport ≠ some k ∧ (s'.transports k).Asleep ∧
        (s'.transports k).core.dial.strays.Sublist (s.transports k).core.dial.strays ∧ ∃ handlings,
        s'.transports k = Runs.run Transport.handled (s.transports k) handlings ∧
          ∀ h ∈ handlings, h.commands = false := by
  intro s s' known gone
  obtain ⟨manned, recorded, -⟩ := run_recorded cfg ids supported topic online before
  obtain ⟨pos, entered⟩ := (created_iff s k).mp known
  obtain ⟨former, handlings, run, quiet⟩ := run_former manned ⟨pos, entered, gone⟩ after
  obtain ⟨served, retired, history⟩ := recorded k known
  obtain ⟨asleep, fewer⟩ := Transport.run_asleep quiet (history.asleep gone)
  rw [← run] at asleep fewer
  exact ⟨former.left, asleep, fewer, handlings, run, quiet⟩

/-- The transport that follows a cycled one opens, and the radio comes on under both. -/
theorem retired_for_good_of_cycled :
    let s := Runs.run step cycledSwarm (atOnce [.run 0, .opened 2 .poweredOn .poweredOn, .run 0,
      .event 1 (.serverState .poweredOn), .event 1 (.centralState .poweredOn), .call .suspend])
    s.transport = some 2 ∧ (s.transports 1).Asleep := by
  intro s
  obtain ⟨known, gone⟩ := cycledSwarm_retires
  have next : s.transport = some 2 := by decide +kernel
  obtain ⟨-, asleep, -⟩ := retired_for_good _ id true none false cycledTurns _ 1 known gone
  exact ⟨next, asleep⟩

theorem close_closing (s : BluetoothSwarm) (turn : Turn) : (s.close turn).closing = true := by
  simp only [close]
  split
  · rename_i closing
    exact closing
  · split <;> rfl

theorem run_manned (manned : s.Manned) (turns : List Turn) : (Runs.run step s turns).Manned :=
  Runs.always (fun _ turn manned => manned.step turn) manned turns

theorem run_closed (manned : s.Manned) (closing : s.closing = true) (turns : List Turn) :
    (Runs.run step s turns).office = s.office := by
  have refines : ∀ s turn, Manned s → s.office.Next (s.step turn).office :=
    fun s turn manned => (step_treats manned turn).next
  have keep : ∀ s turn, Manned s → (s.step turn).Manned := fun s turn manned => manned.step turn
  exact Office.run_of_closed refines keep manned closing turns

/-- The transport that is current when a swarm closes fades. -/
theorem run_faded (manned : s.Manned) (closing : s.closing = true) (current : s.transport = some k)
    (turns : List Turn) :
    (s.transports k).core.links.Fades ((Runs.run step s turns).transports k).core.links := by
  induction turns generalizing s with
  | nil => exact .of_same rfl rfl
  | cons turn turns ih =>
    have treats := step_treats manned turn
    have same : (s.step turn).office = s.office := treats.next.eq_of_closed closing
    obtain ⟨handlings, handled⟩ := treats.handled k (manned.current k current)
    have fades := Transport.run_fades (manned.shut closing k current) handlings
    rw [← handled.run] at fades
    exact fades.trans (ih (manned.step turn) ((congrArg Office.closed same).trans closing)
      ((congrArg Office.holder same).trans current))

/-- A swarm that has been closed stays as it is: no transport is built, retired or replaced, it
reads as off, and its transport delivers no link and enters none. -/
theorem closed_for_good (cfg : Config) (ids : Ref → PeripheralId) (supported : Bool)
    (topic : Option Bytes) (online : Bool) (before after : List Turn) (now : Nat) (native : Native) :
    let s := (Runs.run step (create cfg ids supported topic online) before).step
      { now, native, move := .call .close }
    let s' := Runs.run step s after
    s'.transport = s.transport ∧ s'.gen = s.gen ∧ s'.started = false ∧
      (s'.supported = true → s'.state = .off) ∧
      ∀ k, s.transport = some k → (s.transports k).core.links.Fades (s'.transports k).core.links := by
  intro s s'
  obtain ⟨manned, -⟩ := run_recorded cfg ids supported topic online before
  have manned : s.Manned := manned.step _
  have closing : s.closing = true := close_closing _ _
  have same : s'.office = s.office := run_closed manned closing after
  obtain ⟨transport, gen, still⟩ := Office.mk.inj same
  have stopped : s'.started = false := (run_manned manned after).stopped (still.trans closing)
  refine ⟨transport, gen, stopped, fun supported => ?_, fun k current => ?_⟩
  · simp only [state, supported, stopped]
    cases s'.transport <;> rfl
  · exact run_faded manned closing current after

end BluetoothSwarm

end BleSwarm
