import BleSwarm.Transport.Clean
import BleSwarm.Transport.Hunting

/-!
# How long a scan phase may last

Every arming of the scan timer sets it one phase ahead: five seconds of scanning, and at most
fifty-five without. No other change delays it, so the radio is never dark for longer.
-/

namespace BleSwarm

namespace Core

variable {env : Env} {c c' : Core} {now : Nat}

/-- The scan timer is due within the longest dark phase, and while a scan is on within the time
that a scan phase lasts. -/
structure Phased (now : Nat) (c : Core) : Prop where
  dark : ∀ deadline, c.radio.scanTimer = some deadline → deadline ≤ now + scanDutyOffOnline
  scan : c.radio.scanning = true → ∀ deadline, c.radio.scanTimer = some deadline →
    deadline ≤ now + scanDutyOn

namespace Phased

theorem mono {later : Nat} (h : Phased now c) (le : now ≤ later) : Phased later c where
  dark deadline armed := (h.dark deadline armed).trans (Nat.add_le_add_right le _)
  scan scans deadline armed := (h.scan scans deadline armed).trans (Nat.add_le_add_right le _)

/-- The timer is as it was, and no scan has come on. -/
theorem congr (h : Phased now c) (timer : c'.radio.scanTimer = c.radio.scanTimer)
    (scanning : c'.radio.scanning = true → c.radio.scanning = true) : Phased now c' where
  dark deadline armed := h.dark deadline (timer.symm.trans armed)
  scan scans deadline armed := h.scan (scanning scans) deadline (timer.symm.trans armed)

theorem of_untimed (untimed : c.radio.scanTimer = none) : Phased now c := by
  constructor
  · intro deadline armed
    rw [untimed] at armed
    cases armed
  · intro _ deadline armed
    rw [untimed] at armed
    cases armed

/-- A phase begins. -/
theorem armScanRestart (c : Core) (le : env.now ≤ now) : Phased now (c.armScanRestart env) := by
  have short : c.scanDelay env ≤ scanDutyOffOnline ∧
      (c.radio.scanning = true → c.scanDelay env ≤ scanDutyOn) := by
    unfold scanDelay
    cases c.radio.scanning <;> cases c.linked <;> cases c.duty env <;> decide
  constructor
  · intro deadline armed
    obtain rfl : env.now + c.scanDelay env = deadline := Option.some.inj armed
    exact Nat.add_le_add le short.1
  · intro scans deadline armed
    obtain rfl : env.now + c.scanDelay env = deadline := Option.some.inj armed
    exact Nat.add_le_add le (short.2 scans)

theorem startScan (h : Phased now c) (le : env.now ≤ now) : Phased now (c.startScan env) := by
  unfold Core.startScan
  split
  · exact h
  · split
    · exact h
    · exact armScanRestart _ le

theorem stopScan (h : Phased now c) : Phased now c.stopScan := by
  unfold Core.stopScan
  split
  · exact h.congr rfl fun scans => by cases scans
  · exact h

theorem onScanTimer (le : env.now ≤ now) : Phased now (c.onScanTimer env) := by
  have fired : Phased now { c with radio.scanTimer := none } := .of_untimed rfl
  simp only [Core.onScanTimer]
  split
  · exact fired
  · split
    · exact armScanRestart _ le
    · split
      · split
        · exact armScanRestart _ le
        · exact fired.startScan le
      · exact fired.stopScan.startScan le

end Phased

theorem RadioSteps.phased (h : RadioSteps env c c') (le : env.now ≤ now) (phased : Phased now c) :
    Phased now c' := by
  induction h with
  | trans _ _ ih ih' => exact ih' (ih phased)
  | rest same =>
    have radio := (Prod.mk.inj same).1
    exact phased.congr (congrArg Radio.scanTimer radio) fun scans =>
      (congrArg Radio.scanning radio).symm.trans scans
  | startScan c => exact phased.startScan le
  | stopScan c => exact phased.stopScan
  | armScanRestart c live => exact .armScanRestart c le
  | onScanTimer c => exact .onScanTimer le
  | maybeAdvertise c =>
    unfold Core.maybeAdvertise
    split
    · exact phased
    · exact phased.congr rfl id
  | _ => exact phased.congr rfl id

/-! Power cycles and the owner's calls. -/

/-- The scan goes with the radio, whose timer stays armed. -/
theorem onRadioDown_phased (phased : Phased now c) : Phased now c.onRadioDown := by
  obtain ⟨_, _, eq⟩ := onRadioDown_eq c
  rw [eq]
  exact phased.congr rfl fun scans => by cases scans

theorem onServerState_phased (s : AdapterState) (le : env.now ≤ now) (phased : Phased now c) :
    Phased now (c.onServerState env s) := by
  let noted := { c with radio.serverState := s }.onState s
  have notes : RadioSteps env c noted := (RadioSteps.serverState c s).trans (onState_radioSteps _ s)
  have told : Phased now noted := notes.phased le phased
  simp only [onServerState]
  split
  · exact (startServer_radioSteps noted).phased le told
  · split
    · exact onRadioDown_phased told
    · exact told

theorem onCentralState_phased (s : AdapterState) (le : env.now ≤ now) (phased : Phased now c) :
    Phased now (c.onCentralState env s) := by
  let noted := { c with radio.centralState := s }.onState s
  have notes : RadioSteps env { c with radio.centralState := s } noted := onState_radioSteps _ s
  have told : Phased now noted := notes.phased le (phased.congr rfl id)
  have heals : Phased now (noted.scheduleSelfHeal env) := by
    unfold scheduleSelfHeal
    split
    · exact told
    · split
      · exact told
      · exact told.congr rfl id
  simp only [onCentralState]
  split
  · split
    · exact heals
    · exact told.startScan le
  · split
    · exact onRadioDown_phased told
    · exact told

end Core

namespace Transport

open BleSwarm.Core

variable {t : Transport} {now : Nat}

theorem handle_phased {env : Env} (e : Event) (le : env.now ≤ now) (phased : Phased now t.core) :
    Phased now (t.handle env e).core := by
  cases e with
  | serverState s => exact onServerState_phased s le phased
  | centralState s => exact onCentralState_phased s le phased
  | serviceAdd => exact (onServiceAdd_radioSteps t.core).phased le phased
  | connOpen r key => exact (onConnOpen_radioSteps r key t.core).phased le phased
  | _ => exact (handle_proceeds t env (by simp [Special])).radioSteps.phased le phased

/-- The time at which an action runs, where it has one. -/
def Action.time : Action → Nat
  | .input i => i.now
  | .open _ _ now | .suspend now _ | .drained _ now _ | .resume now | .close now
  | .setOnline _ now => now
  | .setTopic _ => 0

theorem runClose_phased (t : Transport) (at' : Nat) : Phased now (t.runClose at').core := by
  have closed : (t.runClose at').core = t.core.doClose (t.env at') := rfl
  rw [closed, doClose_eq]
  exact .of_untimed rfl

/-- No step arms the timer further ahead than one phase from the time of the step. -/
theorem act_phased (a : Action) (le : Action.time a ≤ now) (phased : Phased now t.core) :
    Phased now (t.act a).core := by
  have begun : ∀ native, Phased now (t.begin native).core := fun _ => phased.congr rfl id
  cases a with
  | input i =>
    simp only [act, input]
    split
    · exact handle_phased (t := t.begin i.native) i.event le (begun i.native)
    · exact begun i.native
  | «open» server central at' =>
    let opening : Transport := { t.begin {} with life.opened := true }
    have made : Phased now { (t.begin {}).core with
        radio.serverState := server, radio.centralState := central } := (begun {}).congr rfl id
    have opens : Phased now ((t.begin {}).core.doOpen (opening.env at') server central) :=
      (doOpen_radioSteps _ server central).phased le made
    simp only [act, runOpen]
    split
    · exact begun {}
    · split
      · exact runClose_phased _ at'
      · exact opens
  | suspend at' native =>
    let env : Env := { cfg := t.cfg, life := { t.life with suspended := true }, now := at', native }
    have said : RadioSteps env { (t.begin native).core with radio.scanTimer := none }
        ((t.begin native).core.beginSuspend env) := .after (sayGoodbye_radioSteps _) rfl
    exact said.phased le (.of_untimed rfl)
  | drained call at' native =>
    simp only [act, drained]
    split
    · have radio := teardown_radio (t.env at' native) (t.begin native).core
      refine (begun native).congr ((congrArg Radio.scanTimer radio).trans rfl) fun scans => ?_
      have still := congrArg Radio.scanning radio
      exact absurd (still.symm.trans scans) Bool.false_ne_true
    · exact begun native
  | resume at' =>
    simp only [act, resume]
    split
    · exact begun {}
    · exact (doResume_radioSteps _ _).phased le ((begun {}).congr rfl id)
  | close at' =>
    simp only [act, close]
    split
    · exact begun {}
    · split
      · exact runClose_phased _ at'
      · exact begun {}
  | setOnline online at' => exact (setOnline_radioSteps _ online).phased le (begun {})
  | setTopic topic =>
    simp only [act, setTopic, Core.setTopic]
    split
    · exact begun {}
    · exact (begun {}).congr rfl id

/-- The latest time of a run. -/
def latest (actions : List Action) : Nat := actions.foldl (fun now a => max now (Action.time a)) 0

/-- Whatever happens, the timer is due within one phase of the latest step. -/
theorem run_phased (cfg : Config) (topic : Option Bytes) (online : Bool)
    (ids : Ref → PeripheralId) (actions : List Action) :
    Phased (latest actions) (Runs.run act (create cfg topic online ids) actions).core := by
  have start : Phased 0 (create cfg topic online ids).core := .of_untimed rfl
  have runs : ∀ (actions : List Action) (now : Nat) (t : Transport), Phased now t.core →
      Phased (actions.foldl (fun now a => max now (Action.time a)) now)
        (Runs.run act t actions).core := by
    intro actions
    induction actions with
    | nil => exact fun now t phased => phased
    | cons a actions ih =>
      intro now t phased
      exact ih _ _ (act_phased a (le_max_right _ _) (phased.mono (le_max_left _ _)))
  exact runs actions 0 _ start

/-- While an open transport is left alone with its central on, the next scan phase is due within
the longest dark phase of the latest step, and the end of a scan within the time of a scan phase. -/
theorem scan_phases_bounded (cfg : Config) (topic : Option Bytes) (online : Bool)
    (ids : Ref → PeripheralId) (actions : List Action) (undisturbed : ∀ a ∈ actions, Undisturbed a)
    (on : (Runs.run act (create cfg topic online ids) actions).core.radio.centralState = .poweredOn) :
    let c := (Runs.run act (create cfg topic online ids) actions).core
    ∃ deadline, c.radio.scanTimer = some deadline ∧ deadline ≤ latest actions + scanDutyOffOnline ∧
      (c.radio.scanning = true → deadline ≤ latest actions + scanDutyOn) := by
  intro c
  have start : (create cfg topic online ids).LiveHunting := by
    refine ⟨rfl, rfl, fun scans => ?_, fun on => ?_⟩
    · cases scans
    · cases on
  have liveHunting : (Runs.run act (create cfg topic online ids) actions).LiveHunting :=
    Runs.invariant (fun t a h ok => act_liveHunting h ok) start (Runs.each_of_mem undisturbed _)
  have phased := run_phased cfg topic online ids actions
  obtain ⟨deadline, armed⟩ := Option.isSome_iff_exists.mp (liveHunting.hunting.powered on)
  exact ⟨deadline, armed, phased.dark deadline armed, fun scans => phased.scan scans deadline armed⟩

/-- Online and unlinked, the scan that begins when the transport opens ends after its five seconds,
and the next is due after the longest dark phase. -/
theorem scan_phases_bounded_of_online :
    let cfg := Config.plain (List.replicate 32 1) .gatt .ios
    let actions : List Action :=
      [.open .poweredOn .poweredOn 0, .input { now := 5000, event := .scanTimer }]
    let c := (Runs.run act (create cfg none true id) actions).core
    c.radio.scanTimer = some 60000 ∧ ∃ deadline, c.radio.scanTimer = some deadline ∧
      deadline ≤ latest actions + scanDutyOffOnline ∧
      (c.radio.scanning = true → deadline ≤ latest actions + scanDutyOn) := by
  intro cfg actions
  have undisturbed : ∀ a ∈ actions, Undisturbed a := by decide
  exact ⟨by decide +kernel,
    scan_phases_bounded cfg none true id actions undisturbed (by decide +kernel)⟩

end Transport

end BleSwarm
