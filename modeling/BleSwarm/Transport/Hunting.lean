import BleSwarm.Transport.Attuned
import BleSwarm.Transport.Power
import BleSwarm.Transport.Yield

/-!
# A scan always has a next phase

One timer drives the scan phases. What stops the scan, and what lets the timer fire, leaves
it armed again while the central is on, in whichever order the adapter reports its states.
-/

namespace BleSwarm

namespace Core

variable {env : Env} {c c' : Core}

/-- The timer of the next scan phase is armed, at least while a scan is on or the central is. -/
structure Hunting (c : Core) : Prop where
  scanning : c.radio.scanning = true → c.radio.scanTimer.isSome = true
  powered : c.radio.centralState = .poweredOn → c.radio.scanTimer.isSome = true

namespace Hunting

theorem congr (h : c.Hunting) (scanning : c'.radio.scanning = c.radio.scanning)
    (timer : c'.radio.scanTimer = c.radio.scanTimer)
    (powered : c'.radio.centralState = c.radio.centralState) : c'.Hunting := by
  refine ⟨fun scans => ?_, fun on => ?_⟩
  · rw [timer]
    exact h.scanning (scanning.symm.trans scans)
  · rw [timer]
    exact h.powered (powered.symm.trans on)

/-- A scan starts with its timer unless one is on, and one is on with its timer. -/
theorem startScan (scanning : c.radio.scanning = true → c.radio.scanTimer.isSome = true)
    (live : env.halted = false) : (c.startScan env).Hunting := by
  unfold Core.startScan
  rw [live, if_neg Bool.false_ne_true]
  split
  · rename_i still
    refine ⟨scanning, fun on => ?_⟩
    rcases Bool.or_eq_true_iff.mp still with scans | off
    · exact scanning scans
    · simp [on] at off
  · exact ⟨fun _ => rfl, fun _ => rfl⟩

theorem stopScan (h : c.Hunting) : c.stopScan.Hunting := by
  unfold Core.stopScan
  split
  · exact ⟨fun scans => absurd scans Bool.false_ne_true, h.powered⟩
  · exact h

/-- The timer that fires is armed anew, or no scan is on and the central is off. -/
theorem onScanTimer (live : env.halted = false) : (c.onScanTimer env).Hunting := by
  have stopped : ∀ c : Core, c.stopScan.radio.scanning = true → c.stopScan.radio.scanTimer.isSome = true :=
    fun c scans => absurd ((stopScan_scanning c).symm.trans scans) Bool.false_ne_true
  simp only [Core.onScanTimer, live, if_neg Bool.false_ne_true]
  split
  · exact ⟨fun _ => rfl, fun _ => rfl⟩
  · split
    · split
      · exact ⟨fun _ => rfl, fun _ => rfl⟩
      · rename_i idle
        exact startScan (fun scans => absurd scans idle) live
    · exact startScan (stopped _) live

end Hunting

/-- Every move of the radio but the central coming on. -/
theorem RadioSteps.hunts (h : RadioSteps env c c') (live : env.halted = false) (hunting : c.Hunting)
    (still : c'.radio.centralState = .poweredOn → c.radio.centralState = .poweredOn) : c'.Hunting := by
  induction h with
  | @trans a b d first last ih ih' =>
    have before : b.radio.centralState = .poweredOn → a.radio.centralState = .poweredOn :=
      fun on => still (last.sustains.powered on)
    have after : d.radio.centralState = .poweredOn → b.radio.centralState = .poweredOn :=
      fun on => first.sustains.powered (still on)
    exact ih' (ih hunting before) after
  | rest same =>
    have radio := congrArg Prod.fst same
    exact hunting.congr (congrArg Radio.scanning radio) (congrArg Radio.scanTimer radio)
      (congrArg Radio.centralState radio)
  | startScan c => exact .startScan hunting.scanning live
  | stopScan c => exact hunting.stopScan
  | armScanRestart c live => exact ⟨fun _ => rfl, fun _ => rfl⟩
  | onScanTimer c => exact .onScanTimer live
  | maybeAdvertise c =>
    unfold Core.maybeAdvertise
    split
    · exact hunting
    · exact ⟨hunting.scanning, hunting.powered⟩
  | powered c => exact ⟨hunting.scanning, fun _ => hunting.powered (still rfl)⟩
  | _ => exact ⟨hunting.scanning, hunting.powered⟩

/-- Moves that leave the power of the adapters alone. -/
theorem RadioSteps.hunts_of_power (h : RadioSteps env c c') (live : env.halted = false)
    (hunting : c.Hunting)
    (power : c'.power = c.power) : c'.Hunting :=
  h.hunts live hunting fun on => (congrArg Power.centralState power).symm.trans on

theorem onServerState_hunts {s : AdapterState} (up : isDown s = false) (live : env.halted = false)
    (hunting : c.Hunting) : (c.onServerState env s).Hunting := by
  have power := onServerState_power env c s
  rw [up, if_neg Bool.false_ne_true] at power
  have still : (c.onServerState env s).radio.centralState = c.radio.centralState :=
    congrArg Power.centralState power
  exact (onServerState_radioSteps up c).hunts live hunting fun on => still.symm.trans on

/-- A central that comes on scans, unless it is on to heal. -/
theorem onCentralState_hunts {s : AdapterState} (up : isDown s = false) (live : env.halted = false)
    (fresh : c.radio.radioWasDown = false) (hunting : c.Hunting) :
    (c.onCentralState env s).Hunting := by
  let noted := { c with radio.centralState := s }.onState s
  have notes : RadioSteps env { c with radio.centralState := s } noted := onState_radioSteps _ s
  have radio : noted.radio.scanning = c.radio.scanning ∧ noted.radio.scanTimer = c.radio.scanTimer ∧
      noted.radio.centralState = s ∧ noted.radio.radioWasDown = c.radio.radioWasDown := by
    simp only [noted, onState]
    split
    · exact ⟨rfl, rfl, rfl, rfl⟩
    · exact ⟨rfl, rfl, rfl, rfl⟩
  obtain ⟨scans, timer, state, wasDown⟩ := radio
  have scanning : noted.radio.scanning = true → noted.radio.scanTimer.isSome = true := by
    rw [scans, timer]
    exact hunting.scanning
  have run : c.onCentralState env s =
      if s = .poweredOn then
        if noted.radio.radioWasDown then noted.scheduleSelfHeal env else noted.startScan env
      else if isDown s then noted.onRadioDown else noted := rfl
  rw [run]
  split
  · rw [wasDown, fresh, if_neg Bool.false_ne_true]
    exact .startScan scanning live
  · rename_i off
    rw [up, if_neg Bool.false_ne_true]
    exact ⟨scanning, fun on => absurd (state.symm.trans on) off⟩

theorem startServer_radio (env : Env) (c : Core) : (c.startServer env).radio = c.radio := by
  have hosted : (if c.radio.serviceAdded then c
      else c.issue (.addService (env.cfg.toServiceUUID none))).radio = c.radio := by
    split <;> rfl
  have published : ∀ c : Core, (c.publish env).radio = c.radio := by
    intro c
    unfold publish
    split <;> rfl
  unfold startServer
  split
  · rfl
  · split
    · rfl
    · split
      · rfl
      · dsimp only
        split
        · rw [published, hosted]
        · exact hosted

/-- An opening scans if the central is on already. -/
theorem doOpen_hunts (server central : AdapterState) (live : env.halted = false) (hunting : c.Hunting) :
    (c.doOpen env server central).Hunting := by
  let made : Core := { c with radio.serverState := server, radio.centralState := central }
  have started := startServer_radio env made
  have scans : ((made.startServer env).startScan env).Hunting := by
    apply Hunting.startScan _ live
    rw [started]
    exact hunting.scanning
  exact scans.congr rfl rfl rfl

theorem doResume_hunts (live : env.halted = false) (hunting : c.Hunting) :
    (c.doResume env).Hunting := by
  have fresh : Hunting { c with radio.advertising := false } := hunting.congr rfl rfl rfl
  exact (doResume_radioSteps env c).hunts_of_power live fresh (doResume_power env c)

end Core

namespace Transport

open BleSwarm.Core

variable {t : Transport}

/-- The transport is left alone, and hunts. -/
structure LiveHunting (t : Transport) : Prop where
  live : t.halted = false
  fresh : t.core.radio.radioWasDown = false
  hunting : t.core.Hunting

theorem handle_hunts {env : Env} {e : Event} (up : powersDown e = false) (live : env.halted = false)
    (fresh : t.core.radio.radioWasDown = false) (hunting : t.core.Hunting) :
    (t.handle env e).core.Hunting := by
  cases e with
  | serverState s => exact onServerState_hunts up live hunting
  | centralState s => exact onCentralState_hunts up live fresh hunting
  | serviceAdd =>
    have still : t.core.onServiceAdd.radio.centralState = t.core.radio.centralState :=
      congrArg Power.centralState (onServiceAdd_power t.core)
    exact (onServiceAdd_radioSteps t.core).hunts live hunting fun on => still.symm.trans on
  | connOpen r key =>
    exact (onConnOpen_radioSteps r key t.core).hunts_of_power live hunting
      (onConnOpen_power env _ r key)
  | _ =>
    exact (handle_proceeds t env (by simp [Special])).radioSteps.hunts_of_power live hunting
      (t.handle_power env trivial)

/-- No adapter that stays up is taken for one that went down. -/
theorem handle_fresh {env : Env} {e : Event} (up : powersDown e = false)
    (fresh : t.core.radio.radioWasDown = false) :
    (t.handle env e).core.radio.radioWasDown = false := by
  have same : (t.handle env e).core.power.radioWasDown = t.core.power.radioWasDown := by
    cases e with
    | serverState s =>
      have up : isDown s = false := up
      exact (congrArg Power.radioWasDown (onServerState_power env t.core s)).trans (by rw [up]; rfl)
    | centralState s =>
      have up : isDown s = false := up
      refine (congrArg Power.radioWasDown (onCentralState_power env t.core s)).trans ?_
      simp [up, fresh]
    | serviceAdd => exact (congrArg Power.radioWasDown (onServiceAdd_power t.core)).trans rfl
    | _ => exact congrArg Power.radioWasDown (t.handle_power env trivial)
  exact same.trans fresh

theorem act_liveHunting {a : Action} (h : t.LiveHunting) (undisturbed : Undisturbed a) :
    (t.act a).LiveHunting := by
  have live := act_live h.live undisturbed
  have begun : ∀ native, (t.begin native).core.Hunting := fun _ => h.hunting.congr rfl rfl rfl
  cases a with
  | input i =>
    cases opened : t.life.opened with
    | false =>
      rw [act_input_unopened opened] at live ⊢
      exact ⟨live, h.fresh, begun i.native⟩
    | true =>
      rw [act_input opened] at live ⊢
      exact ⟨live, handle_fresh (t := t.begin i.native) undisturbed h.fresh,
        handle_hunts undisturbed h.live h.fresh (begun i.native)⟩
  | «open» server central now =>
    rcases act_open h.live server central now with same | ⟨env, running, opens⟩
    · rw [same]
      exact ⟨h.live, h.fresh, begun {}⟩
    · have power := doOpen_power env (t.begin {}).core server central
      rw [← opens] at power
      refine ⟨live, (congrArg Power.radioWasDown power).trans h.fresh, ?_⟩
      rw [opens]
      exact doOpen_hunts server central running (begun {})
  | suspend now native => exact undisturbed.elim
  | drained call now native => exact undisturbed.elim
  | resume now =>
    refine ⟨live, (congrArg Power.radioWasDown (t.resume_power now)).trans h.fresh, ?_⟩
    simp only [act, resume]
    split
    · exact begun {}
    · rename_i running
      exact doResume_hunts (by simpa [env, Env.halted] using running) (begun {})
  | close now => exact undisturbed.elim
  | setOnline online now =>
    refine ⟨live, (congrArg Power.radioWasDown (t.setOnline_power now online)).trans h.fresh, ?_⟩
    exact (setOnline_radioSteps (t.begin {}).core online).hunts_of_power h.live (begun {})
      (setOnline_power _ _ _)
  | setTopic topic =>
    refine ⟨live, (congrArg Power.radioWasDown (t.setTopic_power topic)).trans h.fresh, ?_⟩
    simp only [act, setTopic, Core.setTopic]
    split
    · exact begun {}
    · exact (begun {}).congr rfl rfl rfl

/-- While an open transport is left alone, a scan that is on, and a central that is on, has the timer
of the next scan phase armed. -/
theorem scanning_never_stalls (cfg : Config) (topic : Option Bytes) (online : Bool)
    (ids : Ref → PeripheralId) (actions : List Action) (undisturbed : ∀ a ∈ actions, Undisturbed a) :
    (Runs.run act (create cfg topic online ids) actions).core.Hunting := by
  have start : (create cfg topic online ids).LiveHunting := by
    refine ⟨rfl, rfl, fun scans => ?_, fun on => ?_⟩
    · cases scans
    · cases on
  have liveHunting : (Runs.run act (create cfg topic online ids) actions).LiveHunting :=
    Runs.invariant (fun t a h ok => act_liveHunting h ok) start (Runs.each_of_mem undisturbed _)
  exact liveHunting.hunting

/-- The central may not scan when the timer fires, which then stays unarmed, and comes on again. -/
theorem scan_survives_revoked_permission :
    let cfg := Config.plain (List.replicate 32 1) .gatt .ios
    let revoked := startThen [.centralState .unauthorized] ++
      [.input { now := 20000, event := .scanTimer }]
    (Runs.run act (create cfg none false id) revoked).core.radio.scanTimer = none ∧
      (Runs.run act (create cfg none false id)
        (revoked ++ [.input { now := 30000, event := .centralState .poweredOn }])).core.Hunting := by
  intro cfg revoked
  refine ⟨by decide +kernel, ?_⟩
  exact scanning_never_stalls cfg none false id _ (by decide)

end Transport

end BleSwarm
