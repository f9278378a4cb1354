import BleSwarm.Transport.Scanner.Handlers

/-!
# What a step tells the scanner

A dial stops the scan in front of its connect. Any other event asks for the scan at most,
but for the timer of the scan itself and the states of the adapters.
-/

namespace BleSwarm

/-- A state of an adapter is reported. -/
def Event.adapts : Event → Bool
  | .serverState _ | .centralState _ => true
  | _ => false

namespace Core

variable {env : Env} {c : Core}

/-! Dials that begin. -/

/-- A connect that throws ends the dial at once. -/
theorem dialPeripheral_scanner (p : Ref) (c : Core) :
    (c.dialPeripheral env p).scanner = c.scanner.stop.rouse env.halted env.native.connectThrows := by
  let timed := { c with dial.lastDial := env.now }.updateDevice (c.peripheral p).id fun d =>
    { d with timer := some (p, env.now + connectTimeout) }
  have stopped : (timed.stopScan.issue (.connect p)).scanner = c.scanner.stop := by
    have asked : timed.stopScan.SameScan (timed.stopScan.issue (.connect p)) := issue_sameScan _ rfl
    rw [asked, stopScan_scanner]
    rfl
  have run : c.dialPeripheral env p =
      if env.native.connectThrows then (timed.stopScan.issue (.connect p)).abortDial env p
      else timed.stopScan.issue (.connect p) := rfl
  rw [run, ← stopped]
  cases env.native.connectThrows with
  | true => exact abortDial_asksScan p _
  | false => rfl

theorem onDiscover_scanner (p : Ref) (c : Core) : (c.onDiscover env p).scanner =
    if c.dials env p then c.scanner.stop.rouse env.halted env.native.connectThrows else c.scanner := by
  cases dials : c.dials env p with
  | true =>
    rw [onDiscover_of_dials dials, dialPeripheral_scanner]
    rfl
  | false =>
    rcases onDiscover_of_idle dials with same | ⟨-, deadline, held⟩
    · rw [same]
      rfl
    · rw [held]
      exact SameScan.ite rfl rfl

/-- A round of discoveries of which none is dialed. -/
theorem foldl_onDiscover_sameScan (ps : List Ref) (c : Core)
    (idle : ∀ p ∈ ps, c.dials env p = false) :
    c.SameScan (ps.foldl (onDiscover env) c) := by
  induction ps generalizing c with
  | nil => exact .refl c
  | cons p ps ih =>
    have here := idle p List.mem_cons_self
    have first : c.SameScan (c.onDiscover env p) := by
      rw [SameScan, onDiscover_scanner, here]
      rfl
    refine first.trans (ih _ fun q mem => ?_)
    rw [(onDiscover_holds here).2 q]
    exact idle q (List.mem_cons_of_mem p mem)

/-- A round of discoveries: the first that may be dialed is. -/
theorem foldl_onDiscover_scanner (ps : List Ref) (c : Core) :
    (ps.foldl (onDiscover env) c).scanner = if (ps.find? (c.dials env)).isSome then
      c.scanner.stop.rouse env.halted env.native.connectThrows else c.scanner := by
  induction ps generalizing c with
  | nil => rfl
  | cons p ps ih =>
    rw [List.foldl_cons]
    cases dials : c.dials env p with
    | true =>
      have rest :
          (c.onDiscover env p).SameScan (ps.foldl (onDiscover env) (c.onDiscover env p)) := by
        refine foldl_onDiscover_sameScan ps _ fun q _ => ?_
        rw [onDiscover_of_dials dials]
        exact dialPeripheral_dials p q c
      rw [rest, onDiscover_scanner, dials, List.find?_cons_of_pos dials]
      rfl
    | false =>
      have same : (c.onDiscover env p).dials env = c.dials env := funext (onDiscover_holds dials).2
      rw [ih, same, onDiscover_scanner, dials, List.find?_cons_of_neg (by simp [dials])]
      rfl

/-! The timer of the scan. -/

/-- Mid-dial the timer is armed anew and tells nothing. -/
theorem onScanTimer_sameScan (dialing : c.isDialing = true) : c.SameScan (c.onScanTimer env) := by
  have fired : c.SameScan { c with radio.scanTimer := none } := rfl
  have calling : ({ c with radio.scanTimer := none } : Core).isDialing = true := dialing
  simp only [onScanTimer, calling, if_true]
  exact .ite fired (fired.andThen armScanRestart_sameScan)

theorem onScanTimer_state (c : Core) : (c.onScanTimer env).scanner.state = c.scanner.state := by
  have started : ∀ c : Core, (c.startScan env).scanner.state = c.scanner.state := by
    intro c
    rw [startScan_asksScan c, Scanner.rouse_state]
  have stopped : ∀ c : Core, c.stopScan.scanner.state = c.scanner.state := by
    intro c
    rw [stopScan_scanner, Scanner.stop_state]
  simp only [onScanTimer]
  split
  · rfl
  · split
    · rfl
    · split
      · split
        · exact stopped _
        · exact started _
      · exact (started _).trans (stopped _)

/-! The states of the adapters. -/

theorem onState_scanner (c : Core) (s : AdapterState) :
    (c.onState s).scanner = { c.scanner with state := s.toApp } := by
  unfold onState
  split
  · rename_i same
    rw [same]
    rfl
  · exact issue_sameScan { c with radio.state := s.toApp } rfl

theorem onServerState_scanner {s : AdapterState} (up : isDown s = false) (c : Core) :
    (c.onServerState env s).scanner = { c.scanner with state := s.toApp } := by
  refine Eq.trans ?_ (onState_scanner { c with radio.serverState := s } s)
  simp only [onServerState, up]
  exact SameScan.ite (startServer_sameScan _) (.refl _)

theorem onCentralState_scanner {s : AdapterState} (up : isDown s = false) (c : Core) :
    (c.onCentralState env s).scanner =
      ({ c.scanner with central := s, state := s.toApp } : Scanner).rouse env.halted
        (decide (s = .poweredOn) && !c.radio.radioWasDown) := by
  let noted := { c with radio.centralState := s }.onState s
  have told : noted.scanner = { c.scanner with central := s, state := s.toApp } :=
    onState_scanner { c with radio.centralState := s } s
  have down : noted.radio.radioWasDown = c.radio.radioWasDown := by
    unfold noted onState
    split <;> rfl
  rw [← told]
  by_cases on : s = .poweredOn
  · have run : c.onCentralState env s =
        if noted.radio.radioWasDown then noted.scheduleSelfHeal env else noted.startScan env := if_pos on
    rw [run, down, decide_eq_true (p := s = .poweredOn) on]
    cases c.radio.radioWasDown with
    | true => exact scheduleSelfHeal_sameScan noted
    | false => exact startScan_asksScan noted
  · have run : c.onCentralState env s = noted := by
      simp only [onCentralState, up, if_neg on]
      rfl
    rw [run, decide_eq_false (p := s = .poweredOn) on]
    rfl

end Core

namespace Transport

open BleSwarm.Core

/-- The handlers of the event ask for the scan, on a transport whose scan timer does not fire. -/
def rouses (env : Env) (t : Transport) : Event → Bool
  | .centralState s => decide (s = .poweredOn) && !t.core.radio.radioWasDown
  | .writeRequests requests => (moments env t.core requests).any Moment.seats
  | .connClose r => t.core.closesLast r
  | .resumeAccept a => (t.core.awaited? a).isSome
  | e => (t.fate env e).isSome

/-- A dial begins, before which the scan is stopped. -/
def launches (env : Env) (t : Transport) : Event → Bool
  | .discover p _ => t.core.dials env p
  | .dialTimer => (t.core.windowDial env).isSome
  | _ => false

variable (t : Transport) (env : Env)

/-- A guard that lets a dial through. -/
theorem isSome_guard {α : Type*} (b : Bool) (x : α) : (if b then some x else none).isSome = b := by
  cases b <;> rfl

/-- The timer of the dial window. -/
theorem dialTimer_scanner (env : Env) (c : Core) : (coreHandler env c .dialTimer).scanner =
    if (c.windowDial env).isSome then c.scanner.stop.rouse env.halted env.native.connectThrows
    else c.scanner := by
  unfold windowDial coreHandler
  dsimp only
  cases c.dial.dialTimer with
  | none => rfl
  | some deadline =>
    dsimp only
    by_cases early : env.now < deadline
    · simp only [early, if_true]
      rfl
    · simp only [early, if_false]
      exact foldl_onDiscover_scanner c.ranked
        { c with dial := { c.dial with dialTimer := none, candidates := ∅ } }

theorem notifyState_asksScan (p : Ref) (isNotifying : Bool) (n : Nat) (t : Transport) :
    AsksScan env (decide (0 < n) && !isNotifying) t.core
      ((fun t => onNotifyState env t p isNotifying)^[n] t).core := by
  have step : ∀ t : Transport,
      AsksScan env (!isNotifying) t.core (onNotifyState env t p isNotifying).core := by
    intro t
    cases isNotifying with
    | true =>
      exact SameScan.asksScan (.of_performs env (startCentralSession_performs p t.core rfl rfl))
    | false => exact abortDial_asksScan p t.core
  induction n generalizing t with
  | zero => exact rfl
  | succ n ih =>
    have whole := (step t).trans (ih (onNotifyState env t p isNotifying))
    rw [Function.iterate_succ_apply]
    cases isNotifying with
    | true =>
      simp only [Bool.not_true, Bool.and_false, Bool.or_self] at whole ⊢
      exact whole
    | false => exact whole

/-- A discovery or the end of the dial window. -/
theorem handle_launches {e : Event} (opens : (∃ p rssi, e = .discover p rssi) ∨ e = .dialTimer) :
    (t.handle env e).core.scanner = if t.launches env e then
      t.core.scanner.stop.rouse env.halted env.native.connectThrows else t.core.scanner := by
  rcases opens with ⟨p, rssi, rfl⟩ | rfl
  · let found := t.core.setPeripheral p fun q => { q with rssi := rssi }
    have same : found.dials env p = t.core.dials env p := dials_discovered env t.core p rssi
    have scans := @onDiscover_scanner env p found
    rw [same] at scans
    exact scans
  · exact dialTimer_scanner env t.core

/-- Every other event but the timer of the scan and the states of the adapters. -/
theorem handle_asksScan {e : Event} (found : ∀ p rssi, e ≠ .discover p rssi)
    (window : e ≠ .dialTimer)
    (timer : e ≠ .scanTimer) (adapts : e.adapts = false) :
    AsksScan env (t.rouses env e) t.core (t.handle env e).core := by
  cases e with
  | serverState s => cases adapts
  | centralState s => cases adapts
  | serviceAdd => exact (onServiceAdd_sameScan t.core).asksScan
  | writeRequests requests => exact onWriteRequests_asksScan requests t.core
  | channelPublish psm => exact rfl
  | discover p rssi => exact absurd rfl (found p rssi)
  | peripheralError p =>
    simp only [rouses, fate]
    rw [isSome_guard]
    exact onPeripheralError_asksScan p _ t.core
  | servicesDiscover p there =>
    simp only [rouses, fate]
    rw [isSome_guard]
    exact onServicesDiscover_asksScan p there _ t.core
  | characteristicsDiscover p there =>
    simp only [rouses, fate]
    rw [isSome_guard]
    exact onCharacteristicsDiscover_asksScan p there _ t.core
  | notifyState p isNotifying =>
    simp only [rouses, fate]
    rw [isSome_guard]
    exact notifyState_asksScan env p isNotifying _ (t.setListeners p _)
  | notify p data =>
    have answered := @iterate_onCentralNotify_asksScan env p data (t.listeners p).notify t.core
    simp only [rouses, fate]
    by_cases heard : 0 < (t.listeners p).notify
    · rw [decide_eq_true heard, Bool.true_and] at answered
      rw [if_pos heard, Option.isSome_map]
      exact answered
    · rw [decide_eq_false heard, Bool.false_and] at answered
      rw [if_neg heard]
      exact answered
  | connOpen r key => exact (onConnOpen_sameScan r key t.core).asksScan
  | connClose r => exact onConnClose_asksScan r t.core
  | scanTimer => exact absurd rfl timer
  | dialTimer => exact absurd rfl window
  | dialTimeout id =>
    simp only [rouses, fate]
    rw [Option.isSome_map]
    exact onDialTimeout_asksScan id t.core
  | strayTimeout i =>
    simp only [rouses, fate]
    rw [Option.isSome_map]
    exact onStrayTimeout_asksScan i t.core
  | resumeOpen a =>
    simp only [rouses, fate]
    rw [Option.isSome_map]
    exact resumeOpen_asksScan a t.core
  | resumeAccept a => exact resumeAccept_asksScan a t.core
  | _ => exact ((handle_performs t env (by simp [Special]) (by simp)).sameScan rfl).asksScan

/-- The reported state follows the adapters alone. -/
theorem handle_state {e : Event} (adapts : e.adapts = false) :
    (t.handle env e).core.radio.state = t.core.radio.state := by
  by_cases opens : (∃ p rssi, e = .discover p rssi) ∨ e = .dialTimer
  · have launched := congrArg Scanner.state (handle_launches t env opens)
    refine launched.trans ?_
    split
    · rw [Scanner.rouse_state, Scanner.stop_state]
      rfl
    · rfl
  · push Not at opens
    by_cases timer : e = .scanTimer
    · subst timer
      simp only [handle, withCore_core, coreHandler]
      split
      · split
        · rfl
        · exact onScanTimer_state t.core
      · rfl
    · have asked := handle_asksScan t env opens.1 opens.2 timer adapts
      exact (congrArg Scanner.state asked).trans (Scanner.rouse_state _ _ _)

end Transport

end BleSwarm
