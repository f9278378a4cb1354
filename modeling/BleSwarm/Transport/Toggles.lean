import BleSwarm.Transport.Clean
import BleSwarm.Transport.Scanner.Step

/-!
# No toggle mid-dial

To switch the scan while a connect is under way kills the connect, and the callback of the
scan timer asks for it. The other callers of `_startScan` do not: a second dial that ends
or binds its stream, a link that closes, a channel that comes in or a hint about the
internet path switches the scan on under the dial that goes on.
-/

namespace BleSwarm.Transport

open BleSwarm.Core Flights

/-- While a dial goes on the scan is not switched. -/
def Untoggled (t : Transport) (a : Action) : Prop :=
  (∃ id ∈ t.dialing, hasTimer (t.act a) id = true) →
    ∀ command ∈ (t.act a).core.out, command.toggles = false

/-- The step ends all dials at once. -/
def clears (t : Transport) : Action → Bool
  | .input i => t.life.opened && (powersDown i.event || failure (.input i))
  | .suspend _ _ | .close _ => true
  | .drained call _ _ => decide (call ∈ t.life.drains)
  | _ => false

/-- Some dial in flight is not ended by the step. -/
def outlasts (t : Transport) (a : Action) : Bool :=
  !t.clears a &&
    t.dialing.any fun id => !(t.ends a).any fun e => (t.core.peripheral e.1).id == id

/-- The handlers of the event ask for the scan and find the adapter on. -/
def woken (env : Env) (t : Transport) (e : Event) : Bool :=
  t.rouses env e && (e.adapts || decide (t.core.radio.centralState = .poweredOn))

/-- The step asks for the scan and finds the adapter on. -/
def wakes (t : Transport) : Action → Bool
  | .input i => t.life.opened && (t.begin i.native).woken (t.env i.now i.native) i.event
  | .resume _ => t.life.opened && decide (t.core.radio.centralState = .poweredOn)
  | .setOnline online _ =>
    t.life.opened && (online != t.core.radio.online) &&
      decide (t.core.radio.centralState = .poweredOn)
  | _ => false

/-- No step that a dial outlasts asks for the scan. -/
def Calm (t : Transport) (a : Action) : Prop := t.outlasts a = true → t.wakes a = false

instance (t : Transport) (a : Action) : Decidable (t.Untoggled a) :=
  inferInstanceAs (Decidable (_ → ∀ _ ∈ _, _))

instance (t : Transport) (a : Action) : Decidable (t.Calm a) := inferInstanceAs (Decidable (_ → _))

/-- Dials go on with the scan off, on a transport that is open and not halted. -/
structure Hushed (t : Transport) : Prop where
  live : t.halted = true → t.dialing = []
  opened : t.life.opened = false → t.dialing = []
  still : t.dialing ≠ [] → t.core.radio.scanning = false

variable {t : Transport} {a : Action} {id : PeripheralId}

theorem dialing_eq_nil_iff : t.dialing = [] ↔ ∀ id, t.core.outbound.timers id = none := by
  rw [List.eq_nil_iff_forall_not_mem]
  constructor
  · intro none id
    have untimed := none id
    rw [mem_dialing, hasTimer] at untimed
    simpa using untimed
  · intro none id mem
    have timed := mem_dialing.mp mem
    rw [hasTimer, none id] at timed
    cases timed

theorem isDialing_of_mem (mem : id ∈ t.dialing) : t.core.isDialing = true := by
  have timed := mem_dialing.mp mem
  obtain ⟨timer, armed⟩ := Option.isSome_iff_exists.mp timed
  obtain ⟨device, entry, armed⟩ := Option.bind_eq_some_iff.mp armed
  have counted : device ∈ t.core.dial.devices.values.filter fun d => d.timer.isSome :=
    List.mem_filter.mpr ⟨OrderedMap.mem_values entry, by rw [armed]; rfl⟩
  simp only [isDialing, connecting]
  exact decide_eq_true (List.length_pos_of_mem counted)

/-- What a scan that does not run is told by a step, and whether it runs behind one that tells it
nothing. -/
structure Hears (woken : Bool) (s : Scanner) : Prop where
  told : s.told = [] ↔ woken = false
  idle : woken = false → s.scanning = false

theorem Hears.of_idle {s : Scanner} (silent : s.told = []) (idle : s.scanning = false) :
    Hears false s :=
  ⟨iff_of_true silent rfl, fun _ => idle⟩

theorem Hears.of_start {s : Scanner} (silent : s.told = []) (idle : s.scanning = false) :
    Hears (decide (s.central = .poweredOn)) (s.start false) := by
  constructor
  · rw [Scanner.start_told_iff silent idle, decide_eq_false_iff_not]
  · intro off
    have off : s.central ≠ .poweredOn := of_decide_eq_false off
    simp [Scanner.start, idle, off]

theorem Hears.of_rouse {s : Scanner} {w : Bool} (silent : s.told = []) (idle : s.scanning = false) :
    Hears (w && decide (s.central = .poweredOn)) (s.rouse false w) := by
  cases w with
  | false => exact .of_idle silent idle
  | true => exact .of_start silent idle

/-! Dials that end. -/

/-- A handler lets a dial in flight go on unless it is the one that it ends. -/
theorem timed_iff_of_moves {env : Env} {o o' : Outbound} {fate : Option (Ref × Fate)}
    (moves : Moves env o fate o') (timed : (o.timers id).isSome = true) :
    (o'.timers id).isSome = true ↔ fate.any (fun e => o.ids e.1 == id) = false := by
  by_cases ended : ∃ p f, fate = some (p, f) ∧ o.ids p = id
  · obtain ⟨p, f, rfl, rfl⟩ := ended
    rw [moves.ended]
    simp
  · push Not at ended
    have timers : o'.timers id = o.timers id := by
      rcases moves.kept ended with ⟨timers, -, -⟩ | ⟨-, -, free, -⟩
      · exact timers
      · rw [free] at timed
        cases timed
    rw [timers]
    refine iff_of_true timed ?_
    cases fate with
    | none => rfl
    | some e =>
      have other : o.ids e.1 ≠ id := ended e.1 e.2 rfl
      simpa using other

namespace Hushed

theorem opened_of_mem (h : t.Hushed) (mem : id ∈ t.dialing) : t.life.opened = true := by
  by_contra unopened
  rw [h.opened (Bool.eq_false_iff.mpr unopened)] at mem
  cases mem

theorem live_of_mem (h : t.Hushed) (mem : id ∈ t.dialing) : t.halted = false := by
  by_contra halted
  rw [h.live (Bool.eq_true_of_not_eq_false halted)] at mem
  cases mem

theorem cleared (h : t.Hushed) (clears : t.clears a = true) : (t.act a).dialing = [] := by
  rw [dialing_eq_nil_iff]
  intro id
  cases a with
  | input i =>
    simp only [Transport.clears, Bool.and_eq_true, Bool.or_eq_true] at clears
    obtain ⟨opened, down | failed⟩ := clears
    · obtain ⟨noted, -, run⟩ := @handle_down (t.begin i.native) (t.env i.now i.native) i.event down
      rw [act_input opened, run, onRadioDown_outbound]
      rfl
    · rcases act_failure (t := t) failed with ⟨-, unopened⟩ | ⟨severed, -⟩
      · exact absurd (opened.symm.trans unopened) (by simp)
      · rw [severed]
  | suspend now native => exact (t.act_suspend now native).outbound.dials id
  | drained call now native =>
    have pending : call ∈ t.life.drains := of_decide_eq_true clears
    have run : (t.act (.drained call now native)).core =
        (t.begin native).core.teardown (t.env now native) := drained_core pending
    have devices := teardown_devices (t.env now native) (t.begin native).core
    rw [run, outbound, devices]
    rfl
  | close now =>
    cases closing : t.life.closing with
    | true =>
      have idle := dialing_eq_nil_iff.mp (h.live (by simp [halted, closing]))
      have same : (t.act (.close now)).core = (t.begin {}).core := by
        simp [act, close, closing]
      rw [same]
      exact idle id
    | false =>
      cases opened : t.life.opened with
      | true =>
        rw [act_close closing opened, doClose_eq]
        rfl
      | false =>
        have idle := dialing_eq_nil_iff.mp (h.opened opened)
        have same : (t.act (.close now)).core = (t.begin {}).core := by
          simp [act, close, closing, opened]
        rw [same]
        exact idle id
  | _ => cases clears

/-- A dial goes on behind a step unless it is the one that the step ends. -/
theorem kept_iff (h : t.Hushed) (goes : t.clears a = false) (mem : id ∈ t.dialing) :
    hasTimer (t.act a) id = true ↔
      (t.ends a).any (fun e => (t.core.peripheral e.1).id == id) = false := by
  have opened := h.opened_of_mem mem
  have timed := mem_dialing.mp mem
  have same : ∀ t' : Transport, t'.core.outbound = t.outset → hasTimer t' id = true := by
    intro t' stays
    rw [hasTimer, stays]
    exact timed
  have unended : ∀ {b : Bool}, b = true → (b = true ↔
      (none : Option (Ref × Fate)).any (fun e => (t.core.peripheral e.1).id == id) = false) :=
    fun yes => iff_of_true yes rfl
  cases a with
  | input i =>
    simp only [Transport.clears, opened, Bool.true_and, Bool.or_eq_false_iff] at goes
    have heeds : i.event ≠ .centralError true := by
      intro failed
      rw [failure, failed] at goes
      cases goes.2
    exact timed_iff_of_moves (act_moves opened goes.1 heeds) timed
  | «open» server central now =>
    apply unended
    apply same
    simp only [act, runOpen, begin_life, opened, if_true]
    rfl
  | suspend now native => cases goes
  | drained call now native =>
    apply unended
    apply same
    have absent : ¬ call ∈ (t.begin native).life.drains := of_decide_eq_false goes
    simp only [act, drained, if_neg absent]
    rfl
  | resume now =>
    apply unended
    apply same
    simp only [act, resume]
    split
    · rfl
    · exact (doResume_radioOnly _ (t.begin {}).core).sameDials
  | close now => cases goes
  | setOnline online now =>
    exact unended (same _ (setOnline_radioOnly _ (t.begin {}).core online).sameDials)
  | setTopic topic =>
    apply unended
    apply same
    simp only [act, setTopic, Core.setTopic]
    split <;> rfl

theorem outlasts_iff (h : t.Hushed) :
    (∃ id ∈ t.dialing, hasTimer (t.act a) id = true) ↔ t.outlasts a = true := by
  unfold outlasts
  cases clears : t.clears a with
  | true =>
    have none := dialing_eq_nil_iff.mp (h.cleared clears)
    refine iff_of_false ?_ (by simp)
    rintro ⟨id, -, timed⟩
    rw [hasTimer, none id] at timed
    cases timed
  | false =>
    rw [Bool.not_false, Bool.true_and, List.any_eq_true]
    constructor
    · rintro ⟨id, mem, timed⟩
      exact ⟨id, mem, by rw [(h.kept_iff clears mem).mp timed]; rfl⟩
    · rintro ⟨id, mem, unended⟩
      exact ⟨id, mem, (h.kept_iff clears mem).mpr (by simpa using unended)⟩

end Hushed

/-! What the scanner is told by a step that a dial outlasts. -/

/-- An event on a transport that dials, with the scan off. -/
theorem handle_hears {env : Env} {e : Event} (live : env.halted = false)
    (silent : t.core.scanner.told = []) (idle : t.core.scanner.scanning = false)
    (dialing : t.core.isDialing = true) (up : powersDown e = false) :
    Hears (t.woken env e) (t.handle env e).core.scanner := by
  have other : ∀ e : Event, (∀ p rssi, e ≠ .discover p rssi) → e ≠ .dialTimer → e ≠ .scanTimer →
      e.adapts = false → Hears (t.woken env e) (t.handle env e).core.scanner := by
    intro e found window timer adapts
    have rouses := handle_asksScan t env found window timer adapts
    rw [AsksScan, live] at rouses
    rw [rouses, woken, adapts, Bool.false_or]
    exact .of_rouse silent idle
  have launched : ∀ e : Event, ((∃ p rssi, e = .discover p rssi) ∨ e = .dialTimer) → e.adapts = false →
      t.rouses env e = (t.launches env e && env.native.connectThrows) →
      Hears (t.woken env e) (t.handle env e).core.scanner := by
    intro e opens adapts throws
    rw [handle_launches t env opens, Scanner.stop_of_idle idle, live, woken, throws, adapts,
      Bool.false_or]
    cases t.launches env e with
    | true => exact .of_rouse silent idle
    | false => exact .of_idle silent idle
  cases e with
  | serverState s =>
    have heard : (t.handle env (.serverState s)).core.scanner = { t.core.scanner with state := s.toApp } :=
      onServerState_scanner up t.core
    rw [heard]
    exact .of_idle silent idle
  | centralState s =>
    have heard := @onCentralState_scanner env s up t.core
    rw [live] at heard
    have run : (t.handle env (.centralState s)).core.scanner = _ := heard
    rw [run]
    have started := Hears.of_rouse (s := { t.core.scanner with central := s, state := s.toApp })
      (w := decide (s = .poweredOn) && !t.core.radio.radioWasDown) silent idle
    convert started using 1
    simp only [woken, rouses, Event.adapts]
    cases decide (s = .poweredOn) <;> simp
  | discover p rssi =>
    refine launched _ (.inl ⟨p, rssi, rfl⟩) rfl ?_
    simp only [rouses, fate]
    exact isSome_guard _ _
  | dialTimer =>
    refine launched _ (.inr rfl) rfl ?_
    simp only [rouses, fate, launches]
    cases env.native.connectThrows <;> simp
  | scanTimer =>
    have same : t.core.SameScan (t.handle env .scanTimer).core := by
      simp only [handle, withCore_core, coreHandler]
      split
      · exact .ite (.refl _) (onScanTimer_sameScan dialing)
      · exact .refl _
    rw [same]
    exact .of_idle silent idle
  | _ => exact other _ (by simp) (by simp) (by simp) rfl

theorem setOnline_hears {env : Env} {c : Core} (online : Bool) (live : env.halted = false)
    (opened : env.life.opened = true) (silent : c.scanner.told = []) (idle : c.scanner.scanning = false) :
    Hears ((online != c.radio.online) && decide (c.scanner.central = .poweredOn))
      (c.setOnline env online).scanner := by
  by_cases same : online = c.radio.online
  · have run : c.setOnline env online = c := if_pos same
    rw [run, same, bne_self_eq_false, Bool.false_and]
    exact .of_idle silent idle
  · let hinted : Core := { c with radio.online := online }
    have goes : ¬ (env.halted || !env.life.opened) = true := by simp [live, opened]
    have idles : (!hinted.radio.scanning) = true := Bool.not_eq_true' _ |>.mpr idle
    have run : c.setOnline env online = hinted.startScan env :=
      (if_neg same).trans ((if_neg goes).trans (if_pos idles))
    have started : (hinted.startScan env).scanner = c.scanner.start env.halted :=
      startScan_asksScan hinted
    rw [run, started, live, bne_iff_ne.mpr same]
    exact .of_start silent idle

/-- `resume` of a transport that was not suspended. -/
theorem doResume_hears {env : Env} {c : Core} (live : env.halted = false)
    (opened : env.life.opened = true) (silent : c.scanner.told = []) (idle : c.scanner.scanning = false) :
    Hears (decide (c.scanner.central = .poweredOn)) (c.doResume env).scanner := by
  let hunting : Core := { c with radio.advertising := false, radio.huntUntil := env.now + huntWindow }
  let cycled := if env.cfg.pipe = .l2cap then hunting.cycle env else hunting
  have cycles : hunting.SameScan cycled := .ite (cycle_sameScan hunting) (.refl hunting)
  have resumes : hunting.SameScan cycled.maybeAdvertise := cycles.andThen maybeAdvertise_sameScan
  have started : (cycled.maybeAdvertise.startScan env).scanner = c.scanner.start false := by
    have asked : (cycled.maybeAdvertise.startScan env).scanner =
        cycled.maybeAdvertise.scanner.start env.halted := startScan_asksScan _
    rw [asked, resumes, live]
    rfl
  let resumed := cycled.maybeAdvertise.startScan env
  have reported : SameScan { resumed with radio.state := resumed.radio.centralState.toApp }
      (issue { resumed with radio.state := resumed.radio.centralState.toApp } .emitUpdate) :=
    issue_sameScan _ rfl
  have run : c.doResume env =
      { resumed with radio.state := resumed.radio.centralState.toApp }.issue .emitUpdate := by
    simp only [doResume, opened]
    rfl
  have heard : (c.doResume env).scanner =
      { c.scanner.start false with state := resumed.radio.centralState.toApp } := by
    rw [run, reported, ← started]
    rfl
  have hears := Hears.of_start silent idle
  rw [heard]
  exact ⟨hears.told, hears.idle⟩

namespace Hushed

theorem act_hears (h : t.Hushed) (outlasts : t.outlasts a = true) :
    Hears (t.wakes a) (t.act a).core.scanner := by
  simp only [Transport.outlasts, Bool.and_eq_true, Bool.not_eq_true', List.any_eq_true] at outlasts
  obtain ⟨goes, id, mem, -⟩ := outlasts
  have opened := h.opened_of_mem mem
  have live := h.live_of_mem mem
  have idle : t.core.scanner.scanning = false := h.still (List.ne_nil_of_mem mem)
  cases a with
  | input i =>
    simp only [Transport.clears, opened, Bool.true_and, Bool.or_eq_false_iff] at goes
    rw [act_input opened]
    simp only [wakes, opened, Bool.true_and]
    exact handle_hears (t := t.begin i.native) live rfl idle (isDialing_of_mem mem) goes.1
  | «open» server central now =>
    have same : t.act (.open server central now) = t.begin {} := by
      simp [act, runOpen, opened]
    rw [same]
    exact .of_idle rfl idle
  | suspend now native => cases goes
  | drained call now native =>
    have absent : ¬ call ∈ (t.begin native).life.drains := of_decide_eq_false goes
    have same : t.act (.drained call now native) = t.begin native := if_neg absent
    rw [same]
    exact .of_idle rfl idle
  | resume now =>
    obtain ⟨⟨suspended, closing⟩, closed⟩ : (t.life.suspended = false ∧ t.life.closing = false) ∧
        t.life.closed = false := by simpa [halted] using live
    have run : (t.act (.resume now)).core = (t.begin {}).core.doResume
        { cfg := t.cfg, life := { t.life with suspended := false }, now } := by
      simp [act, resume, closing, closed]
      rfl
    simp only [wakes, opened, Bool.true_and]
    rw [run]
    exact doResume_hears (c := (t.begin {}).core) (by simp [Env.halted, closing, closed]) opened rfl idle
  | close now => cases goes
  | setOnline online now =>
    simp only [wakes, opened, Bool.true_and]
    exact setOnline_hears (c := (t.begin {}).core) online live opened rfl idle
  | setTopic topic =>
    have told : (t.act (.setTopic topic)).core.scanner.told = [] := by
      have out := setTopic_out t topic
      simp [act, scanner, out]
    have still : (t.act (.setTopic topic)).core.scanner.scanning = false := by
      refine Eq.trans ?_ idle
      simp only [act, setTopic, Core.setTopic]
      split <;> rfl
    exact .of_idle told still

theorem untoggled_iff (h : t.Hushed) : t.Untoggled a ↔ t.Calm a := by
  unfold Untoggled Calm
  rw [h.outlasts_iff]
  apply imp_congr_right
  intro outlasts
  rw [← (h.act_hears outlasts).told]
  simp [scanner]

end Hushed

/-! Dials that begin. -/

theorem timed_of_settles {env : Env} {o o' : Outbound} {fate : Option (Ref × Fate)}
    (settles : Settles env o fate o') (timed : (o'.timers id).isSome = true) :
    (o.timers id).isSome = true := by
  have kept : ∀ key, (Function.update o.timers key none id).isSome = true →
      (o.timers id).isSome = true := by
    intro key timed
    rw [Function.update_apply] at timed
    split at timed
    · cases timed
    · exact timed
  cases settles with
  | stays => exact timed
  | ends p f cool fails cooldown => exact kept _ timed
  | binds p sess => exact kept _ timed

theorem timed_of_dials {env : Env} {o o' : Outbound} {p : Ref} (dials : Dials env o p o')
    (timed : (o'.timers id).isSome = true) :
    (o.timers id).isSome = true ∨ env.native.connectThrows = false := by
  rcases dials.timer with ⟨taken, -, -⟩ | ⟨-, timers, -⟩
  · exact .inr taken
  · rw [timers, Function.update_apply] at timed
    split at timed
    · cases timed
    · exact .inl timed

/-- A dial begins behind a connect that is taken. -/
theorem handle_begins {env : Env} {e : Event}
    (opens : (∃ p rssi, e = .discover p rssi) ∨ e = .dialTimer)
    (timed : hasTimer (t.handle env e) id = true) :
    hasTimer t id = true ∨
      env.halted = false ∧ t.launches env e = true ∧ env.native.connectThrows = false := by
  rcases opens with ⟨p, rssi, rfl⟩ | rfl
  · let found := t.core.setPeripheral p fun q => { q with rssi := rssi }
    have stays : SameDials t.core found :=
      setPeripheral_sameDials p t.core fun _ => rfl
    have same : found.dials env p = t.core.dials env p := dials_discovered env t.core p rssi
    have timed : ((found.onDiscover env p).outbound.timers id).isSome = true := timed
    have begins : t.launches env (.discover p rssi) = found.dials env p := same.symm
    unfold hasTimer
    rw [begins, ← stays]
    cases dials : found.dials env p with
    | false =>
      rw [(onDiscover_holds dials).1.outside.timers] at timed
      exact .inl timed
    | true =>
      refine (timed_of_dials (onDiscover_dials dials) timed).imp_right fun taken => ?_
      exact ⟨(dials_window dials).1, rfl, taken⟩
  · have timed : ((coreHandler env t.core .dialTimer).outbound.timers id).isSome = true := timed
    unfold hasTimer launches windowDial
    unfold coreHandler at timed
    dsimp only at timed ⊢
    cases armed : t.core.dial.dialTimer with
    | none =>
      rw [armed] at timed
      exact .inl timed
    | some deadline =>
      rw [armed] at timed
      dsimp only at timed ⊢
      by_cases early : env.now < deadline
      · rw [if_pos early] at timed
        exact .inl timed
      · rw [if_neg early] at timed ⊢
        rcases onDialTimer_outbound env t.core with ⟨none, held⟩ | ⟨p, found, dials, o, held, dialed⟩
        · rw [held.outside.timers] at timed
          exact .inl timed
        · rw [← held.outside.timers, found]
          refine (timed_of_dials dialed timed).imp_right fun taken => ?_
          exact ⟨(dials_window dials).1, rfl, taken⟩

/-- A dial in flight was so before, or begins with the scan stopped. -/
theorem timed_of_act (timed : hasTimer (t.act a) id = true) :
    hasTimer t id = true ∨ (∃ i, a = .input i) ∧ t.life.opened = true ∧ t.halted = false ∧
      (t.act a).core.radio.scanning = false := by
  have dropped : Drops t.outset (t.act a).core.outbound → hasTimer t id = true := by
    intro drops
    rcases drops.timers with same | gone
    · rw [hasTimer, same] at timed
      exact timed
    · rw [hasTimer, gone id] at timed
      cases timed
  rcases t.act_split a with ⟨i, rfl, opened, run⟩ | ⟨i, rfl, opened, run⟩ | ⟨-, env, -, -, -, calls⟩
  · rw [run] at timed
    exact .inl timed
  · cases down : powersDown i.event with
    | true =>
      rw [run] at dropped
      exact .inl (dropped (handle_drops (t.begin i.native) _ down))
    | false =>
      by_cases failed : i.event = .centralError true
      · rw [hasTimer, act_centralError opened failed] at timed
        cases timed
      · by_cases opens : (∃ p rssi, i.event = .discover p rssi) ∨ i.event = .dialTimer
        · rw [run] at timed ⊢
          refine (handle_begins opens timed).imp_right ?_
          rintro ⟨live, launches, taken⟩
          have stopped := handle_launches (t.begin i.native) (t.env i.now i.native) opens
          rw [launches, if_pos rfl, taken] at stopped
          refine ⟨⟨i, rfl⟩, opened, live, ?_⟩
          exact (congrArg Scanner.scanning stopped).trans (Scanner.stop_scanning _)
        · push Not at opens
          have settles := handle_settles (t.begin i.native) (t.env i.now i.native) down failed
            opens.1 opens.2
          rw [← run] at settles
          have before : hasTimer (t.begin i.native) id = true := timed_of_settles settles timed
          exact .inl before
  · exact .inl (dropped calls.drops)

/-- Only calls that end all dials halt a transport. -/
theorem clears_of_halts (halts : (t.act a).halted = true) (live : t.halted = false) :
    t.clears a = true := by
  cases a with
  | suspend now native => rfl
  | close now => rfl
  | input i =>
    have same : (t.act (.input i)).halted = t.halted := by simp [act, halted]
    rw [same, live] at halts
    cases halts
  | drained call now native =>
    have same : (t.act (.drained call now native)).halted = t.halted := by simp [act, halted]
    rw [same, live] at halts
    cases halts
  | _ =>
    rw [act_live live (by trivial)] at halts
    cases halts

namespace Hushed

theorem create (cfg : Config) (topic : Option Bytes) (online : Bool) (ids : Ref → PeripheralId) :
    (Transport.create cfg topic online ids).Hushed :=
  ⟨fun _ => rfl, fun _ => rfl, fun dialing => absurd rfl dialing⟩

theorem act (h : t.Hushed) (untoggled : t.Untoggled a) : (t.act a).Hushed := by
  have before : ∀ id ∈ (t.act a).dialing, id ∉ t.dialing → (∃ i, a = .input i) ∧
      t.life.opened = true ∧ t.halted = false ∧ (t.act a).core.radio.scanning = false := by
    intro id mem new
    rcases timed_of_act (mem_dialing.mp mem) with old | begins
    · exact absurd (mem_dialing.mpr old) new
    · exact begins
  constructor
  · intro halted
    apply List.eq_nil_iff_forall_not_mem.mpr
    intro id mem
    cases live : t.halted with
    | false =>
      rw [h.cleared (clears_of_halts halted live)] at mem
      cases mem
    | true =>
      obtain ⟨-, -, running, -⟩ := before id mem (by simp [h.live live])
      exact absurd (live.symm.trans running) (by simp)
  · intro unopened
    have unopened := unopened_of_act unopened
    apply List.eq_nil_iff_forall_not_mem.mpr
    intro id mem
    obtain ⟨-, opened, -⟩ := before id mem (by simp [h.opened unopened])
    exact absurd (opened.symm.trans unopened) (by simp)
  · intro dialing
    obtain ⟨id, mem⟩ := List.exists_mem_of_ne_nil _ dialing
    by_cases old : id ∈ t.dialing
    · have outlasts := h.outlasts_iff.mp ⟨id, old, mem_dialing.mp mem⟩
      exact (h.act_hears outlasts).idle (h.untoggled_iff.mp untoggled outlasts)
    · exact (before id mem old).2.2.2

end Hushed

/-- The scan is not switched under a dial in the runs in which no step that a dial outlasts asks
for it, and in no others. -/
theorem scan_untoggled_iff (cfg : Config) (topic : Option Bytes) (online : Bool)
    (ids : Ref → PeripheralId) (actions : List Action) :
    Runs.Each act Untoggled (create cfg topic online ids) actions ↔
      Runs.Each act Calm (create cfg topic online ids) actions := by
  apply Runs.each_iff (fun t a (h : t.Hushed) => h.untoggled_iff) (fun t a h untoggled => h.act untoggled)
  exact Hushed.create cfg topic online ids

/-- Two dials overlap, and the first runs into its timeout. -/
def overlappingDials : List Action :=
  [.open .poweredOn .poweredOn 0,
    .input { now := 1000, event := .discover 7 none },
    .input { now := 1500, event := .discover 8 none },
    .input { now := 16000, event := .dialTimeout 7 }]

/-- The end of the one dial starts the scan under the other. -/
theorem overlapping_dials_toggle :
    ¬ Runs.Each act Untoggled
      (create (Config.plain (List.replicate 32 1) .gatt .ios) none true fun p => p)
      overlappingDials := by
  decide +kernel

end BleSwarm.Transport
