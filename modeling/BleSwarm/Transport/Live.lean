import BleSwarm.Transport.Radio.Handlers

/-!
# A transport that is live

The radio of a live transport is up: it advertises and has the timer of its next
scan phase armed. `Ready` is what a transport keeps across suspends and resumes
while its adapters stay on, and what makes the next resume bring it up again.
-/

namespace BleSwarm.Core

variable {env : Env} {c c' : Core}

/-- The adapter is on and saw no power cycle, and the service is hosted. -/
structure PoweredHosting (c : Core) : Prop where
  powered : c.radio.centralState = .poweredOn
  serviceAdded : c.radio.serviceAdded = true
  uncycled : c.radio.radioCycled = false
  fresh : c.radio.radioWasDown = false

theorem Sustains.hosting (h : Sustains env c c') (hosting : PoweredHosting c) : PoweredHosting c' :=
  ⟨h.powered hosting.powered, h.serviceAdded hosting.serviceAdded, h.cycled.trans hosting.uncycled,
    h.wasDown.trans hosting.fresh⟩

/-- A hosting radio on which a scan goes on only with an armed timer. -/
structure Stopped (env : Env) (c : Core) : Prop where
  hosting : PoweredHosting c
  scanning : c.radio.scanning = true → env.halted = false ∧ c.radio.scanTimer.isSome = true

theorem RadioSteps.stopped (h : RadioSteps env c c') (stopped : Stopped env c) :
    Stopped env c' where
  hosting := h.sustains.hosting stopped.hosting
  scanning scans := by
    rcases h.sustains.scanning stopped.hosting.powered scans with before | now
    · obtain ⟨live, armed⟩ := stopped.scanning before
      exact ⟨live, h.sustains.armed stopped.hosting.powered live armed⟩
    · exact now

theorem sayGoodbye_radioSteps (c : Core) : RadioSteps env c (c.sayGoodbye env) := by
  have said :
      ∀ (c : Core) (id : Hex), RadioSteps env c (c.notifyClose env id none) := fun _ _ => .rest rfl
  refine RadioSteps.trans (RadioSteps.foldl said c _)
    (RadioSteps.foldl (fun c (d : Device) => ?_) _ _)
  cases d.peripheral with
  | none => exact .refl c
  | some p =>
    simp only
    split
    · exact .ite (.issue c rfl) (.refl c)
    · exact .refl c

theorem beginSuspend_hosting (h : PoweredHosting c) : PoweredHosting (c.beginSuspend env) := by
  have silent : PoweredHosting { c with radio.scanTimer := none } :=
    ⟨h.powered, h.serviceAdded, h.uncycled, h.fresh⟩
  have said : RadioSteps env { c with radio.scanTimer := none } (c.beginSuspend env) :=
    .after (sayGoodbye_radioSteps _) rfl
  exact said.sustains.hosting silent

theorem disconnectDevices_radioSteps (c : Core) : RadioSteps env c c.disconnectDevices := by
  refine RadioSteps.foldl (fun c (d : Device) => ?_) c _
  cases d.peripheral with
  | none => exact .refl c
  | some p => exact .issue c rfl

theorem reapAllSessions_radioSteps (c : Core) : RadioSteps env c c.reapAllSessions := by
  refine .before (RadioSteps.foldl (fun c (r : Ref) => ?_) c _) rfl
  dsimp only
  split <;> exact .rest rfl

theorem forget_radioSteps (c : Core) : RadioSteps env c c.forget := by
  have reaped : RadioSteps env c ({ c.destroyPeers with links.peers := ∅ }.reapAllSessions) :=
    .after (reapAllSessions_radioSteps _) rfl
  exact .before reaped rfl

/-- Nothing scans any more. -/
theorem silence_stopped (h : PoweredHosting c) : Stopped env (c.silence env) := by
  have stops : RadioSteps env c c.stopScan := .stopScan c
  have hosting := stops.sustains.hosting h
  have idle := stopScan_scanning c
  unfold silence
  generalize c.stopScan = s at hosting idle ⊢
  dsimp only
  split
  · exact ⟨⟨hosting.powered, hosting.serviceAdded, hosting.uncycled, hosting.fresh⟩,
      fun scans => absurd (idle.symm.trans scans) Bool.false_ne_true⟩
  · exact ⟨⟨hosting.powered, hosting.serviceAdded, hosting.uncycled, hosting.fresh⟩,
      fun scans => absurd (idle.symm.trans scans) Bool.false_ne_true⟩

/-- The teardown stops the scan. -/
theorem teardown_stopped (h : PoweredHosting c) : Stopped env (c.teardown env) := by
  have parted : RadioSteps env c c.disconnectDevices.dropDevices :=
    .before (disconnectDevices_radioSteps c) rfl
  have silent : Stopped env (c.disconnectDevices.dropDevices.silence env) :=
    silence_stopped (parted.sustains.hosting h)
  have dropped := (forget_radioSteps _).stopped silent
  have unpublished :
      ∀ c : Core, RadioSteps env c (if env.cfg.platform = .mac then c.unpublish env else c) :=
    fun c => .ite (unpublish_radioSteps c) (.refl c)
  exact (RadioSteps.issue _ rfl).stopped
    ((RadioSteps.state _ .off).stopped ((unpublished _).stopped dropped))

theorem maybeAdvertise_advertising (hosted : c.radio.serviceAdded = true) :
    c.maybeAdvertise.radio.advertising = true := by
  unfold maybeAdvertise
  split
  · rename_i done
    simpa [hosted] using done
  · rfl

/-- A resume advertises again, and scans with an armed timer unless a scan without one
is still on. -/
theorem doResume_hosting (env : Env) (h : PoweredHosting c) (opened : env.life.opened = true)
    (live : env.halted = false) :
    PoweredHosting (c.doResume env) ∧ (c.doResume env).radio.advertising = true ∧
      ((c.radio.scanning = true → c.radio.scanTimer.isSome = true) →
        (c.doResume env).radio.scanTimer.isSome = true) ∧
      ((c.doResume env).radio.scanning = true →
        c.radio.scanning = true ∨ (c.doResume env).radio.scanTimer.isSome = true) := by
  let fresh : Core := { c with radio.advertising := false, radio.huntUntil := env.now + huntWindow }
  let cycled : Core := if env.cfg.pipe = .l2cap then fresh.cycle env else fresh
  have run : c.doResume env = issue { cycled.maybeAdvertise.startScan env with
      radio.state := (cycled.maybeAdvertise.startScan env).radio.centralState.toApp } .emitUpdate := by
    simp only [doResume, opened]
    rfl
  have hosting : PoweredHosting fresh := ⟨h.powered, h.serviceAdded, h.uncycled, h.fresh⟩
  have cycles : RadioSteps env fresh cycled := .ite (cycle_radioSteps _) (.refl _)
  have advertised := maybeAdvertise_advertising (cycles.sustains.hosting hosting).serviceAdded
  have advertises : RadioSteps env fresh cycled.maybeAdvertise := cycles.andThen .maybeAdvertise
  have scans : Sustains env cycled.maybeAdvertise (cycled.maybeAdvertise.startScan env) :=
    startScan_sustains _
  have last : RadioSteps env (cycled.maybeAdvertise.startScan env) (c.doResume env) := by
    rw [run]
    exact (RadioSteps.state _ _).trans (.issue _ rfl)
  have rest := scans.trans last.sustains
  have powered := advertises.sustains.powered hosting.powered
  refine ⟨rest.hosting (advertises.sustains.hosting hosting), rest.advertising advertised, ?_, ?_⟩
  · intro armed
    cases scanning : cycled.maybeAdvertise.radio.scanning
    · exact last.sustains.armed (scans.powered powered) live
        (startScan_armed _ live powered scanning)
    · apply rest.armed powered live
      rcases advertises.sustains.scanning hosting.powered scanning with before | now
      · exact advertises.sustains.armed hosting.powered live (armed before)
      · exact now.2
  · intro scanning
    exact ((advertises.sustains.trans rest).scanning hosting.powered scanning).imp_right And.right

end BleSwarm.Core

namespace BleSwarm.Transport

open BleSwarm.Core

/-- The radio is up: it advertises and the next scan phase is armed. -/
def Live (t : Transport) : Prop :=
  t.life.suspended = false ∧ t.core.radio.advertising = true ∧
    t.core.radio.scanTimer.isSome = true

/-- The next resume makes the transport live. A scan whose timer is gone is one that a
teardown is still to stop. -/
structure Ready (t : Transport) : Prop where
  opened : t.life.opened = true
  open_ : t.life.closing = false ∧ t.life.closed = false
  hosting : PoweredHosting t.core
  scanning : t.core.radio.scanning = true →
    (t.life.suspended = false ∧ t.core.radio.scanTimer.isSome = true) ∨ t.life.drains ≠ []

variable {t t' : Transport}

theorem Ready.halted (h : t.Ready) (now : Nat) (native : Native) :
    (t.env now native).halted = t.life.suspended := by
  simp [Env.halted, env, h.open_]

/-- Moves of the radio keep a transport ready, and live if it was. -/
theorem Ready.radioSteps (h : t.Ready) {now : Nat} {native : Native}
    (moves : RadioSteps (t.env now native) t.core t'.core) (life : t'.life = t.life) :
    t'.Ready ∧ (t.Live → t'.Live) := by
  have sustains := moves.sustains
  have halted := h.halted now native
  constructor
  · refine ⟨life ▸ h.opened, life ▸ h.open_, sustains.hosting h.hosting, fun scanning => ?_⟩
    rw [life]
    rcases sustains.scanning h.hosting.powered scanning with before | ⟨live, armed⟩
    · rcases h.scanning before with ⟨up, armed⟩ | draining
      · exact .inl ⟨up, sustains.armed h.hosting.powered (halted.trans up) armed⟩
      · exact .inr draining
    · exact .inl ⟨halted.symm.trans live, armed⟩
  · rintro ⟨up, advertising, armed⟩
    exact ⟨life ▸ up, sustains.advertising advertising,
      sustains.armed h.hosting.powered (halted.trans up) armed⟩

/-- The radio and what the lifecycle says of it are as before. -/
theorem Ready.congr (h : t.Ready) (radio : t'.core.radio = t.core.radio)
    (opened : t'.life.opened = t.life.opened) (closing : t'.life.closing = t.life.closing)
    (closed : t'.life.closed = t.life.closed) (suspended : t'.life.suspended = t.life.suspended)
    (drains : t'.life.drains = t.life.drains) : t'.Ready ∧ (t.Live → t'.Live) := by
  obtain ⟨up, ⟨open_, open'⟩, hosting, scanning⟩ := h
  refine ⟨⟨opened.trans up, ⟨closing.trans open_, closed.trans open'⟩, ?_, ?_⟩, ?_⟩
  · exact ⟨by rw [radio, hosting.powered], by rw [radio, hosting.serviceAdded],
      by rw [radio, hosting.uncycled],
      by rw [radio, hosting.fresh]⟩
  · rwa [radio, suspended, drains]
  · rw [Live, Live, radio, suspended]
    exact id

theorem Ready.begin (h : t.Ready) (native : Native) :
    (t.begin native).Ready ∧ (t.Live → (t.begin native).Live) := h.congr rfl rfl rfl rfl rfl rfl

/-- An event while the adapters stay on reports no power cycle. -/
theorem Ready.input (h : t.Ready) {i : Input} (powered : Powered i.event) :
    (t.input i).Ready ∧ (t.Live → (t.input i).Live) ∧ .emitRadioCycled ∉ (t.input i).core.out := by
  have run : t.input i = (t.begin i.native).handle (t.env i.now i.native) i.event := by
    simp only [Transport.input, begin_life, h.opened, if_true]
    rfl
  have moves : RadioSteps ((t.begin i.native).env i.now i.native) (t.begin i.native).core
      ((t.begin i.native).handle (t.env i.now i.native) i.event).core :=
    handle_radioSteps (t := t.begin i.native) h.hosting.fresh powered
  obtain ⟨ready, live⟩ := (h.begin i.native).1.radioSteps moves (handle_life _ _ _)
  rw [run]
  refine ⟨ready, live ∘ (h.begin i.native).2, fun emitted => ?_⟩
  exact List.not_mem_nil (moves.sustains.uncycled emitted)

theorem Ready.suspend (h : t.Ready) (now : Nat) (native : Native) : (t.suspend now native).Ready :=
  ⟨h.opened, h.open_, beginSuspend_hosting (h.begin native).1.hosting,
    fun _ => .inr (by simp)⟩

/-- The teardown stops the scan of a transport that has not been resumed meanwhile. -/
theorem Ready.drained (h : t.Ready) (call now : Nat) (native : Native) :
    (t.drained call now native).Ready := by
  simp only [Transport.drained]
  split
  · have stopped : Stopped (t.env now native) ((t.begin native).core.teardown (t.env now native)) :=
      teardown_stopped (h.begin native).1.hosting
    refine ⟨h.opened, h.open_, stopped.hosting, fun scanning => .inl ?_⟩
    obtain ⟨live, armed⟩ := stopped.scanning scanning
    exact ⟨(h.halted now native).symm.trans live, armed⟩
  · exact (h.begin native).1

/-- A resume brings the transport up, unless an earlier suspend is still to be torn down. -/
theorem Ready.resume (h : t.Ready) (now : Nat) :
    (t.resume now).Ready ∧ ((t.resume now).Live ∨ t.life.drains ≠ []) := by
  let up : Transport := { t.begin {} with life.suspended := false }
  have run : t.resume now = up.withCore fun c => c.doResume (up.env now) := by
    simp only [Transport.resume]
    rw [if_neg (by simp [h.open_])]
  obtain ⟨hosting, advertising, armed, scanning⟩ :=
    doResume_hosting (up.env now) (h.begin {}).1.hosting h.opened
      (by simp [Env.halted, env, up, h.open_])
  rw [run]
  constructor
  · refine ⟨h.opened, h.open_, hosting, fun scans => ?_⟩
    rcases scanning scans with before | now
    · rcases h.scanning before with ⟨-, timer⟩ | draining
      · exact .inl ⟨rfl, armed fun _ => timer⟩
      · exact .inr draining
    · exact .inl ⟨rfl, now⟩
  · by_cases draining : t.life.drains = []
    · refine .inl ⟨rfl, advertising, armed fun scans => ?_⟩
      exact ((h.scanning scans).resolve_right fun ne => ne draining).2
    · exact .inr draining

theorem Ready.setOnline (h : t.Ready) (online : Bool) (now : Nat) :
    (t.setOnline online now).Ready ∧ (t.Live → (t.setOnline online now).Live) := by
  have moves : RadioSteps ((t.begin {}).env now) (t.begin {}).core (t.setOnline online now).core :=
    setOnline_radioSteps _ online
  obtain ⟨ready, live⟩ := (h.begin {}).1.radioSteps moves rfl
  exact ⟨ready, live ∘ (h.begin {}).2⟩

/-- Only the uuid changes. -/
theorem Ready.setTopic (h : t.Ready) (topic : Option Bytes) :
    (t.setTopic topic).1.Ready ∧ (t.Live → (t.setTopic topic).1.Live) := by
  simp only [Transport.setTopic, Core.setTopic]
  split
  · exact h.begin {}
  · exact ⟨⟨h.opened, h.open_, ⟨h.hosting.powered, h.hosting.serviceAdded, h.hosting.uncycled,
      h.hosting.fresh⟩,
      h.scanning⟩, id⟩

theorem Ready.runOpen (h : t.Ready) (server central : AdapterState) (now : Nat) :
    t.runOpen server central now = t.begin {} := by
  simp [Transport.runOpen, h.opened]

end BleSwarm.Transport
