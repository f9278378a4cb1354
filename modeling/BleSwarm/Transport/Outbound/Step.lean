import BleSwarm.Transport.Outbound.Fate

/-!
# What a step does to the dials

A step ends at most one dial of its own, and begins at most one. Beyond that dials only end
all at once: when the central reports a failed connect, when an adapter goes down and when
the owner suspends or closes the transport.
-/

namespace BleSwarm

namespace Core

/-- What the dials look like behind an event that ends the given one. -/
inductive Moves (env : Env) (o : Outbound) : Option (Ref × Fate) → Outbound → Prop
  | settles (fate : Option (Ref × Fate)) (o' : Outbound) (settles : Settles env o fate o') :
    Moves env o fate o'
  | holds (o' : Outbound) (holds : Holds env o o') : Moves env o none o'
  | dials (p : Ref) (o₁ o' : Outbound) (live : env.halted = false)
    (window : o.lastDial + dialMinInterval ≤ env.now) (free : o.timers (o.ids p) = none)
    (cooled : o.cools (o.ids p) ≤ env.now) (holds : Holds env o o₁) (dials : Dials env o₁ p o') :
    Moves env o (if env.native.connectThrows then some (p, .aborted) else none) o'

namespace Moves

variable {env : Env} {o o' : Outbound} {fate : Option (Ref × Fate)}

/-- The dial that a step ends has no timer. -/
theorem ended {p : Ref} {f : Fate} (h : Moves env o (some (p, f)) o') : o'.timers (o.ids p) = none := by
  generalize ends : some (p, f) = fate at h
  cases h with
  | settles _ _ settles =>
    cases settles with
    | stays => cases ends
    | ends q f' cool fails cooldown =>
      obtain ⟨rfl, rfl⟩ := Prod.mk.inj (Option.some.inj ends)
      exact Function.update_self _ _ _
    | binds q sess =>
      obtain ⟨rfl, rfl⟩ := Prod.mk.inj (Option.some.inj ends)
      exact Function.update_self _ _ _
  | holds _ holds => cases ends
  | dials q o₁ _ live window free cooled holds dials =>
    rcases dials.timer with ⟨taken, -, -⟩ | ⟨thrown, timers, -⟩
    · rw [taken] at ends
      cases ends
    · rw [thrown] at ends
      obtain ⟨rfl, rfl⟩ := Prod.mk.inj (Option.some.inj ends)
      rw [timers, holds.outside.ids]
      exact Function.update_self _ _ _

/-- Any other dial is as before, or has begun. -/
theorem kept (h : Moves env o fate o') {id : PeripheralId} (other : ∀ p f, fate = some (p, f) → o.ids p ≠ id) :
    (o'.timers id = o.timers id ∧ o'.cools id = o.cools id ∧
      ∀ p, o.ids p = id → (p ∈ o'.connects ↔ p ∈ o.connects)) ∨
    ((∃ p, o'.timers id = some (p, env.now + connectTimeout)) ∧ o'.cools id = o.cools id ∧
      o.timers id = none ∧ o.cools id ≤ env.now) := by
  cases h with
  | settles _ _ settles =>
    cases settles with
    | stays => exact .inl ⟨rfl, rfl, fun _ _ => Iff.rfl⟩
    | ends p f cool fails cooldown =>
      have ne := (other p f rfl).symm
      exact .inl ⟨Function.update_of_ne ne _ _, Function.update_of_ne ne _ _, fun _ _ => Iff.rfl⟩
    | binds p sess =>
      have ne := (other p .bound rfl).symm
      refine .inl ⟨Function.update_of_ne ne _ _, ?_, fun _ _ => Iff.rfl⟩
      simp only [Outbound.bind]
      split
      · rfl
      · exact Function.update_of_ne ne _ _
  | holds _ holds =>
    have outside := holds.outside
    exact .inl ⟨congrFun outside.timers id, congrFun outside.cools id, fun p _ => by rw [outside.connects]⟩
  | dials q o₁ _ live window free cooled holds dials =>
    have outside := holds.outside
    obtain ⟨connects, -, -, -⟩ := dials.rest
    rw [outside.connects] at connects
    by_cases here : o.ids q = id
    · rcases dials.timer with ⟨taken, cools, timers⟩ | ⟨thrown, -, -⟩
      · subst here
        refine .inr ⟨⟨q, ?_⟩, ?_, free, cooled⟩
        · rw [timers, outside.ids, Function.update_self]
        · rw [cools, outside.cools]
      · rw [thrown] at other
        exact absurd here (other q .aborted rfl)
    · have ne : id ≠ o₁.ids q := by
        rw [outside.ids]
        exact Ne.symm here
      refine .inl ⟨?_, ?_, fun p mine => ?_⟩
      · rcases dials.timer with ⟨-, -, timers⟩ | ⟨-, timers, -⟩
        · rw [timers, Function.update_of_ne ne, outside.timers]
        · rw [timers, Function.update_of_ne ne, outside.timers]
      · rcases dials.timer with ⟨-, cools, -⟩ | ⟨-, -, cool, -, cools⟩
        · rw [cools, outside.cools]
        · rw [cools, Function.update_of_ne ne, outside.cools]
      · have other : p ≠ q := by
          rintro rfl
          exact here mine
        simp [connects, other]

/-- The dial that a step ends cools, or its stream is bound. -/
theorem cooled {p : Ref} {f : Fate} (h : Moves env o (some (p, f)) o') :
    Cooldown env (o'.cools (o.ids p)) ∨ ∃ sess, o'.bound = o.bound ++ [(p, sess)] := by
  generalize ends : some (p, f) = fate at h
  cases h with
  | settles _ _ settles =>
    cases settles with
    | stays => cases ends
    | ends q f' cool fails cooldown =>
      obtain ⟨rfl, rfl⟩ := Prod.mk.inj (Option.some.inj ends)
      have cools : (o.settle (o.ids p) cool).cools (o.ids p) = cool := Function.update_self _ _ _
      rw [cools]
      exact .inl cooldown
    | binds q sess =>
      obtain ⟨rfl, rfl⟩ := Prod.mk.inj (Option.some.inj ends)
      exact .inr ⟨sess, rfl⟩
  | holds _ holds => cases ends
  | dials q o₁ _ live window free cooled holds dials =>
    rcases dials.timer with ⟨taken, -, -⟩ | ⟨thrown, -, cool, cooldown, cools⟩
    · rw [taken] at ends
      cases ends
    · rw [thrown] at ends
      obtain ⟨rfl, rfl⟩ := Prod.mk.inj (Option.some.inj ends)
      rw [cools, holds.outside.ids, Function.update_self]
      exact .inl cooldown

/-- A stream is bound exactly when a dial ends with it. -/
theorem bound (h : Moves env o fate o') :
    (∃ p sess, fate = some (p, .bound) ∧ o'.bound = o.bound ++ [(p, sess)]) ∨
    (∀ p, fate ≠ some (p, .bound)) ∧ o'.bound = o.bound := by
  cases h with
  | settles _ _ settles =>
    cases settles with
    | stays => exact .inr ⟨fun p => by simp, rfl⟩
    | ends p f cool fails cooldown =>
      refine .inr ⟨fun q here => ?_, rfl⟩
      exact fails (Prod.mk.inj (Option.some.inj here)).2
    | binds p sess => exact .inl ⟨p, sess, rfl, rfl⟩
  | holds _ holds => exact .inr ⟨fun p => by simp, holds.outside.bound⟩
  | dials q o₁ _ live window free cooled holds dials =>
    refine .inr ⟨fun p => ?_, dials.rest.2.2.1.trans holds.outside.bound⟩
    split <;> simp

/-- A connect is to a peripheral that has no dial and does not cool, half a second after the
last one. -/
theorem connects (h : Moves env o fate o') :
    (o'.connects = o.connects ∧ o'.lastDial = o.lastDial) ∨
    ∃ p, o'.connects = o.connects ++ [p] ∧ o.timers (o.ids p) = none ∧ o.cools (o.ids p) ≤ env.now ∧
      o'.lastDial = env.now ∧ o.lastDial + dialMinInterval ≤ env.now := by
  cases h with
  | settles _ _ settles => cases settles <;> exact .inl ⟨rfl, rfl⟩
  | holds _ holds => exact .inl ⟨holds.outside.connects, holds.outside.lastDial⟩
  | dials q o₁ _ live window free cooled holds dials =>
    obtain ⟨connects, lastDial, -, -⟩ := dials.rest
    rw [holds.outside.connects] at connects
    exact .inr ⟨q, connects, free, cooled, lastDial, window⟩

/-- Candidates go on waiting. -/
theorem waiting (h : Moves env o fate o') (waits : o.Waiting) : o'.Waiting := by
  cases h with
  | settles _ _ settles => cases settles <;> exact ⟨waits.keyed, waits.armed⟩
  | holds _ holds =>
    obtain ⟨_, _, -, keep, -⟩ := holds
    exact keep waits
  | dials q o₁ _ live window free cooled holds dials =>
    obtain ⟨_, _, -, keep, -⟩ := holds
    have begun := keep waits
    cases dials with
    | connects holds taken =>
      obtain ⟨_, _, -, keep, -⟩ := holds
      exact keep ⟨begun.keyed, begun.armed⟩
    | throws cool cooldown holds thrown =>
      obtain ⟨_, _, -, keep, -⟩ := holds
      exact keep ⟨begun.keyed, begun.armed⟩

end Moves

/-- Nothing changes but that all dials end, or also all that waits for the next window. -/
structure Drops (o o' : Outbound) : Prop where
  timers : o'.timers = o.timers ∨ ∀ id, o'.timers id = none
  held : (o'.candidates = o.candidates ∧ o'.dialTimer = o.dialTimer) ∨
    (o'.candidates = ∅ ∧ o'.dialTimer = none)
  lastDial : o'.lastDial = o.lastDial
  connects : o'.connects = o.connects
  bound : o'.bound = o.bound
  ids : o'.ids = o.ids

namespace Drops

variable {o o' o'' : Outbound}

theorem of_same (same : o' = o) : Drops o o' := by
  subst same
  exact ⟨.inl rfl, .inl ⟨rfl, rfl⟩, rfl, rfl, rfl, rfl⟩

theorem trans (h : Drops o o') (h' : Drops o' o'') : Drops o o'' where
  timers := h'.timers.elim
    (fun same => h.timers.imp same.trans fun gone id => (congrFun same id).trans (gone id)) .inr
  held := h'.held.elim
    (fun same => h.held.imp (fun here => ⟨same.1.trans here.1, same.2.trans here.2⟩)
      fun here => ⟨same.1.trans here.1, same.2.trans here.2⟩) .inr
  lastDial := h'.lastDial.trans h.lastDial
  connects := h'.connects.trans h.connects
  bound := h'.bound.trans h.bound
  ids := h'.ids.trans h.ids

theorem waiting (h : Drops o o') (waits : o.Waiting) : o'.Waiting := by
  rcases h.held with ⟨candidates, dialTimer⟩ | ⟨empty, -⟩
  · exact ⟨by rw [candidates, h.ids]; exact waits.keyed, by rw [candidates, dialTimer]; exact waits.armed⟩
  · exact .of_empty empty

theorem of_timers (o : Outbound) : Drops o { o with timers := fun _ => none } :=
  ⟨.inr fun _ => rfl, .inl ⟨rfl, rfl⟩, rfl, rfl, rfl, rfl⟩

theorem of_cleared (o : Outbound) : Drops o o.cleared :=
  ⟨.inr fun _ => rfl, .inr ⟨rfl, rfl⟩, rfl, rfl, rfl, rfl⟩

/-- The records go. -/
theorem of_devices (c : Core) : Drops c.outbound { c with dial.devices := ∅ }.outbound :=
  ⟨.inr fun _ => rfl, .inl ⟨rfl, rfl⟩, rfl, rfl, rfl, rfl⟩

end Drops

variable {env : Env} {c c' : Core}

theorem SameDials.drops (h : SameDials c c') : Drops c.outbound c'.outbound := .of_same h

theorem clearDeviceTimers_drops (c : Core) : Drops c.outbound c.clearDeviceTimers.outbound := by
  rw [clearDeviceTimers_outbound]
  exact .of_cleared c.outbound

theorem disconnectDevices_sameDials (c : Core) : c.SameDials c.disconnectDevices := by
  refine .foldl (fun c d => ?_) c _
  split
  · exact issue_sameDials c rfl
  · exact .refl c

theorem reapAllSessions_sameDials (c : Core) : c.SameDials c.reapAllSessions := by
  obtain ⟨sessions, streams, reaped⟩ := reapAllSessions_eq c
  have alike := (reapAllSessions_alike c).2.narrow Stream.owner fun _ => rfl
  have bound := boundStreams_alike alike
  rw [reaped] at bound ⊢
  exact (streams_sameDials c bound).trans rfl

theorem forget_sameDials (c : Core) : c.SameDials c.forget := by
  have dropped : c.SameDials { c.destroyPeers with links.peers := ∅ } := rfl
  exact (dropped.trans (reapAllSessions_sameDials _)).trans rfl

/-- Without records no dial is in flight and none cools. -/
theorem onRadioDown_outbound (c : Core) :
    c.onRadioDown.outbound = { c.outbound.cleared with cools := fun _ => 0 } := by
  let down := { c with
    radio := { c.radio with
      radioWasDown := true, radioCycled := true, serviceAdded := false,
      advertising := false, scanning := false } }
  let gone := { down.clearDeviceTimers with dial.devices := ∅ }
  have links : SameDials gone gone.destroyPeers := rfl
  have reaped : SameDials gone gone.destroyPeers.reapAllSessions :=
    links.trans (reapAllSessions_sameDials _)
  have reset : SameDials gone c.onRadioDown := reaped.trans rfl
  have cleared : down.clearDeviceTimers.outbound = c.outbound.cleared := clearDeviceTimers_outbound down
  calc
    c.onRadioDown.outbound = gone.outbound := reset
    _ = { down.clearDeviceTimers.outbound with timers := fun _ => none, cools := fun _ => 0 } := rfl
    _ = { c.outbound.cleared with cools := fun _ => 0 } := by rw [cleared]; rfl

theorem onRadioDown_drops (c : Core) : Drops c.outbound c.onRadioDown.outbound := by
  rw [onRadioDown_outbound]
  exact ⟨.inr fun _ => rfl, .inr ⟨rfl, rfl⟩, rfl, rfl, rfl, rfl⟩

theorem teardown_drops (c : Core) : Drops c.outbound (c.teardown env).outbound := by
  let gone := c.disconnectDevices.dropDevices
  have unpublished : ∀ c : Core,
      c.SameDials (if env.cfg.platform = .mac then c.unpublish env else c) :=
    fun c => .ite (unpublish_radioOnly env c).sameDials (.refl c)
  have rest : SameDials gone (c.teardown env) :=
    (((silence_radioOnly env gone).sameDials.trans
      (forget_sameDials _)).andThen unpublished).andThen
      fun c => issue_sameDials { c with radio.state := .off } rfl
  exact ((disconnectDevices_sameDials c).drops.trans (.of_devices _)).trans rest.drops

theorem doClose_drops (c : Core) : Drops c.outbound (c.doClose env).outbound := by
  let gone : Core := { c.clearDeviceTimers with dial.devices := ∅ }
  have shut : SameDials gone (c.doClose env) := by
    have connects : (c.out ++ if env.life.opened then [Command.stopScan, Command.stopAdvertising]
        else []).filterMap Command.connects = c.out.filterMap Command.connects := by
      split <;> simp [Command.connects]
    rw [SameDials, doClose_eq]
    simp only [outbound, connects]
    rfl
  exact ((clearDeviceTimers_drops c).trans (.of_devices _)).trans shut.drops

theorem Calls.drops (h : Calls env c c') : Drops c.outbound c'.outbound := by
  induction h with
  | trans _ _ ih ih' => exact ih.trans ih'
  | skip c => exact .of_same rfl
  | doOpen c server central opened => exact (doOpen_radioOnly env c server central).sameDials.drops
  | beginSuspend c suspended =>
    have unarmed : c.SameDials { c with radio.scanTimer := none } := rfl
    exact (unarmed.drops.trans (clearDeviceTimers_drops _)).trans
      (SameDials.of_performs env (sayGoodbye_performs _)).drops
  | teardown c => exact teardown_drops c
  | doResume c live => exact (doResume_radioOnly env c).sameDials.drops
  | doClose c closing => exact doClose_drops c
  | setOnline c online => exact (setOnline_radioOnly env c online).sameDials.drops
  | setTopic c topic =>
    unfold Core.setTopic
    dsimp only
    split
    · exact .of_same rfl
    · exact .of_same rfl

end Core

namespace Transport

open BleSwarm.Core

/-- The peripheral whose dial the handlers of an event end, and how. -/
def fate (env : Env) (t : Transport) : Event → Option (Ref × Fate)
  | .discover p _ =>
    if t.core.dials env p && env.native.connectThrows then some (p, .aborted) else none
  | .dialTimer =>
    if env.native.connectThrows then (t.core.windowDial env).map fun p => (p, .aborted) else none
  | .dialTimeout id => (t.core.dialDue env id).map fun p => (p, .aborted)
  | .strayTimeout i => (t.core.strayDue env i).map fun p => (p, .aborted)
  | .peripheralError p =>
    if 0 < (t.listeners p).error && !t.core.ignores p then some (p, .aborted) else none
  | .servicesDiscover p found =>
    if 0 < (t.listeners p).servicesDiscover && !found then some (p, .aborted) else none
  | .characteristicsDiscover p found =>
    if 0 < (t.listeners p).characteristicsDiscover && !found then some (p, .aborted) else none
  | .notifyState p isNotifying =>
    if 0 < (t.listeners p).notifyState && !isNotifying then some (p, .aborted) else none
  | .notify p data =>
    if 0 < (t.listeners p).notify then (t.core.notifyFate env p data).map fun f => (p, f) else none
  | .resumeOpen a =>
    (t.core.openFate env a).map fun f => ((t.core.central.attempts.get a).peripheral, f)
  | _ => none

variable {t : Transport} {env : Env}

/-- The strength that a discovery reports does not decide about the dial. -/
theorem dials_discovered (env : Env) (c : Core) (p : Ref) (rssi : Option Int) :
    (c.setPeripheral p fun q => { q with rssi := rssi }).dials env p = c.dials env p := by
  have known :
      ((c.setPeripheral p fun q => { q with rssi := rssi }).peripheral p).id = (c.peripheral p).id := by
    simp [peripheral, setPeripheral]
  simp only [dials, undialable, known]
  rfl

theorem discover_moves (env : Env) (p : Ref) (rssi : Option Int) (c : Core) :
    Moves env c.outbound
      (if c.dials env p && env.native.connectThrows then some (p, .aborted) else none)
      ((c.setPeripheral p fun q => { q with rssi := rssi }).onDiscover env p).outbound := by
  let found := c.setPeripheral p fun q => { q with rssi := rssi }
  have stays : SameDials c found :=
    setPeripheral_sameDials p c fun _ => rfl
  have same : found.dials env p = c.dials env p := dials_discovered env c p rssi
  rw [← same, ← stays]
  cases dials : found.dials env p with
  | false => exact .holds _ (onDiscover_holds dials).1
  | true =>
    obtain ⟨live, window⟩ := dials_window dials
    obtain ⟨free, cooled⟩ := dials_free dials
    rw [Bool.true_and]
    exact .dials p _ _ live window free cooled (.refl _) (onDiscover_dials dials)

theorem dialTimer_moves (env : Env) (c : Core) :
    Moves env c.outbound
      (if env.native.connectThrows then (c.windowDial env).map fun p => (p, .aborted) else none)
      (coreHandler env c .dialTimer).outbound := by
  unfold windowDial coreHandler
  dsimp only
  cases c.dial.dialTimer with
  | none => simpa using Moves.settles _ _ .stays
  | some deadline =>
    dsimp only
    by_cases early : env.now < deadline
    · rw [if_pos early, if_pos early]
      simpa using Moves.settles _ _ .stays
    · rw [if_neg early, if_neg early]
      rcases onDialTimer_outbound env c with ⟨none, held⟩ | ⟨p, found, dials, o, held, dialed⟩
      · rw [none]
        simpa using Moves.holds _ held
      · rw [found]
        obtain ⟨live, window⟩ := dials_window dials
        obtain ⟨free, cooled⟩ := dials_free dials
        exact .dials p o _ live window free cooled held dialed

theorem dialTimeout_settles (env : Env) (id : PeripheralId) (c : Core) :
    Settles env c.outbound ((c.dialDue env id).map fun p => (p, .aborted))
      (c.onDialTimeout env id).outbound := by
  unfold dialDue onDialTimeout
  cases (c.dial.devices.get? id).bind Device.timer with
  | none => exact .stays
  | some due =>
    obtain ⟨p, deadline⟩ := due
    dsimp only
    split
    · exact abortDial_settles env p c
    · exact .stays

theorem strayTimeout_settles (env : Env) (i : Nat) (c : Core) :
    Settles env c.outbound ((c.strayDue env i).map fun p => (p, .aborted))
      (c.onStrayTimeout env i).outbound := by
  unfold strayDue onStrayTimeout
  cases c.dial.strays[i]? with
  | none => exact .stays
  | some due =>
    obtain ⟨p, deadline⟩ := due
    dsimp only
    split
    · exact abortDial_settles env p { c with dial.strays := c.dial.strays.eraseIdx i }
    · exact .stays

theorem notifyState_settles (env : Env) (p : Ref) (isNotifying : Bool) (n : Nat) (t : Transport) :
    Settles env t.core.outbound (if 0 < n && !isNotifying then some (p, .aborted) else none)
      ((fun t => onNotifyState env t p isNotifying)^[n] t).core.outbound := by
  cases isNotifying with
  | true =>
    rw [Bool.not_true, Bool.and_false]
    have performs := @notifyState_performs .unsettled env p true (fun _ => ⟨rfl, rfl⟩) (by simp) n t
    exact (SameDials.of_performs env performs).settles
  | false =>
    rw [Bool.not_false, Bool.and_true]
    have aborts : ∀ n (t : Transport), ((fun t => onNotifyState env t p false)^[n] t).core =
        (fun c => c.abortDial env p)^[n] t.core := by
      intro n
      induction n with
      | zero => exact fun t => rfl
      | succ n ih => exact fun t => ih (onNotifyState env t p false)
    rw [aborts]
    simpa using iterate_abortDial_settles env p n t.core

/-- The 'open' event of a link leaves dials alone. -/
theorem onConnOpen_sameDials (r : Ref) (key : Bytes) (c : Core) :
    SameDials c (c.onConnOpen env r key) := by
  have proved : SameDials c { c with links := c.links.prove r key } := rfl
  have noted := proved.andThen fun c => .of_performs env (notePeerKey_performs r c)
  have tracked : ∀ c : Core, SameDials c { c with links := c.links.track env.cfg.publicKey r } :=
    fun _ => rfl
  have told : ∀ c : Core, SameDials c (c.issue .emitUpdate) := fun c => issue_sameDials c rfl
  exact .ite (.ite noted (.ite (noted.andThen tracked) ((noted.andThen tracked).andThen told))) (.refl c)

/-- Every event but those that begin dials and those that end all dials at once. -/
theorem handle_settles (t : Transport) (env : Env) {e : Event} (up : powersDown e = false)
    (heeds : e ≠ .centralError true) (found : ∀ p rssi, e ≠ .discover p rssi)
    (window : e ≠ .dialTimer) :
    Settles env t.core.outbound (t.fate env e) (t.handle env e).core.outbound := by
  have serverUp : ∀ s, isDown s = false → RadioOnly t.core (t.core.onServerState env s) := by
    intro s up
    have told :=
      (radio_radioOnly t.core { t.core.radio with serverState := s }).trans (onState_radioOnly _ s)
    simp only [onServerState, up]
    exact .ite (told.trans (startServer_radioOnly env _)) told
  have centralUp : ∀ s, isDown s = false → RadioOnly t.core (t.core.onCentralState env s) := by
    intro s up
    have told :=
      (radio_radioOnly t.core { t.core.radio with centralState := s }).trans (onState_radioOnly _ s)
    simp only [onCentralState, up]
    have healed := told.trans (scheduleSelfHeal_radioOnly env _)
    exact .ite (.ite healed (told.trans (startScan_radioOnly env _))) told
  have ordinary : ∀ (ordinary : ¬ Special e) (unpublished : ∀ psm, e ≠ .channelPublish psm),
      (effectsOf env.cfg.pipe e).settles = false → SameDials t.core (t.handle env e).core :=
    fun ordinary unpublished still => (handle_performs t env ordinary unpublished).sameDials still
  cases e with
  | serverState s => exact (serverUp s up).sameDials.settles
  | centralState s => exact (centralUp s up).sameDials.settles
  | serviceAdd => exact (onServiceAdd_radioOnly t.core).sameDials.settles
  | channelPublish psm => exact .stays
  | connOpen r key => exact (onConnOpen_sameDials r key t.core).settles
  | discover p rssi => exact absurd rfl (found p rssi)
  | dialTimer => exact absurd rfl window
  | centralError ended =>
    cases ended with
    | true => exact absurd rfl heeds
    | false => exact .stays
  | dialTimeout id => exact dialTimeout_settles env id t.core
  | strayTimeout i => exact strayTimeout_settles env i t.core
  | peripheralError p => exact onPeripheralError_settles p _ t.core
  | servicesDiscover p there => exact onServicesDiscover_settles p there _ t.core
  | characteristicsDiscover p there => exact onCharacteristicsDiscover_settles p there _ t.core
  | notifyState p isNotifying => exact notifyState_settles env p isNotifying _ (t.setListeners p _)
  | notify p data => exact iterate_onCentralNotify_settles p data _ t.core
  | resumeOpen a => exact resumeOpen_settles a t.core
  | _ => exact (ordinary (by simp [Special]) (by simp) rfl).settles

/-- Every event but those that end all dials at once. -/
theorem handle_moves (t : Transport) (env : Env) {e : Event} (up : powersDown e = false)
    (heeds : e ≠ .centralError true) :
    Moves env t.core.outbound (t.fate env e) (t.handle env e).core.outbound := by
  cases e with
  | discover p rssi => exact discover_moves env p rssi t.core
  | dialTimer => exact dialTimer_moves env t.core
  | _ => exact .settles _ _ (handle_settles t env up heeds (by simp) (by simp))

/-- The state of an adapter that goes down is noted before all is reset. -/
theorem handle_down {t : Transport} {env : Env} {e : Event} (down : powersDown e = true) :
    ∃ noted, SameDials t.core noted ∧ (t.handle env e).core = noted.onRadioDown := by
  have other : ∀ s, isDown s = true → s ≠ .poweredOn := by
    rintro _ down rfl
    cases down
  cases e with
  | serverState s =>
    let noted := { t.core with radio.serverState := s }.onState s
    have run : (t.handle env (.serverState s)).core = noted.onRadioDown :=
      (if_neg (other s down)).trans (if_pos down)
    exact ⟨noted, (onState_radioOnly _ s).sameDials, run⟩
  | centralState s =>
    let noted := { t.core with radio.centralState := s }.onState s
    have run : (t.handle env (.centralState s)).core = noted.onRadioDown :=
      (if_neg (other s down)).trans (if_pos down)
    exact ⟨noted, (onState_radioOnly _ s).sameDials, run⟩
  | _ => cases down

/-- An adapter that goes down ends all dials at once. -/
theorem handle_drops (t : Transport) (env : Env) {e : Event} (down : powersDown e = true) :
    Drops t.core.outbound (t.handle env e).core.outbound := by
  obtain ⟨noted, stays, run⟩ := @handle_down t env e down
  rw [run]
  exact stays.drops.trans (onRadioDown_drops noted)

/-! Steps. -/

/-- The dials as a step finds them, which has issued nothing yet. -/
def outset (t : Transport) : Outbound := { t.core.outbound with connects := [] }

/-- The peripheral whose dial a step ends, and how. -/
def ends (t : Transport) : Action → Option (Ref × Fate)
  | .input i => if t.life.opened then t.fate (t.env i.now i.native) i.event else none
  | _ => none

theorem begin_fate (t : Transport) (native : Native) (env : Env) (e : Event) :
    (t.begin native).fate env e = t.fate env e := by
  cases e <;> rfl

theorem act_moves {t : Transport} {i : Input} (opened : t.life.opened = true)
    (up : powersDown i.event = false) (heeds : i.event ≠ .centralError true) :
    Moves (t.env i.now i.native) t.outset (t.ends (.input i)) (t.act (.input i)).core.outbound := by
  have ends : t.ends (.input i) = (t.begin i.native).fate (t.env i.now i.native) i.event := by
    rw [begin_fate]
    exact if_pos opened
  rw [act_input opened, ends]
  exact handle_moves (t.begin i.native) (t.env i.now i.native) up heeds

/-- A failed connect is reported. -/
theorem act_centralError {t : Transport} {i : Input} (opened : t.life.opened = true)
    (failed : i.event = .centralError true) :
    (t.act (.input i)).core.outbound = { t.outset with timers := fun _ => none } := by
  rw [act_input opened, failed]
  exact onCentralError_outbound (t.begin i.native).core

theorem fate_of_down {t : Transport} {env : Env} {e : Event} (down : powersDown e = true) :
    t.fate env e = none := by
  cases e with
  | serverState s => rfl
  | centralState s => rfl
  | _ => cases down

/-- Any step. -/
theorem act_outbound (t : Transport) (a : Action) :
    (∃ i, a = .input i ∧
      Moves (t.env i.now i.native) t.outset (t.ends a) (t.act a).core.outbound) ∨
    t.ends a = none ∧ Drops t.outset (t.act a).core.outbound := by
  rcases t.act_split a with ⟨i, rfl, opened, run⟩ | ⟨i, rfl, opened, run⟩ | ⟨call, env, -, -, -, calls⟩
  · refine .inr ⟨by simp [ends, opened], ?_⟩
    rw [run]
    exact .of_same rfl
  · have ends_ : t.ends (.input i) = t.fate (t.env i.now i.native) i.event := if_pos opened
    cases down : powersDown i.event with
    | true =>
      rw [ends_, fate_of_down down, run]
      exact .inr ⟨rfl, handle_drops (t.begin i.native) _ down⟩
    | false =>
      by_cases failed : i.event = .centralError true
      · rw [ends_, act_centralError opened failed, failed]
        exact .inr ⟨rfl, .of_timers t.outset⟩
      · exact .inl ⟨i, rfl, act_moves opened down failed⟩
  · refine .inr ⟨?_, calls.drops⟩
    cases a with
    | input i => exact absurd rfl (call i)
    | _ => rfl

/-- The calls of a transport that is left alone are no business of any dial. -/
theorem act_sameDials {t : Transport} {a : Action} (call : ∀ i, a ≠ .input i)
    (live : t.halted = false)
    (undisturbed : Undisturbed a) : (t.act a).core.outbound = t.outset := by
  cases a with
  | input i => exact absurd rfl (call i)
  | «open» server central now =>
    rcases act_open live server central now with same | ⟨env, -, opens⟩
    · rw [same]
      rfl
    · rw [opens]
      exact (doOpen_radioOnly env (t.begin {}).core server central).sameDials
  | suspend now native => exact undisturbed.elim
  | drained call now native => exact undisturbed.elim
  | resume now =>
    simp only [act, resume]
    split
    · rfl
    · exact (doResume_radioOnly _ (t.begin {}).core).sameDials
  | close now => exact undisturbed.elim
  | setOnline online now => exact (setOnline_radioOnly _ (t.begin {}).core online).sameDials
  | setTopic topic =>
    simp only [act, setTopic, Core.setTopic]
    split <;> rfl

/-- A failed connect is reported. -/
def failure : Action → Bool
  | .input i =>
    match i.event with
    | .centralError ended => ended
    | _ => false
  | _ => false

theorem failure_iff (a : Action) :
    failure a = true ↔ ∃ i, a = .input i ∧ i.event = .centralError true := by
  constructor
  · intro failed
    cases a with
    | input i =>
      obtain ⟨now, native, event⟩ := i
      refine ⟨_, rfl, ?_⟩
      cases event with
      | centralError ended => exact congrArg Event.centralError failed
      | _ => cases failed
    | _ => cases failed
  · rintro ⟨i, rfl, event⟩
    simp [failure, event]

/-- The report of a failed connect takes the timer off every dial. -/
theorem act_failure {t : Transport} {a : Action} (failed : failure a = true) :
    (t.act a).core.outbound = t.outset ∧ t.life.opened = false ∨
    (t.act a).core.outbound = { t.outset with timers := fun _ => none } ∧ t.life.opened = true := by
  obtain ⟨i, rfl, event⟩ := (failure_iff a).mp failed
  cases opened : t.life.opened with
  | false =>
    rw [act_input_unopened opened]
    exact .inl ⟨rfl, rfl⟩
  | true => exact .inr ⟨act_centralError opened event, rfl⟩

/-- The time of an event. -/
def clock : Action → Nat
  | .input i => i.now
  | _ => 0

/-- A step of a transport that is left alone, but the report of a failed connect. -/
theorem act_moves_of_undisturbed {t : Transport} {a : Action} (live : t.halted = false)
    (undisturbed : Undisturbed a) (heeds : failure a = false) : ∃ env : Env,
      env.now = clock a ∧ Moves env t.outset (t.ends a) (t.act a).core.outbound := by
  rcases t.act_split a with ⟨i, rfl, opened, run⟩ | ⟨i, rfl, opened, -⟩ | ⟨call, -⟩
  · have none : t.ends (.input i) = none := by simp [ends, opened]
    refine ⟨t.env i.now i.native, rfl, ?_⟩
    rw [none, run]
    exact .settles _ _ .stays
  · refine ⟨t.env i.now i.native, rfl, act_moves opened undisturbed fun failed => ?_⟩
    simp [failure, failed] at heeds
  · refine ⟨{ t.env 0 with now := clock a }, rfl, ?_⟩
    rw [act_sameDials call live undisturbed]
    cases a with
    | input i => exact absurd rfl (call i)
    | _ => exact .settles _ _ .stays

/-- The peripherals that a step dials. -/
def dialed (t : Transport) (a : Action) : List Ref := (t.act a).core.outbound.connects

/-- The peripherals to which the step binds a stream of the central side. -/
def binds (t : Transport) (a : Action) : List Ref :=
  ((t.act a).core.outbound.bound.drop t.core.outbound.bound.length).map Prod.fst

theorem mem_binds_iff (t : Transport) (a : Action) (p : Ref) :
    p ∈ t.binds a ↔ t.ends a = some (p, .bound) := by
  rcases t.act_outbound a with ⟨i, rfl, moves⟩ | ⟨none, drops⟩
  · rcases moves.bound with ⟨q, sess, ends, bound⟩ | ⟨other, bound⟩
    · rw [ends, binds, bound]
      simp [outset, eq_comm]
    · rw [binds, bound]
      simp [outset, other p]
  · rw [none, binds, drops.bound]
    simp [outset]

end Transport

end BleSwarm
