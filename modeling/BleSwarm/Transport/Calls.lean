import BleSwarm.Transport.Frame
import BleSwarm.Transport.Life

/-!
# What the owner's calls run

A step of a transport is an event or a call. A call runs one of the lifecycle
operations, or two of them when a close was waiting for the opening.
-/

namespace BleSwarm.Core

/-- A loop over references that changes only sessions and streams. -/
theorem foldl_streams {f : Core → Ref → Core}
    (step : ∀ c r, ∃ sessions streams,
      f c r = { c with server.sessions := sessions, streams := streams })
    (rs : List Ref) (c : Core) : ∃ sessions streams,
      rs.foldl f c = { c with server.sessions := sessions, streams := streams } := by
  induction rs generalizing c with
  | nil => exact ⟨c.server.sessions, c.streams, rfl⟩
  | cons r rs ih =>
    obtain ⟨_, _, first⟩ := step c r
    obtain ⟨sessions, streams, rest⟩ := ih (f c r)
    refine ⟨sessions, streams, ?_⟩
    rw [List.foldl_cons, rest, first]

/-- What the end of all sessions changes. -/
theorem reapAllSessions_eq (c : Core) : ∃ sessions streams, c.reapAllSessions =
    { c with server.sessions := sessions, server.table := ∅, streams := streams } := by
  suffices loop : ∃ d : Core, c.reapAllSessions = { d with server.table := ∅ } ∧
      ∃ sessions streams, d = { c with server.sessions := sessions, streams := streams } by
    obtain ⟨d, reaped, sessions, streams, rfl⟩ := loop
    exact ⟨sessions, streams, reaped⟩
  refine ⟨_, rfl, foldl_streams (fun c r => ?_) c.server.table.values c⟩
  simp only
  split
  · exact ⟨_, _, rfl⟩
  · exact ⟨_, _, rfl⟩

/-- The sessions lose their timers and their streams are destroyed, and that is all. -/
theorem reapAllSessions_alike (c : Core) :
    c.server.sessions.Alike (fun s => { s with pipeTimer := none })
        c.reapAllSessions.server.sessions ∧
      c.streams.Alike (fun s => { s with destroyed := true }) c.reapAllSessions.streams := by
  let untime : ServerSession → ServerSession := fun s => { s with pipeTimer := none }
  let destroy : Stream → Stream := fun s => { s with destroyed := true }
  let R := fun c c' : Core =>
    c.server.sessions.Alike untime c'.server.sessions ∧ c.streams.Alike destroy c'.streams
  have trans : ∀ {c c' c'' : Core}, R c c' → R c' c'' → R c c'' :=
    fun h h' => ⟨h.1.trans h'.1, h.2.trans h'.2⟩
  have untimed : ∀ (c : Core) r, R c (c.setSession r untime) :=
    fun c r => ⟨.modify c.server.sessions (f := untime) r fun _ => rfl, .refl _ _⟩
  have destroyed : ∀ (c : Core) st, R c (c.destroyStream st) :=
    fun c st => ⟨.refl _ _, .modify c.streams (f := destroy) st fun _ => rfl⟩
  have emptied : ∀ c : Core, R c { c with server.table := ∅ } := fun c => ⟨.refl _ _, .refl _ _⟩
  have reaped : R c c.reapAllSessions := by
    unfold reapAllSessions
    refine trans (Runs.foldl_related (R := R) (fun c => ⟨.refl _ _, .refl _ _⟩) trans
      (fun c r => ?_) c c.server.table.values) (emptied _)
    dsimp only
    split
    · exact trans (untimed c r) (destroyed _ _)
    · exact untimed c r
  exact reaped

/-- A power cycle. -/
theorem onRadioDown_eq (c : Core) : ∃ sessions streams, c.onRadioDown =
    { c with
      radio := { c.radio with
        radioWasDown := true, radioCycled := true, serviceAdded := false,
        advertising := false, scanning := false }
      dial := { c.clearDeviceTimers.dial with devices := ∅ }
      links := c.destroyPeers.links
      server.sessions := sessions
      server.table := ∅
      gatt := c.gatt.reset
      streams := streams } := by
  obtain ⟨sessions, streams, reaped⟩ := reapAllSessions_eq ({ { c with
    radio := { c.radio with
      radioWasDown := true, radioCycled := true, serviceAdded := false,
      advertising := false, scanning := false } }.clearDeviceTimers with dial.devices := ∅ }.destroyPeers)
  refine ⟨sessions, streams, ?_⟩
  simp only [onRadioDown, reaped]
  rfl

/-- What a teardown forgets. -/
theorem forget_eq (c : Core) : ∃ sessions streams, c.forget =
    { c with
      links := { c.destroyPeers.links with peers := ∅ }
      server.sessions := sessions
      server.table := ∅
      server.cyclePending := false
      gatt := c.gatt.reset
      streams := streams } := by
  obtain ⟨sessions, streams, reaped⟩ := reapAllSessions_eq { c.destroyPeers with links.peers := ∅ }
  refine ⟨sessions, streams, ?_⟩
  simp only [forget, reaped]
  rfl

/-- A close at once. -/
theorem doClose_eq (env : Env) (c : Core) : c.doClose env =
    { c with
      radio := { c.radio with scanTimer := none, state := .off }
      dial := { c.clearDeviceTimers.dial with devices := ∅ }
      links := { c.destroyPeers.links with peers := ∅ }
      server.sessions := c.server.table.values.foldl
        (fun sessions r => sessions.modify r fun s => { s with pipeTimer := none }) c.server.sessions
      server.table := ∅
      gatt := c.gatt.reset
      out := c.out ++ if env.life.opened then [.stopScan, .stopAdvertising] else [] } := by
  simp only [doClose]
  rw [foldl_setSession]
  split
  · simp only [issue, List.append_assoc]
    rfl
  · simp only [List.append_nil]
    rfl

/-- What a call runs, in an environment that has its flags already. -/
inductive Calls (env : Env) : Core → Core → Prop
  | trans {c c' c'' : Core} : Calls env c c' → Calls env c' c'' → Calls env c c''
  | skip (c : Core) : Calls env c c
  | doOpen (c : Core) (server central : AdapterState) (opened : env.life.opened = true) :
    Calls env c (c.doOpen env server central)
  | beginSuspend (c : Core) (suspended : env.life.suspended = true) :
    Calls env c (c.beginSuspend env)
  | teardown (c : Core) : Calls env c (c.teardown env)
  | doResume (c : Core) (live : env.halted = false) : Calls env c (c.doResume env)
  | doClose (c : Core) (closing : env.life.closing = true) : Calls env c (c.doClose env)
  | setOnline (c : Core) (online : Bool) : Calls env c (c.setOnline env online)
  | setTopic (c : Core) (topic : Option Bytes) : Calls env c (c.setTopic env topic).1

/-- A relation of what was before to what is after that quiet operations have. What is made of
these has it too, if the few that are not quiet have. -/
structure Spans (R : Core → Core → Prop) : Prop where
  quiet : ∀ {c c' : Core}, Quiet c c' → R c c'
  trans : ∀ {c c' c'' : Core}, R c c' → R c' c'' → R c c''

namespace Spans

variable {R : Core → Core → Prop} {env : Env} {c c' : Core}

theorem onServerState (h : Spans R) (down : ∀ c : Core, R c c.onRadioDown) (env : Env) (c : Core)
    (s : AdapterState) : R c (c.onServerState env s) := by
  have noted : Quiet c ({ c with radio.serverState := s }.onState s) :=
    ((radio_radioOnly c _).trans (onState_radioOnly _ s)).quiet
  simp only [Core.onServerState]
  split
  · exact h.quiet (noted.trans (startServer_radioOnly env _).quiet)
  · split
    · exact h.trans (h.quiet noted) (down _)
    · exact h.quiet noted

theorem onCentralState (h : Spans R) (down : ∀ c : Core, R c c.onRadioDown) (env : Env) (c : Core)
    (s : AdapterState) : R c (c.onCentralState env s) := by
  have noted : Quiet c ({ c with radio.centralState := s }.onState s) :=
    ((radio_radioOnly c _).trans (onState_radioOnly _ s)).quiet
  simp only [Core.onCentralState]
  split
  · split
    · exact h.quiet (noted.trans (scheduleSelfHeal_radioOnly env _).quiet)
    · exact h.quiet (noted.trans (startScan_radioOnly env _).quiet)
  · split
    · exact h.trans (h.quiet noted) (down _)
    · exact h.quiet noted

theorem teardown (h : Spans R) (forgets : ∀ c : Core, R c c.forget) (env : Env) (c : Core) :
    R c (c.teardown env) := by
  have parted : Quiet c (c.disconnectDevices.dropDevices.silence env) :=
    ((disconnectDevices_quiet c).trans (dial_quiet _ _)).trans (silence_radioOnly env _).quiet
  have unpublished : ∀ c : Core, Quiet c (if env.cfg.platform = .mac then c.unpublish env else c) :=
    fun c => .ite (unpublish_radioOnly env c).quiet (.refl c)
  have ended : ∀ c : Core, Quiet c ({ c with radio.state := .off }.issue .emitUpdate) :=
    fun c => (radio_radioOnly c _).quiet.trans (issue_quiet _ _)
  refine h.trans (h.quiet parted) (h.trans (forgets _) (h.quiet ?_))
  exact (unpublished _).trans (ended _)

theorem calls (h : Spans R) (forgets : ∀ c : Core, R c c.forget) (closes : ∀ c : Core, R c (c.doClose env))
    (calls : Calls env c c') : R c c' := by
  induction calls with
  | trans _ _ ih ih' => exact h.trans ih ih'
  | skip c => exact h.quiet (.refl c)
  | doOpen c server central opened => exact h.quiet (doOpen_radioOnly env c server central).quiet
  | beginSuspend c suspended => exact h.quiet (beginSuspend_quiet env c)
  | teardown c => exact h.teardown forgets env c
  | doResume c live => exact h.quiet (doResume_radioOnly env c).quiet
  | doClose c closing => exact closes c
  | setOnline c online => exact h.quiet (setOnline_radioOnly env c online).quiet
  | setTopic c topic =>
    apply h.quiet
    unfold Core.setTopic
    dsimp only
    split
    · exact .refl c
    · exact (radio_radioOnly c _).quiet

end Spans

theorem onRadioDown_central (c : Core) : c.onRadioDown.central = c.central := by
  obtain ⟨_, _, eq⟩ := onRadioDown_eq c
  rw [eq]

/-- No call changes the peripherals, their sessions and the attempts. -/
theorem Calls.central {env : Env} {c c' : Core} (h : Calls env c c') : c'.central = c.central := by
  have spans : Spans fun c c' : Core => c'.central = c.central :=
    ⟨fun quiet => quiet.central, fun h h' => h'.trans h⟩
  refine spans.calls (fun c => ?_) (fun c => ?_) h
  · obtain ⟨_, _, eq⟩ := forget_eq c
    rw [eq]
  · rw [doClose_eq]

end BleSwarm.Core

namespace BleSwarm.Transport

open BleSwarm.Core

/-- `_halted`. -/
def halted (t : Transport) : Bool := t.life.suspended || t.life.closing || t.life.closed

theorem env_halted (t : Transport) (now : Nat) (native : Native) :
    (t.env now native).halted = t.halted := rfl

theorem closing_of_live {t : Transport} (live : t.halted = false) : t.life.closing = false := by
  simp only [halted, Bool.or_eq_false_iff] at live
  exact live.1.2

/-- An event on an open transport runs its handler, in the environment of the transport. -/
theorem act_input {t : Transport} {i : Input} (opened : t.life.opened = true) :
    t.act (.input i) = (t.begin i.native).handle (t.env i.now i.native) i.event := by
  simp only [act, input, begin_life, opened, if_true]
  rfl

theorem act_input_unopened {t : Transport} {i : Input} (unopened : t.life.opened = false) :
    t.act (.input i) = t.begin i.native := by
  simp [act, input, unopened]

/-- A drain ends. -/
theorem drained_core {t : Transport} {call now : Nat} {native : Native}
    (pending : call ∈ t.life.drains) : (t.drained call now native).core =
      (t.begin native).core.teardown (t.env now native) := by
  simp only [drained]
  exact congrArg Transport.core (if_pos pending)

/-- A first close on an open transport. -/
theorem act_close {t : Transport} {now : Nat} (running : t.life.closing = false)
    (opened : t.life.opened = true) : (t.act (.close now)).core =
      (t.begin {}).core.doClose { cfg := t.cfg, life := { t.life with closing := true }, now } := by
  simp only [act, close]
  split
  · rename_i closing
    exact absurd (running.symm.trans closing) (by simp)
  · split
    · rfl
    · rename_i unopened
      exact absurd opened unopened

/-- A live transport opens, or was open. -/
theorem act_open {t : Transport} (live : t.halted = false) (server central : AdapterState) (now : Nat) :
    t.act (.open server central now) = t.begin {} ∨ ∃ env : Env, env.halted = false ∧
      (t.act (.open server central now)).core = (t.begin {}).core.doOpen env server central := by
  simp only [act, runOpen]
  split
  · exact .inl rfl
  · split
    · rename_i shut
      exact absurd ((closing_of_live live).symm.trans shut) (by simp)
    · exact .inr ⟨env { t.begin {} with life.opened := true } now, live, rfl⟩

theorem act_opened {t : Transport} (a : Action) (opened : t.life.opened = true) :
    (t.act a).life.opened = true := by
  cases a with
  | input i => simpa [act] using opened
  | «open» server central now => simp [act, runOpen, opened]
  | suspend now native => simpa [act] using opened
  | drained call now native => simpa [act] using opened
  | resume now => simpa [act] using opened
  | close now =>
    simp only [act, close]
    split
    · exact opened
    · split
      · exact opened
      · exact opened
  | setOnline online now => simpa [act] using opened
  | setTopic topic => simpa [act] using opened

theorem unopened_of_act {t : Transport} {a : Action} (unopened : (t.act a).life.opened = false) :
    t.life.opened = false := by
  by_contra opened
  rw [act_opened a (Bool.eq_true_of_not_eq_false opened)] at unopened
  cases unopened

/-- Every other step is a call, whose environment has the flags that the call leaves. -/
theorem act_calls (t : Transport) {a : Action} (call : ∀ i, a ≠ .input i) :
    ∃ env : Env, env.cfg = t.cfg ∧ env.halted = (t.act a).halted ∧
      env.life.opened = (t.act a).life.opened ∧
      Calls env (t.begin env.native).core (t.act a).core := by
  cases a with
  | input i => exact absurd rfl (call i)
  | «open» server central now =>
    simp only [act, runOpen]
    split
    · exact ⟨t.env now, rfl, rfl, rfl, .skip _⟩
    · let up : Life := { t.life with opened := true }
      have opens : Calls ⟨t.cfg, up, now, {}⟩ (t.begin {}).core
          ((t.begin {}).core.doOpen ⟨t.cfg, up, now, {}⟩ server central) := .doOpen _ _ _ rfl
      split
      · rename_i closing
        have closing : t.life.closing = true := closing
        refine ⟨⟨t.cfg, up, now, {}⟩, rfl, ?_, rfl, opens.trans (.doClose _ closing)⟩
        simp [Env.halted, halted, runClose, withCore, begin, up, closing]
      · exact ⟨⟨t.cfg, up, now, {}⟩, rfl, rfl, rfl, opens⟩
  | suspend now native =>
    exact ⟨⟨t.cfg, { t.life with suspended := true }, now, native⟩, rfl, rfl, rfl,
      .beginSuspend _ rfl⟩
  | drained id now native =>
    refine ⟨t.env now native, rfl, ?_, ?_, ?_⟩
    · simp [act, env_halted, halted]
    · simp [act, env]
    · simp only [act, drained]
      split
      · exact .teardown _
      · exact .skip _
  | resume now =>
    refine ⟨⟨t.cfg, { t.life with suspended := false }, now, {}⟩, rfl, ?_, ?_, ?_⟩
    · simp [act, Env.halted, halted]
    · simp [act]
    · simp only [act, resume]
      split
      · exact .skip _
      · rename_i open_
        exact .doResume _ (by simpa [Env.halted] using open_)
  | close now =>
    simp only [act, close]
    split
    · exact ⟨t.env now, rfl, rfl, rfl, .skip _⟩
    · let shut : Life := { t.life with closing := true }
      split
      · refine ⟨⟨t.cfg, shut, now, {}⟩, rfl, ?_, rfl, .doClose _ rfl⟩
        simp [Env.halted, halted, runClose, withCore, begin, shut]
      · exact ⟨⟨t.cfg, shut, now, {}⟩, rfl, rfl, rfl, .skip _⟩
  | setOnline online now => exact ⟨t.env now, rfl, rfl, rfl, .setOnline _ online⟩
  | setTopic topic => exact ⟨t.env 0, rfl, rfl, rfl, .setTopic _ topic⟩

theorem begin_quiet (t : Transport) (native : Native) : Quiet t.core (t.begin native).core :=
  .of_rest rfl

/-- A step is an event that nobody hears, one that is handled, or a call. -/
theorem act_split (t : Transport) (a : Action) :
    (∃ i, a = .input i ∧ t.life.opened = false ∧ t.act a = t.begin i.native) ∨
    (∃ i, a = .input i ∧ t.life.opened = true ∧
      t.act a = (t.begin i.native).handle (t.env i.now i.native) i.event) ∨
    (∀ i, a ≠ .input i) ∧ ∃ env : Env, env.cfg = t.cfg ∧ env.halted = (t.act a).halted ∧
      env.life.opened = (t.act a).life.opened ∧ Calls env (t.begin env.native).core (t.act a).core := by
  by_cases call : ∀ i, a ≠ .input i
  · exact .inr (.inr ⟨call, t.act_calls call⟩)
  · push Not at call
    obtain ⟨i, rfl⟩ := call
    cases opened : t.life.opened with
    | false => exact .inl ⟨i, rfl, rfl, act_input_unopened opened⟩
    | true => exact .inr (.inl ⟨i, rfl, rfl, act_input opened⟩)

/-! Runs in which the transport is left alone. -/

/-- An adapter goes down. -/
def powersDown : Event → Bool
  | .serverState s | .centralState s => isDown s
  | _ => false

/-- The transport is not suspended nor closed, and its adapters do not go down. -/
def Undisturbed : Action → Prop
  | .input i => powersDown i.event = false
  | .suspend _ _ | .drained _ _ _ | .close _ => False
  | _ => True

instance (a : Action) : Decidable (Undisturbed a) := by
  unfold Undisturbed
  cases a <;> infer_instance

/-- Nothing else halts a transport. -/
theorem act_live {t : Transport} {a : Action} (live : t.halted = false) (undisturbed : Undisturbed a) :
    (t.act a).halted = false := by
  obtain ⟨⟨suspended, closing⟩, closed⟩ : (t.life.suspended = false ∧ t.life.closing = false) ∧
      t.life.closed = false := by simpa [halted] using live
  cases a with
  | input i => simpa [act, halted] using live
  | «open» server central now =>
    simp only [act, runOpen]
    split
    · exact live
    · split
      · rename_i shut
        exact absurd (closing.symm.trans shut) (by simp)
      · exact live
  | suspend now native => exact undisturbed.elim
  | drained call now native => exact undisturbed.elim
  | resume now => simp [act, halted, closing, closed]
  | close now => exact undisturbed.elim
  | setOnline online now => simpa [act, halted] using live
  | setTopic topic => simpa [act, halted] using live

end BleSwarm.Transport
