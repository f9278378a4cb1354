import BleSwarm.Transport.Live

/-!
# What the radio was last told

A scan and an advertisement go on under the uuid they were started with, whatever the topic
becomes. What starts one starts it under the uuid of the moment, and a teardown stops both.
-/

namespace BleSwarm

/-- The uuid that a scan is started with. -/
def Command.scanned : Command → Option Hex
  | .startScan uuid => some uuid
  | _ => none

/-- The uuid that an advertisement is started with. -/
def Command.advertised : Command → Option Hex
  | .startAdvertising uuid => some uuid
  | _ => none

/-- The uuids that the radio was last told to scan for and to advertise. -/
structure Aired where
  scanned : Option Hex := none
  advertised : Option Hex := none
  deriving DecidableEq

namespace Aired

def hear (a : Aired) (commands : List Command) : Aired where
  scanned := (commands.filterMap Command.scanned).getLast?.or a.scanned
  advertised := (commands.filterMap Command.advertised).getLast?.or a.advertised

/-- To hear the same once more changes nothing. -/
theorem hear_hear (a : Aired) (commands : List Command) :
    (a.hear commands).hear commands = a.hear commands := by
  simp only [hear, ← Option.or_assoc, Option.or_self]

theorem hear_append (a : Aired) (commands more : List Command) :
    a.hear (commands ++ more) = (a.hear commands).hear more := by
  simp only [hear, List.filterMap_append, List.getLast?_append, Option.or_assoc]

/-- A command about something else. -/
theorem hear_aside (a : Aired) {command : Command} (aside : command.tunes = false) :
    a.hear [command] = a := by
  cases command <;> first | rfl | cases aside

end Aired

namespace Core

variable {env : Env} {c c' c'' : Core}

/-- A scan that goes on was told to go on, or is told the uuid, and so is an advertisement. On
a halted transport no scan starts. -/
structure TellsUuid (env : Env) (c c' : Core) : Prop where
  uuid : c'.radio.discoveryUUID = c.radio.discoveryUUID
  scans : c'.radio.scanning = true → ∀ a : Aired,
    (a.hear c'.out).scanned = some c.radio.discoveryUUID ∨
      c.radio.scanning = true ∧ (a.hear c'.out).scanned = (a.hear c.out).scanned
  advertises : c'.radio.advertising = true → ∀ a : Aired,
    (a.hear c'.out).advertised = some c.radio.discoveryUUID ∨
      c.radio.advertising = true ∧ (a.hear c'.out).advertised = (a.hear c.out).advertised
  still : env.halted = true → c'.radio.scanning = true → c.radio.scanning = true

namespace TellsUuid

/-- Nothing is told and nothing goes on that was not on. -/
theorem of_same (uuid : c'.radio.discoveryUUID = c.radio.discoveryUUID)
    (scanning : c'.radio.scanning = true → c.radio.scanning = true)
    (advertising : c'.radio.advertising = true → c.radio.advertising = true)
    (out : ∀ a : Aired, a.hear c'.out = a.hear c.out) : TellsUuid env c c' :=
  ⟨uuid, fun scans a => .inr ⟨scanning scans, by rw [out]⟩,
    fun airs a => .inr ⟨advertising airs, by rw [out]⟩, fun _ => scanning⟩

theorem refl (c : Core) : TellsUuid env c c := .of_same rfl id id fun _ => rfl

theorem trans (h : TellsUuid env c c') (h' : TellsUuid env c' c'') : TellsUuid env c c'' where
  uuid := h'.uuid.trans h.uuid
  scans scans a := by
    rw [← h.uuid]
    rcases h'.scans scans a with told | ⟨before, same⟩
    · exact .inl told
    · rw [same, h.uuid]
      exact h.scans before a
  advertises airs a := by
    rw [← h.uuid]
    rcases h'.advertises airs a with told | ⟨before, same⟩
    · exact .inl told
    · rw [same, h.uuid]
      exact h.advertises before a
  still halted := h.still halted ∘ h'.still halted

end TellsUuid

theorem issue_tellsUuid (c : Core) {command : Command} (aside : command.tunes = false) :
    TellsUuid env c (c.issue command) :=
  .of_same rfl id id fun a => by rw [issue, Aired.hear_append, Aired.hear_aside _ aside]

theorem startScan_tellsUuid (c : Core) : TellsUuid env c (c.startScan env) := by
  unfold startScan
  split
  · exact .refl c
  · rename_i live
    split
    · exact .refl c
    · refine ⟨rfl, fun _ a => .inl ?_, fun airs a => .inr ⟨airs, ?_⟩,
        fun halted => absurd halted live⟩
      · simp [armScanRestart, issue, Aired.hear, Command.scanned]
      · simp [armScanRestart, issue, Aired.hear, Command.advertised]

theorem stopScan_tellsUuid (c : Core) : TellsUuid env c c.stopScan := by
  unfold stopScan
  split
  · have silent : TellsUuid env c { c with radio.scanning := false } :=
      .of_same rfl (fun scans => by cases scans) id fun _ => rfl
    exact silent.trans (issue_tellsUuid _ rfl)
  · exact .refl c

theorem armScanRestart_tellsUuid (c : Core) : TellsUuid env c (c.armScanRestart env) :=
  .of_same rfl id id fun _ => rfl

theorem onScanTimer_tellsUuid (c : Core) : TellsUuid env c (c.onScanTimer env) := by
  have fired : TellsUuid env c { c with radio.scanTimer := none } := .of_same rfl id id fun _ => rfl
  simp only [onScanTimer]
  refine fired.trans ?_
  split
  · exact .refl _
  · split
    · exact armScanRestart_tellsUuid _
    · split
      · split
        · exact (stopScan_tellsUuid _).trans (armScanRestart_tellsUuid _)
        · exact startScan_tellsUuid _
      · exact (stopScan_tellsUuid _).trans (startScan_tellsUuid _)

/-- An advertisement starts without a look at the lifecycle. -/
theorem maybeAdvertise_tellsUuid (c : Core) : TellsUuid env c c.maybeAdvertise := by
  unfold maybeAdvertise
  split
  · exact .refl c
  · refine ⟨rfl, fun scans a => .inr ⟨scans, ?_⟩, fun _ a => .inl ?_, fun _ => id⟩
    · simp [issue, Aired.hear, Command.scanned]
    · simp [issue, Aired.hear, Command.advertised]

theorem RadioSteps.tellsUuid (h : RadioSteps env c c') : TellsUuid env c c' := by
  induction h with
  | trans _ _ ih ih' => exact ih.trans ih'
  | rest same =>
    obtain ⟨radio, out⟩ := Prod.mk.inj same
    exact .of_same (by rw [radio]) (by rw [radio]; exact id) (by rw [radio]; exact id)
      (by rw [out]; exact fun _ => rfl)
  | issue c aside => exact issue_tellsUuid c aside
  | startScan c => exact startScan_tellsUuid c
  | stopScan c => exact stopScan_tellsUuid c
  | onScanTimer c => exact onScanTimer_tellsUuid c
  | maybeAdvertise c => exact maybeAdvertise_tellsUuid c
  | _ => exact .of_same rfl id id fun _ => rfl

/-! Adapter states. -/

/-- A power cycle takes the scan and the advertisement away. -/
theorem onRadioDown_tellsUuid (c : Core) : TellsUuid env c c.onRadioDown := by
  let down : Core := { c with
    radio := { c.radio with
      radioWasDown := true, radioCycled := true, serviceAdded := false,
      advertising := false, scanning := false } }
  have silent : TellsUuid env c down :=
    .of_same rfl (fun scans => by cases scans) (fun airs => by cases airs) fun _ => rfl
  have parted :
      RadioSteps env down { down.clearDeviceTimers with dial.devices := ∅ }.destroyPeers :=
    .rest rfl
  have reaped : RadioSteps env down c.onRadioDown :=
    (parted.trans (reapAllSessions_radioSteps _)).before rfl
  exact silent.trans reaped.tellsUuid

theorem scheduleSelfHeal_tellsUuid (c : Core) : TellsUuid env c (c.scheduleSelfHeal env) := by
  unfold scheduleSelfHeal
  split
  · exact .refl c
  · split
    · exact .refl c
    · refine .of_same rfl id id fun a => ?_
      rw [issue, Aired.hear_append]
      rfl

theorem onServerState_tellsUuid (c : Core) (s : AdapterState) :
    TellsUuid env c (c.onServerState env s) := by
  have noted : RadioSteps env c ({ c with radio.serverState := s }.onState s) :=
    .trans (.serverState c s) (onState_radioSteps _ s)
  simp only [onServerState]
  split
  · exact (noted.andThen startServer_radioSteps).tellsUuid
  · split
    · exact noted.tellsUuid.trans (onRadioDown_tellsUuid _)
    · exact noted.tellsUuid

theorem onCentralState_tellsUuid (c : Core) (s : AdapterState) :
    TellsUuid env c (c.onCentralState env s) := by
  have stated : TellsUuid env c { c with radio.centralState := s } :=
    .of_same rfl id id fun _ => rfl
  have noted := stated.trans (onState_radioSteps _ s).tellsUuid
  simp only [onCentralState]
  split
  · split
    · exact noted.trans (scheduleSelfHeal_tellsUuid _)
    · exact noted.trans (startScan_tellsUuid _)
  · split
    · exact noted.trans (onRadioDown_tellsUuid _)
    · exact noted

/-! The calls. -/

/-- An opening from the states that the managers come up in. -/
theorem doOpen_radioSteps (c : Core) (server central : AdapterState) :
    RadioSteps env { c with radio.serverState := server, radio.centralState := central }
      (c.doOpen env server central) :=
  ((startServer_radioSteps _).andThen .startScan).trans (.state _ .starting)

theorem doOpen_tellsUuid (c : Core) (server central : AdapterState) :
    TellsUuid env c (c.doOpen env server central) := by
  let made : Core := { c with radio.serverState := server, radio.centralState := central }
  have opens : TellsUuid env c made := .of_same rfl id id fun _ => rfl
  exact opens.trans (doOpen_radioSteps c server central).tellsUuid

theorem beginSuspend_tellsUuid (c : Core) : TellsUuid env c (c.beginSuspend env) := by
  have untimed : TellsUuid env c { c with radio.scanTimer := none } :=
    .of_same rfl id id fun _ => rfl
  have said : RadioSteps env { c with radio.scanTimer := none } (c.beginSuspend env) :=
    .after (sayGoodbye_radioSteps _) rfl
  exact untimed.trans said.tellsUuid

/-- What comes after a teardown has stopped the scan and the advertisement. -/
theorem teardown_tellsUuid (env : Env) (c : Core) :
    ∃ silent : Core, silent.radio.discoveryUUID = c.radio.discoveryUUID ∧
      silent.radio.scanning = false ∧ silent.radio.advertising = false ∧
      TellsUuid env silent (c.teardown env) := by
  have parted : RadioSteps env c c.disconnectDevices.dropDevices :=
    .before (disconnectDevices_radioSteps c) rfl
  let silent : Core := c.disconnectDevices.dropDevices.silence env
  have unpublished :
      ∀ c : Core, RadioSteps env c (if env.cfg.platform = .mac then c.unpublish env else c) :=
    fun c => .ite (unpublish_radioSteps c) (.refl c)
  have stopped := stopScan_scanning c.disconnectDevices.dropDevices
  have stops : TellsUuid env c c.disconnectDevices.dropDevices.stopScan :=
    parted.tellsUuid.trans (stopScan_tellsUuid _)
  refine ⟨silent, ?_, ?_, ?_, ?_⟩
  · refine Eq.trans ?_ stops.uuid
    simp only [silent, silence]
    split <;> rfl
  · refine Eq.trans ?_ stopped
    simp only [silent, silence]
    split <;> rfl
  · rfl
  · have forgets : RadioSteps env silent silent.forget := forget_radioSteps silent
    have ended : ∀ c : Core,
        RadioSteps env c ({ c with radio.state := .off }.issue .emitUpdate) :=
      fun c => (RadioSteps.state c .off).trans (.issue _ rfl)
    exact ((forgets.andThen unpublished).andThen ended).tellsUuid

/-- A resume advertises afresh. -/
theorem doResume_radioSteps (env : Env) (c : Core) :
    RadioSteps env { c with radio.advertising := false } (c.doResume env) := by
  let fresh : Core := { c with radio.advertising := false, radio.huntUntil := env.now + huntWindow }
  have hunts : RadioSteps env { c with radio.advertising := false } fresh := .hunt _ _
  have cycles : RadioSteps env fresh (if env.cfg.pipe = .l2cap then fresh.cycle env else fresh) :=
    .ite (cycle_radioSteps _) (.refl _)
  have told : ∀ (c : Core) state,
      RadioSteps env c ({ c with radio.state := state }.issue .emitUpdate) :=
    fun c state => (RadioSteps.state c state).trans (.issue _ rfl)
  have resumes : RadioSteps env fresh (c.doResume env) := by
    refine .ite (.refl fresh) ?_
    exact ((cycles.andThen .maybeAdvertise).andThen .startScan).trans (told _ _)
  exact hunts.trans resumes

end Core

namespace Transport

open BleSwarm.Core

theorem handle_tellsUuid (t : Transport) (env : Env) (e : Event) :
    TellsUuid env t.core (t.handle env e).core := by
  cases e with
  | serverState s => exact onServerState_tellsUuid t.core s
  | centralState s => exact onCentralState_tellsUuid t.core s
  | serviceAdd => exact (onServiceAdd_radioSteps t.core).tellsUuid
  | connOpen r key => exact (onConnOpen_radioSteps r key t.core).tellsUuid
  | _ => exact (handle_proceeds t env (by simp [Special])).radioSteps.tellsUuid

theorem setTopic_uuid (t : Transport) (topic : Option Bytes) :
    (t.setTopic topic).1.core.radio.discoveryUUID = t.cfg.toServiceUUID topic := by
  simp only [Transport.setTopic, Core.setTopic]
  split
  · rename_i same
    exact same.symm
  · rfl

theorem setTopic_out (t : Transport) (topic : Option Bytes) :
    (t.setTopic topic).1.core.out = [] := by
  simp only [Transport.setTopic, Core.setTopic]
  split <;> rfl

/-- The uuid has not changed. -/
theorem setTopic_unchanged {t : Transport} {topic : Option Bytes}
    (unchanged : (t.setTopic topic).2 = false) :
    t.cfg.toServiceUUID topic = t.core.radio.discoveryUUID := by
  simp only [Transport.setTopic, Core.setTopic] at unchanged
  split at unchanged
  · assumption
  · cases unchanged

/-- The uuid is the given one, and what goes on was told it last, unless a drain is still to
end, behind which all is stopped. Suspended, an advertisement is left to the resume. -/
structure Tuned (t : Transport) (uuid : Hex) (a : Aired) : Prop where
  open_ : t.life.closing = false ∧ t.life.closed = false
  topic : t.core.radio.discoveryUUID = uuid
  scans : t.core.radio.scanning = true → a.scanned = some uuid ∨ t.life.drains ≠ []
  advertises : t.core.radio.advertising = true →
    a.advertised = some uuid ∨ t.life.drains ≠ [] ∨ t.life.suspended = true
  still : t.life.suspended = true → t.core.radio.scanning = true → t.life.drains ≠ []

namespace Tuned

variable {t t' : Transport} {uuid : Hex} {a : Aired}

theorem halted_of_suspended (now : Nat) (native : Native) (suspended : t.life.suspended = true) :
    (t.env now native).halted = true := by
  simp [Env.halted, env, suspended]

/-- A step that leaves the lifecycle as it was. -/
theorem tellsUuid (h : t.Tuned uuid a) {env : Env} {native : Native}
    (moves : TellsUuid env (t.begin native).core t'.core)
    (halted : t.life.suspended = true → env.halted = true)
    (closing : t'.life.closing = t.life.closing) (closed : t'.life.closed = t.life.closed)
    (suspended : t'.life.suspended = t.life.suspended) (drains : t'.life.drains = t.life.drains) :
    t'.Tuned uuid (a.hear t'.core.out) := by
  have begun : (t.begin native).core.radio = t.core.radio := rfl
  refine ⟨⟨closing.trans h.open_.1, closed.trans h.open_.2⟩, ?_, fun scans => ?_, fun airs => ?_,
    fun down scans => ?_⟩
  · rw [moves.uuid, begun, h.topic]
  · rw [drains]
    rcases moves.scans scans a with told | ⟨before, same⟩
    · rw [told, begun, h.topic]
      exact .inl rfl
    · rw [same]
      exact h.scans before
  · rw [drains, suspended]
    rcases moves.advertises airs a with told | ⟨before, same⟩
    · rw [told, begun, h.topic]
      exact .inl rfl
    · rw [same]
      exact h.advertises before
  · rw [suspended] at down
    rw [drains]
    exact h.still down (moves.still (halted down) scans)

/-- A step that does nothing but to begin. -/
theorem begun (h : t.Tuned uuid a) (native : Native) (core : t'.core = (t.begin native).core)
    (closing : t'.life.closing = t.life.closing) (closed : t'.life.closed = t.life.closed)
    (suspended : t'.life.suspended = t.life.suspended) (drains : t'.life.drains = t.life.drains) :
    t'.Tuned uuid (a.hear t'.core.out) := by
  have idle : TellsUuid (t.env 0) (t.begin native).core t'.core := core ▸ .refl _
  exact h.tellsUuid idle (halted_of_suspended 0 {}) closing closed suspended drains

theorem input (h : t.Tuned uuid a) (i : Input) :
    (t.input i).Tuned uuid (a.hear (t.input i).core.out) := by
  have moves : TellsUuid (t.env i.now i.native) (t.begin i.native).core (t.input i).core := by
    simp only [Transport.input]
    split
    · exact handle_tellsUuid (t.begin i.native) _ i.event
    · exact .refl _
  apply h.tellsUuid moves (halted_of_suspended i.now i.native)
  all_goals rw [input_life]

theorem runOpen (h : t.Tuned uuid a) (server central : AdapterState) (now : Nat) :
    (t.runOpen server central now).Tuned uuid (a.hear (t.runOpen server central now).core.out) := by
  have running : t.life.closing = false := h.open_.1
  simp only [Transport.runOpen]
  split
  · exact h.begun {} rfl rfl rfl rfl rfl
  · rw [if_neg (by simp [running])]
    refine h.tellsUuid (doOpen_tellsUuid _ server central) (fun down => ?_) rfl rfl rfl rfl
    simp [Env.halted, env, down]

theorem setOnline (h : t.Tuned uuid a) (online : Bool) (now : Nat) :
    (t.setOnline online now).Tuned uuid (a.hear (t.setOnline online now).core.out) := by
  have moves : TellsUuid (t.env now) (t.begin {}).core (t.setOnline online now).core :=
    (setOnline_radioSteps _ online).tellsUuid
  exact h.tellsUuid moves (halted_of_suspended now {}) rfl rfl rfl rfl

/-- Once suspended a transport is to be torn down, whatever goes on. -/
theorem suspend (open_ : t.life.closing = false ∧ t.life.closed = false) (now : Nat)
    (native : Native) (a : Aired) :
    (t.suspend now native).Tuned t.core.radio.discoveryUUID a := by
  have moves : TellsUuid ⟨t.cfg, { t.life with suspended := true }, now, native⟩
    (t.begin native).core
      (t.suspend now native).core := beginSuspend_tellsUuid _
  have draining : (t.suspend now native).life.drains ≠ [] := by simp
  exact ⟨open_, moves.uuid, fun _ => .inr draining, fun _ => .inr (.inl draining),
    fun _ _ => draining⟩

theorem drained (h : t.Tuned uuid a) (call now : Nat) (native : Native) :
    (t.drained call now native).Tuned uuid (a.hear (t.drained call now native).core.out) := by
  simp only [Transport.drained]
  split
  · obtain ⟨silent, same, quiet, mute, rest⟩ :=
      teardown_tellsUuid (t.env now native) (t.begin native).core
    have uuid : silent.radio.discoveryUUID = uuid := same.trans h.topic
    refine ⟨h.open_, rest.uuid.trans uuid, fun scans => .inl ?_, fun airs => .inl ?_,
      fun down scans => ?_⟩
    · rcases rest.scans scans a with told | ⟨before, -⟩
      · exact uuid ▸ told
      · exact absurd (quiet.symm.trans before) Bool.false_ne_true
    · rcases rest.advertises airs a with told | ⟨before, -⟩
      · exact uuid ▸ told
      · exact absurd (mute.symm.trans before) Bool.false_ne_true
    · have halted : (t.env now native).halted = true := halted_of_suspended now native down
      exact absurd (quiet.symm.trans (rest.still halted scans)) Bool.false_ne_true
  · exact h.begun native rfl rfl rfl rfl rfl

theorem resume (h : t.Tuned uuid a) (now : Nat) :
    (t.resume now).Tuned uuid (a.hear (t.resume now).core.out) := by
  let up : Transport := { t.begin {} with life.suspended := false }
  have run : t.resume now = up.withCore fun c => c.doResume (up.env now) := by
    simp only [Transport.resume]
    rw [if_neg (by simp [h.open_])]
  have moves := (doResume_radioSteps (up.env now) up.core).tellsUuid
  rw [run]
  refine ⟨h.open_, moves.uuid.trans h.topic, fun scans => ?_, fun airs => ?_, fun down => ?_⟩
  · rcases moves.scans scans a with told | ⟨before, same⟩
    · exact .inl (told.trans (congrArg some h.topic))
    · exact (h.scans before).imp_left same.trans
  · rcases moves.advertises airs a with told | ⟨before, -⟩
    · exact .inl (told.trans (congrArg some h.topic))
    · exact absurd before Bool.false_ne_true
  · exact absurd down Bool.false_ne_true

/-- A topic may change while the transport is suspended. -/
theorem setTopic (h : t.Tuned uuid a) (topic : Option Bytes)
    (apart : t.life.suspended = true ∨ t.cfg.toServiceUUID topic = uuid) :
    (t.setTopic topic).1.Tuned (t.cfg.toServiceUUID topic) a := by
  simp only [Transport.setTopic, Core.setTopic]
  split
  · rename_i same
    have same : t.cfg.toServiceUUID topic = uuid := same.trans h.topic
    rw [same]
    exact h.begun {} rfl rfl rfl rfl rfl
  · rename_i other
    have down := apart.resolve_right fun same => other (same.trans h.topic.symm)
    exact ⟨h.open_, rfl, fun scans => .inr (h.still down scans), fun _ => .inr (.inr down), h.still⟩

end Tuned

end Transport

end BleSwarm
