import BleSwarm.Swarm.Step
import BleSwarm.Transport.Attuned
import BleSwarm.Transport.Life

/-!
# The topic of the current transport

The topic is kept by the swarm, by its transport and in what the radio was last told. A
`setTopic()` tells the radio by a suspend and a resume, which it leaves out where the
transport is suspended anyway: what brings that up again tells the radio of its own.
-/

namespace BleSwarm

namespace BluetoothSwarm

variable {s s' : BluetoothSwarm} {t : Nat} {turn : Turn} {a : Aired} {aired : Nat → Aired}

/-- The uuid of the topic. -/
def uuid (s : BluetoothSwarm) : Hex := s.cfg.toServiceUUID s.topic

/-- The transport follows the topic. Each drain is awaited by a call, and a transport that is
not wanted is suspended. -/
structure Follows (s : BluetoothSwarm) (t : Nat) (a : Aired) : Prop where
  cfg : (s.transports t).cfg = s.cfg
  tuned : (s.transports t).Tuned s.uuid a
  awaited : ∀ call ∈ (s.transports t).life.drains, ∃ task ∈ s.tasks, task.awaits = .drain t call
  unwanted : s.wanted = false → (s.transports t).life.suspended = true

/-- The current transport follows, once the radio was told what was issued last. -/
def Sound (s : BluetoothSwarm) (aired : Nat → Aired) : Prop :=
  ∀ t, s.transport = some t → s.Follows t ((aired t).hear (s.transports t).core.out)

/-- What was issued last has been told. -/
def Heard (s : BluetoothSwarm) (aired : Nat → Aired) : Prop :=
  ∀ t, (aired t).hear (s.transports t).core.out = aired t

namespace Follows

/-- Tasks may be added, and the swarm may be wanted by now. -/
theorem congr (h : s.Follows t a) (cfg : s'.cfg = s.cfg) (topic : s'.topic = s.topic)
    (transports : s'.transports = s.transports) (tasks : ∀ task ∈ s.tasks, task ∈ s'.tasks)
    (wanted : s'.wanted = false → s.wanted = false) : s'.Follows t a := by
  refine ⟨?_, ?_, fun call mem => ?_, fun off => ?_⟩
  · rw [transports, cfg]
    exact h.cfg
  · rw [transports, uuid, cfg, topic]
    exact h.tuned
  · rw [transports] at mem
    obtain ⟨task, mem, awaits⟩ := h.awaited call mem
    exact ⟨task, tasks task mem, awaits⟩
  · rw [transports]
    exact h.unwanted (wanted off)

end Follows

namespace Sound

theorem of_none (none : s.transport = none) : s.Sound aired := by
  intro t current
  rw [none] at current
  cases current

theorem congr (h : s.Sound aired) (transport : s'.transport = s.transport) (cfg : s'.cfg = s.cfg)
    (topic : s'.topic = s.topic) (transports : s'.transports = s.transports)
    (tasks : ∀ task ∈ s.tasks, task ∈ s'.tasks) (wanted : s'.wanted = false → s.wanted = false) :
    s'.Sound aired := by
  intro t current
  rw [transport] at current
  rw [transports]
  exact (h t current).congr cfg topic transports tasks wanted

theorem await (h : s.Sound aired) (awaits : Await) (callback : Callback) :
    (s.await awaits callback).Sound aired :=
  h.congr rfl rfl rfl rfl (fun _ mem => List.mem_append_left _ mem) id

/-- A step of one of the transports that suspends and resumes none. -/
theorem setTransport (h : s.Sound aired) (heard : s.Heard aired) (k : Nat)
    {f : Transport → Transport}
    (cfg : ∀ tr : Transport, (f tr).cfg = tr.cfg)
    (tuned : ∀ (tr : Transport) uuid a, tr.Tuned uuid a →
      (f tr).Tuned uuid (a.hear (f tr).core.out))
    (drains : ∀ tr : Transport, ∀ call ∈ (f tr).life.drains, call ∈ tr.life.drains)
    (suspended : ∀ tr : Transport, (f tr).life.suspended = tr.life.suspended) :
    (s.setTransport k f).Sound aired := by
  intro t current
  have follows := h t current
  rw [heard t] at follows
  by_cases here : t = k
  · subst here
    have moved : (s.setTransport t f).transports t = f (s.transports t) := Function.update_self ..
    refine ⟨?_, ?_, fun call mem => ?_, fun off => ?_⟩
    · rw [moved, cfg]
      exact follows.cfg
    · rw [moved]
      exact tuned _ _ _ follows.tuned
    · rw [moved] at mem
      exact follows.awaited call (drains _ call mem)
    · rw [moved, suspended]
      exact follows.unwanted off
  · have other : (s.setTransport k f).transports t = s.transports t := Function.update_of_ne here ..
    rw [other, heard t]
    refine ⟨?_, ?_, ?_, ?_⟩
    · rw [other]
      exact follows.cfg
    · rw [other]
      exact follows.tuned
    · rw [other]
      exact follows.awaited
    · rw [other]
      exact follows.unwanted

/-- The current transport is resumed, on a swarm that wants it. -/
theorem resumeTransport (h : s.Sound aired) (heard : s.Heard aired) (current : s.transport = some t)
    (wanted : s.wanted = true) : (s.resumeTransport turn t).Sound aired := by
  intro k same
  obtain rfl : t = k := Option.some.inj (current.symm.trans same)
  have follows := h t current
  rw [heard t] at follows
  have moved : (s.resumeTransport turn t).transports t = (s.transports t).resume turn.now :=
    Function.update_self ..
  refine ⟨?_, ?_, fun call mem => ?_, fun off => ?_⟩
  · rw [moved]
    exact ((s.transports t).act_cfg (.resume turn.now)).trans follows.cfg
  · rw [moved]
    exact follows.tuned.resume turn.now
  · rw [moved, Transport.resume_life] at mem
    exact follows.awaited call mem
  · have off : s.wanted = false := off
    exact absurd (wanted.symm.trans off) (by decide)

/-- The current transport is suspended, and a callback awaits the drain. -/
theorem awaitSuspend (current : s.transport = some t) (cfg : (s.transports t).cfg = s.cfg)
    (open_ : (s.transports t).life.closing = false ∧ (s.transports t).life.closed = false)
    (topic : (s.transports t).core.radio.discoveryUUID = s.uuid)
    (awaited : ∀ call ∈ (s.transports t).life.drains, ∃ task ∈ s.tasks, task.awaits = .drain t call)
    (callback : Callback) : (s.awaitSuspend turn t callback).Sound aired := by
  intro k same
  obtain rfl : t = k := Option.some.inj (current.symm.trans same)
  have moved : (s.awaitSuspend turn t callback).transports t =
      (s.transports t).suspend turn.now turn.native := Function.update_self ..
  refine ⟨?_, ?_, fun call mem => ?_, fun _ => ?_⟩
  · rw [moved]
    exact ((s.transports t).act_cfg (.suspend turn.now turn.native)).trans cfg
  · rw [moved]
    have uuid : (s.awaitSuspend turn t callback).uuid = s.uuid := rfl
    rw [uuid, ← topic]
    exact .suspend open_ turn.now turn.native _
  · rw [moved, Transport.suspend_life] at mem
    rcases List.mem_append.mp mem with old | new
    · obtain ⟨task, mem, awaits⟩ := awaited call old
      exact ⟨task, List.mem_append_left _ mem, awaits⟩
    · refine ⟨_, List.mem_append_right _ List.mem_cons_self, ?_⟩
      rw [List.mem_singleton.mp new]
  · rw [moved]
    rfl

/-- The same on a transport that followed, whatever the swarm wants of it. -/
theorem wind (h : s.Sound aired) (current : s.transport = some t) {flags : BluetoothSwarm}
    (transport : flags.transport = s.transport) (cfg : flags.cfg = s.cfg)
    (topic : flags.topic = s.topic)
    (transports : flags.transports = s.transports) (tasks : flags.tasks = s.tasks) :
    (flags.awaitSuspend turn t .update).Sound aired := by
  have follows := h t current
  refine awaitSuspend (transport.trans current) ?_ ?_ ?_ ?_ .update
  · rw [transports, cfg]
    exact follows.cfg
  · rw [transports]
    exact follows.tuned.open_
  · rw [transports, uuid, cfg, topic]
    exact follows.tuned.topic
  · rw [transports, tasks]
    exact follows.awaited

theorem abandon (callback : Callback) : (s.abandon turn callback).Sound aired := by
  unfold BluetoothSwarm.abandon
  split
  · rename_i none
    exact of_none none
  · exact of_none rfl

/-- A new transport has the topic, and has told the radio nothing. -/
theorem createTransport (wanted : s.wanted = true) : s.createTransport.Sound aired := by
  intro t current
  obtain rfl : s.gen + 1 = t := Option.some.inj current
  have made : s.createTransport.transports (s.gen + 1) =
      Transport.create s.cfg s.topic s.online s.ids :=
    Function.update_self ..
  refine ⟨?_, ?_, fun call mem => ?_, fun off => ?_⟩
  · rw [made]
    rfl
  · rw [made]
    exact ⟨⟨rfl, rfl⟩, rfl, fun scans => absurd scans Bool.false_ne_true,
      fun airs => absurd airs Bool.false_ne_true, fun down => absurd down Bool.false_ne_true⟩
  · rw [made] at mem
    cases mem
  · have off : s.wanted = false := off
    exact absurd (wanted.symm.trans off) (by decide)

/-! The calls. -/

theorem activate (h : s.Sound aired) (heard : s.Heard aired) (wanted : s.wanted = true) :
    (s.activate turn).Sound aired := by
  unfold BluetoothSwarm.activate
  split
  · rename_i t current
    split
    · exact (h.resumeTransport heard current wanted).await _ _
    · exact abandon _
  · exact abandon _

theorem setTopic (h : s.Sound aired) (heard : s.Heard aired) (topic : Option Bytes) :
    (s.setTopic turn topic).Sound aired := by
  unfold BluetoothSwarm.setTopic
  dsimp only
  split
  · rename_i none
    exact of_none none
  · rename_i t current
    have current : s.transport = some t := current
    have follows := h t current
    rw [heard t] at follows
    let noted : BluetoothSwarm := { s with topic }
    let tuned : BluetoothSwarm := noted.setTransport t fun tr => (tr.setTopic topic).1
    have moved : tuned.transports t = ((s.transports t).setTopic topic).1 := Function.update_self ..
    have uuid : (s.transports t).cfg.toServiceUUID topic = tuned.uuid := by
      rw [follows.cfg]
      rfl
    have cfg : (tuned.transports t).cfg = tuned.cfg := by
      rw [moved]
      exact ((s.transports t).act_cfg (.setTopic topic)).trans follows.cfg
    have awaited : ∀ call ∈ (tuned.transports t).life.drains,
        ∃ task ∈ tuned.tasks, task.awaits = .drain t call := by
      rw [moved, Transport.setTopic_life]
      exact follows.awaited
    split
    · refine awaitSuspend (s := tuned) current cfg ?_ ?_ awaited _
      · rw [moved]
        exact follows.tuned.open_
      · rw [moved, ← uuid]
        exact Transport.setTopic_uuid _ _
    · rename_i stays
      have apart : (s.transports t).life.suspended = true ∨
          (s.transports t).cfg.toServiceUUID topic = s.uuid := by
        cases changed : ((s.transports t).setTopic topic).2 with
        | false => exact .inr ((Transport.setTopic_unchanged changed).trans follows.tuned.topic)
        | true =>
          have stays : ¬ (((s.transports t).setTopic topic).2 && s.started && !s.suspended) =
              true := stays
          refine .inl (follows.unwanted ?_)
          simpa [BluetoothSwarm.wanted, changed] using stays
      intro k same
      obtain rfl : t = k := Option.some.inj (current.symm.trans same)
      refine ⟨cfg, ?_, awaited, fun off => ?_⟩
      · rw [moved, Transport.setTopic_out, ← uuid]
        exact follows.tuned.setTopic topic apart
      · rw [moved, Transport.setTopic_life]
        exact follows.unwanted off

theorem call (h : s.Sound aired) (heard : s.Heard aired) {c : Call} (open_ : c ≠ .close) :
    (s.call turn c).Sound aired := by
  cases c with
  | start =>
    simp only [BluetoothSwarm.call, BluetoothSwarm.start]
    split
    · exact h
    · have started : ({ s with started := true } : BluetoothSwarm).Sound aired :=
        h.congr rfl rfl rfl rfl (fun _ => id) fun off => by
          simpa [wanted] using fun _ => by simpa [wanted] using off
      split
      · rename_i live
        exact started.activate heard ((wanted_iff _).mpr ⟨rfl, by simpa using live⟩)
      · exact started
  | stop =>
    simp only [BluetoothSwarm.call, BluetoothSwarm.stop]
    split
    · exact h
    · split
      · rename_i t current
        split
        · exact h.wind current rfl rfl rfl rfl rfl
        · rename_i paused
          have paused : s.suspended = true := by simpa using paused
          exact h.congr rfl rfl rfl rfl (fun _ => id) fun _ => by simp [wanted, paused]
      · rename_i none
        exact of_none none
  | suspend =>
    simp only [BluetoothSwarm.call, BluetoothSwarm.suspend]
    split
    · exact h
    · split
      · rename_i t current
        split
        · exact h.wind current rfl rfl rfl rfl rfl
        · rename_i off
          exact h.congr rfl rfl rfl rfl (fun _ => id) fun _ => by simp [wanted, off]
      · rename_i none
        exact of_none none
  | resume =>
    simp only [BluetoothSwarm.call, BluetoothSwarm.resume]
    split
    · exact h
    · rename_i paused
      have paused : s.suspended = true := by simpa using paused
      have resumed : ({ s with suspended := false } : BluetoothSwarm).Sound aired :=
        h.congr rfl rfl rfl rfl (fun _ => id) fun _ => by simp [wanted, paused]
      split
      · rename_i on
        exact resumed.activate heard ((wanted_iff _).mpr ⟨on, rfl⟩)
      · exact resumed
  | setTopic topic => exact h.setTopic heard topic
  | setOnline online =>
    have noted : ({ s with online } : BluetoothSwarm).Sound aired :=
      h.congr rfl rfl rfl rfl (fun _ => id) id
    simp only [BluetoothSwarm.call, BluetoothSwarm.setOnline]
    split
    · exact noted.setTransport heard _ (fun tr => tr.act_cfg (.setOnline online turn.now))
        (fun tr uuid a tuned => tuned.setOnline online turn.now) (fun _ _ => id) fun _ => rfl
    · exact noted
  | close => exact absurd rfl open_

/-! The continuations. -/

/-- A continuation goes on only when the drain it awaits has ended. -/
theorem take (h : s.Sound aired) {i : Nat} {task : Task} (found : s.tasks[i]? = some task)
    (settled : s.settled task.awaits = true) :
    ({ s with tasks := s.tasks.eraseIdx i } : BluetoothSwarm).Sound aired := by
  intro t current
  have follows := h t current
  refine ⟨follows.cfg, follows.tuned, fun call mem => ?_, follows.unwanted⟩
  obtain ⟨k, mem', awaits⟩ := follows.awaited call mem
  refine ⟨k, mem_eraseIdx_of_ne found mem' ?_, awaits⟩
  rintro rfl
  rw [awaits] at settled
  simp only [BluetoothSwarm.settled, decide_eq_true_eq] at settled
  exact settled mem

theorem release (h : s.Sound aired) (heard : s.Heard aired) (k : Nat) :
    (s.release k).Sound aired := by
  unfold BluetoothSwarm.release
  split
  · exact h.setTransport heard k (fun _ => rfl)
      (fun _ _ _ tuned => tuned.begun {} rfl rfl rfl rfl rfl) (fun _ _ => id) fun _ => rfl
  · exact h.setTransport heard k (fun _ => rfl)
      (fun _ _ _ tuned => tuned.begun {} rfl rfl rfl rfl rfl) (fun _ _ => id) fun _ => rfl
  · exact h.setTransport heard k (fun _ => rfl)
      (fun _ _ _ tuned => tuned.begun {} rfl rfl rfl rfl rfl) (fun _ _ => id) fun _ => rfl
  · exact h

theorem proceed (h : s.Sound aired) (heard : s.Heard aired) (callback : Callback) :
    (s.proceed turn callback).Sound aired := by
  cases callback with
  | update => exact h
  | release k => exact h.release heard k
  | activate =>
    simp only [BluetoothSwarm.proceed]
    split
    · exact h.await _ _
    · rename_i guard
      simp only [Bool.or_eq_true, not_or] at guard
      exact createTransport
        ((wanted_iff s).mpr ⟨by simpa using guard.1.1.1.2, by simpa using guard.1.1.2⟩)
  | rebuild =>
    simp only [BluetoothSwarm.proceed]
    split
    · exact h
    · split
      · rename_i wanted
        exact createTransport wanted
      · exact h
  | retune =>
    simp only [BluetoothSwarm.proceed]
    split
    · rename_i t current
      split
      · rename_i wanted
        exact h.resumeTransport heard current wanted
      · exact h
    · exact h
  | finish => exact h.congr rfl rfl rfl rfl (fun _ => id) id

theorem event (h : s.Sound aired) (heard : s.Heard aired) (k : Nat) (e : Event) :
    let s' := s.setTransport k fun tr => tr.input ⟨turn.now, turn.native, e⟩
    Sound (if .emitRadioCycled ∈ (s'.transports k).core.out then s'.rebuild turn k else s') aired := by
  intro s'
  have moved : s'.Sound aired :=
    h.setTransport heard k (fun tr => tr.act_cfg (.input ⟨turn.now, turn.native, e⟩))
      (fun _ _ _ tuned => tuned.input _) (fun tr call mem => by rwa [Transport.input_life] at mem)
    fun tr => congrArg Life.suspended (tr.input_life _)
  split
  · unfold BluetoothSwarm.rebuild
    split
    · exact moved
    · exact abandon _
  · exact moved

theorem step (h : s.Sound aired) (heard : s.Heard aired) (open_ : Unclosed turn) :
    (s.step turn).Sound aired := by
  unfold BluetoothSwarm.step
  unfold Unclosed at open_
  split
  · rename_i c move
    simp only [move] at open_
    exact h.call heard open_
  · split
    · rename_i task found
      split
      · rename_i settled
        exact (h.take found settled).proceed heard task.callback
      · exact h
    · exact h
  · split
    · refine h.setTransport heard _ (fun tr => tr.act_cfg (.open _ _ turn.now))
        (fun _ _ _ tuned => tuned.runOpen _ _ _) (fun tr call mem => ?_)
        fun tr => tr.runOpen_suspended turn.now _ _
      rwa [Transport.runOpen_drains] at mem
    · exact h
  · split
    · refine h.setTransport heard _ (fun tr => tr.act_cfg (.drained _ turn.now turn.native))
        (fun _ _ _ tuned => tuned.drained _ _ _) (fun tr call mem => ?_) fun tr => ?_
      · rw [Transport.drained_life] at mem
        exact List.mem_of_mem_erase mem
      · rw [Transport.drained_life]
    · exact h
  · split
    · exact h.event heard _ _
    · exact h

end Sound

end BluetoothSwarm

/-- A swarm, and what each of its transports has told its radio last. -/
structure Airing where
  swarm : BluetoothSwarm
  aired : Nat → Aired := fun _ => {}

namespace Airing

open BluetoothSwarm

/-- What the handlers of an event issue is told before a rebuild goes on with the transport. -/
def overheard (w : Airing) (turn : Turn) (t : Nat) : Aired :=
  match turn.move with
  | .event k e =>
    if k = t ∧ w.swarm.created k = true then
      (w.aired t).hear ((w.swarm.transports t).input ⟨turn.now, turn.native, e⟩).core.out
    else w.aired t
  | _ => w.aired t

/-- Then all that was issued is told. What a transport issued that did not move was told
before, and to tell it once more changes nothing. -/
def act (w : Airing) (turn : Turn) : Airing where
  swarm := w.swarm.step turn
  aired t := (w.overheard turn t).hear ((w.swarm.step turn).transports t).core.out

/-- The current transport has the uuid of the topic. Once every call and rebuild has settled,
and unless it is suspended, it scans and advertises nothing else. -/
def Consistent (w : Airing) : Prop :=
  ∀ t, w.swarm.transport = some t →
    (w.swarm.transports t).core.radio.discoveryUUID = w.swarm.uuid ∧
      (w.swarm.tasks = [] → (w.swarm.transports t).life.suspended = false →
        ((w.swarm.transports t).core.radio.scanning = true →
          (w.aired t).scanned = some w.swarm.uuid) ∧
        ((w.swarm.transports t).core.radio.advertising = true →
          (w.aired t).advertised = some w.swarm.uuid))

/-- The topic is followed, and what was issued is told. -/
structure Tracks (w : Airing) : Prop where
  heard : w.swarm.Heard w.aired
  sound : w.swarm.Sound w.aired

theorem Tracks.consistent {w : Airing} (h : w.Tracks) : w.Consistent := by
  intro t current
  have follows := h.sound t current
  rw [h.heard t] at follows
  refine ⟨follows.tuned.topic, fun settled live => ?_⟩
  have drained : (w.swarm.transports t).life.drains = [] := by
    refine List.eq_nil_iff_forall_not_mem.mpr fun call mem => ?_
    obtain ⟨task, waiting, -⟩ := follows.awaited call mem
    rw [settled] at waiting
    cases waiting
  refine ⟨fun scans => ?_, fun airs => ?_⟩
  · exact (follows.tuned.scans scans).resolve_right fun draining => draining drained
  · rcases follows.tuned.advertises airs with told | draining | suspended
    · exact told
    · exact absurd drained draining
    · exact absurd (live.symm.trans suspended) Bool.false_ne_true

/-- A transport that an event leaves current is not rebuilt. -/
theorem step_event {s : BluetoothSwarm} {turn : Turn} {t : Nat} {e : Event}
    (move : turn.move = .event t e)
    (made : s.created t = true) (current : (s.step turn).transport = some t) :
    (s.step turn).transports t = (s.transports t).input ⟨turn.now, turn.native, e⟩ := by
  let moved : BluetoothSwarm := s.setTransport t fun tr => tr.input ⟨turn.now, turn.native, e⟩
  have input : moved.transports t = (s.transports t).input ⟨turn.now, turn.native, e⟩ :=
    Function.update_self ..
  have run : s.step turn =
      if .emitRadioCycled ∈ (moved.transports t).core.out then moved.rebuild turn t else moved := by
    simp only [BluetoothSwarm.step, move, made, if_true]
    rfl
  have abandoned : ∀ (s : BluetoothSwarm) callback, (s.abandon turn callback).transport = none := by
    intro s callback
    unfold BluetoothSwarm.abandon
    split
    · assumption
    · rfl
  rw [run] at current ⊢
  split at current
  · rename_i emitted
    rw [if_pos emitted]
    unfold BluetoothSwarm.rebuild at current ⊢
    split at current
    · rename_i stale
      rw [if_pos stale]
      exact input
    · rw [abandoned] at current
      cases current
  · rename_i silent
    rw [if_neg silent]
    exact input

/-- The current transport is told what it has issued since the step began. -/
theorem act_aired (w : Airing) (turn : Turn) {t : Nat}
    (current : (w.swarm.step turn).transport = some t) :
    (w.act turn).aired t = (w.aired t).hear ((w.swarm.step turn).transports t).core.out := by
  simp only [act, overheard]
  split
  · rename_i k e move
    split
    · rename_i here
      obtain ⟨rfl, made⟩ := here
      rw [step_event move made current, Aired.hear_hear]
    · rfl
  · rfl

theorem Tracks.act {w : Airing} (h : w.Tracks) {turn : Turn} (open_ : Unclosed turn) :
    (w.act turn).Tracks := by
  refine ⟨fun t => Aired.hear_hear _ _, fun t current => ?_⟩
  have follows := h.sound.step h.heard open_ t current
  rw [act_aired w turn current]
  have told := Aired.hear_hear (w.aired t) ((w.swarm.step turn).transports t).core.out
  exact told.symm ▸ follows

/-- In every run without a `close()` the current transport has the uuid of the topic, and once
all calls and rebuilds have settled it is on no other. -/
theorem topic_consistent (cfg : Config) (ids : Ref → PeripheralId) (supported : Bool)
    (topic : Option Bytes)
    (online : Bool) (turns : List Turn)
    (unclosed : Runs.Each act (fun _ turn => Unclosed turn)
      { swarm := create cfg ids supported topic online } turns) :
    (Runs.run act { swarm := create cfg ids supported topic online } turns).Consistent := by
  have start : Tracks { swarm := create cfg ids supported topic online } :=
    ⟨fun _ => rfl, .of_none rfl⟩
  have keep : ∀ (w : Airing) turn, w.Tracks → Unclosed turn → (w.act turn).Tracks :=
    fun _ _ h open_ => h.act open_
  exact (Runs.invariant keep start unclosed).consistent

/-- A topic that changes on a live transport: once its `setTopic()` has settled the radio scans
for the new uuid and advertises it. -/
theorem topic_consistent_retuned :
    let w := Runs.run act
      { swarm := create (Config.plain (List.replicate 32 1) .gatt .ios) id true none false }
      (atOnce [.call .start, .run 0, .opened 1 .poweredOn .poweredOn, .run 0, .event 1 .serviceAdd,
        .call (.setTopic (some (List.replicate 32 3))), .drained 1 0, .run 0])
    (w.swarm.tasks = [] ∧ w.swarm.transport = some 1 ∧
      w.aired 1 = ⟨some w.swarm.uuid, some w.swarm.uuid⟩) ∧ w.Consistent := by
  intro w
  refine ⟨by decide +kernel, ?_⟩
  exact topic_consistent (Config.plain (List.replicate 32 1) .gatt .ios) id true none false _
    (by decide +kernel)

end Airing

end BleSwarm
