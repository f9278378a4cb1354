import BleSwarm.Swarm.Resume
import BleSwarm.Transport.Power

/-!
# A power cycle ends in fresh managers

The managers of a transport that saw a power cycle wedge, so it has to be replaced. It asks
for that once, when its central is back, and only while it is not halted. Whatever brings
it up again later has to look at `radioCycled` itself, and the continuation of `setTopic()`
does not.
-/

namespace BleSwarm

/-- How often the managers of a transport reported that the adapter went down. -/
structure Downs where
  server : Nat := 0
  central : Nat := 0
  deriving DecidableEq

namespace Downs

def note (d : Downs) : Event → Downs
  | .serverState s => if Core.isDown s then { d with server := d.server + 1 } else d
  | .centralState s => if Core.isDown s then { d with central := d.central + 1 } else d
  | _ => d

end Downs

namespace Transport

open BleSwarm.Core

/-- What a transport remembers of the reports. -/
structure RemembersDowns (t : Transport) (d : Downs) : Prop where
  open_ : t.life.closing = false ∧ t.life.closed = false
  unopened : t.life.opened = false → d = {}
  cycled : t.core.radio.radioCycled = true ↔ 0 < d.server + d.central
  down : t.core.radio.healing = false → 0 < d.server + d.central → t.core.radio.radioWasDown = true

/-- It has not asked to be replaced, and as long as it runs and has to be, its central is not
back yet. -/
structure Asking (t : Transport) (d : Downs) : Prop where
  healing : t.core.radio.healing = false
  awaited : t.life.suspended = false → 0 < d.central → t.core.radio.centralState ≠ .poweredOn

variable {t t' : Transport} {d : Downs}

/-- A step that leaves alone what is remembered. -/
theorem RemembersDowns.of_same (h : t.RemembersDowns d)
    (cycled : t'.core.radio.radioCycled = t.core.radio.radioCycled)
    (healing : t'.core.radio.healing = t.core.radio.healing)
    (wasDown : t'.core.radio.radioWasDown = t.core.radio.radioWasDown)
    (open_ : t'.life.closing = false ∧ t'.life.closed = false)
    (opened : t'.life.opened = t.life.opened) : t'.RemembersDowns d := by
  refine ⟨open_, ?_, ?_, ?_⟩
  · rw [opened]
    exact h.unopened
  · rw [cycled]
    exact h.cycled
  · rw [healing, wasDown]
    exact h.down

/-- A step that reports no adapter. -/
theorem RemembersDowns.congr (h : t.RemembersDowns d) (power : t'.core.power = t.core.power)
    (open_ : t'.life.closing = false ∧ t'.life.closed = false)
    (opened : t'.life.opened = t.life.opened) : t'.RemembersDowns d := by
  apply h.of_same _ _ _ open_ opened
  · exact congrArg Power.radioCycled power
  · exact congrArg Power.healing power
  · exact congrArg Power.radioWasDown power

theorem Asking.of_same (h : t.Asking d) (healing : t'.core.radio.healing = t.core.radio.healing)
    (central : t'.core.radio.centralState = t.core.radio.centralState)
    (runs : t'.life.suspended = false → t.life.suspended = false) : t'.Asking d := by
  refine ⟨healing.trans h.healing, fun running => ?_⟩
  rw [central]
  exact h.awaited (runs running)

theorem Asking.congr (h : t.Asking d) (power : t'.core.power = t.core.power)
    (runs : t'.life.suspended = false → t.life.suspended = false) : t'.Asking d :=
  h.of_same (congrArg Power.healing power) (congrArg Power.centralState power) runs

/-- A transport that never saw the adapter go down of its central may be brought up. -/
theorem Asking.resumed (h : t.Asking d) (power : t'.core.power = t.core.power)
    (heals : 0 < d.central → t.core.radio.centralState ≠ .poweredOn) : t'.Asking d := by
  have central : t'.core.radio.centralState = t.core.radio.centralState :=
    congrArg Power.centralState power
  refine ⟨(congrArg Power.healing power).trans h.healing, fun _ => ?_⟩
  rw [central]
  exact heals

theorem create_told (cfg : Config) (topic : Option Bytes) (online : Bool) (ids : Ref → PeripheralId) :
    (create cfg topic online ids).RemembersDowns {} :=
  ⟨⟨rfl, rfl⟩, fun _ => rfl, by simp [create], fun _ pos => absurd pos (lt_irrefl 0)⟩

theorem create_asking (cfg : Config) (topic : Option Bytes) (online : Bool)
    (ids : Ref → PeripheralId) : (create cfg topic online ids).Asking {} :=
  ⟨rfl, fun _ pos => absurd pos (lt_irrefl 0)⟩

/-- An opening reads the states of the adapters. -/
theorem RemembersDowns.runOpen (h : t.RemembersDowns d) (server central : AdapterState)
    (now : Nat) :
    (t.runOpen server central now).RemembersDowns d ∧
      (t.Asking d → (t.runOpen server central now).Asking d) := by
  cases opened : t.life.opened
  · obtain rfl := h.unopened opened
    let opening : Transport := { t.begin {} with life.opened := true }
    have run : t.runOpen server central now =
        opening.withCore fun c => c.doOpen (opening.env now) server central := by
      simp [Transport.runOpen, opening, opened, h.open_.1]
    have power := doOpen_power (opening.env now) opening.core server central
    rw [run]
    refine ⟨⟨h.open_, fun _ => rfl, ?_, fun _ pos => absurd pos (lt_irrefl 0)⟩, fun asking => ?_⟩
    · exact (congrArg (fun p : Power => p.radioCycled = true) power).to_iff.trans h.cycled
    · exact ⟨(congrArg Power.healing power).trans asking.healing,
        fun _ pos => absurd pos (lt_irrefl 0)⟩
  · have run : t.runOpen server central now = t.begin {} := by simp [Transport.runOpen, opened]
    rw [run]
    exact ⟨h.congr rfl h.open_ rfl, fun asking => asking.congr rfl id⟩

/-- Nothing was reported. -/
theorem Downs.note_of_unpowered (d : Downs) {e : Event} (other : Unpowered e) : d.note e = d := by
  cases e with
  | serverState s => exact other.elim
  | centralState s => exact other.elim
  | _ => rfl

/-- The server's manager reports the state of the adapter. -/
theorem RemembersDowns.serverState (h : t.RemembersDowns d) (env : Env) (s : AdapterState)
    (opened : t.life.opened = true) :
    (t.withCore fun c => c.onServerState env s).RemembersDowns (d.note (.serverState s)) ∧
      (t.Asking d → (t.withCore fun c => c.onServerState env s).Asking (d.note (.serverState s))) := by
  have power := onServerState_power env t.core s
  have asks : t.Asking d → (t.withCore fun c => c.onServerState env s).Asking d := by
    intro asking
    split at power
    · exact asking.of_same (congrArg Power.healing power) (congrArg Power.centralState power) id
    · exact asking.of_same (congrArg Power.healing power) (congrArg Power.centralState power) id
  cases goes : isDown s
  · rw [goes] at power
    have same : d.note (.serverState s) = d := by simp [Downs.note, goes]
    rw [same]
    refine ⟨?_, asks⟩
    refine h.of_same ?_ ?_ ?_ h.open_ rfl
    · exact congrArg Power.radioCycled power
    · exact congrArg Power.healing power
    · exact congrArg Power.radioWasDown power
  · rw [goes] at power
    have counted : d.note (.serverState s) = { d with server := d.server + 1 } := by
      simp [Downs.note, goes]
    rw [counted]
    refine ⟨⟨h.open_, fun closed => ?_, ?_, fun _ _ => congrArg Power.radioWasDown power⟩, ?_⟩
    · exact absurd (opened.symm.trans closed) (by decide)
    · exact iff_of_true (congrArg Power.radioCycled power) (Nat.add_pos_left (Nat.succ_pos _) _)
    · exact fun asking => ⟨(asks asking).healing, (asks asking).awaited⟩

/-- A central that is back asks the owner for fresh managers. -/
theorem onCentralState_asks {env : Env} {c : Core} (wasDown : c.radio.radioWasDown = true)
    (healing : c.radio.healing = false) (live : env.halted = false) :
    .emitRadioCycled ∈ (c.onCentralState env .poweredOn).out := by
  let noted : Core := { c with radio.centralState := .poweredOn }.onState .poweredOn
  have power : noted.power = { c.power with centralState := .poweredOn } := onState_power _ _
  have down : noted.radio.radioWasDown = true := (congrArg Power.radioWasDown power).trans wasDown
  have idle : noted.radio.healing = false := (congrArg Power.healing power).trans healing
  have run : c.onCentralState env .poweredOn =
      if noted.radio.radioWasDown then noted.scheduleSelfHeal env else noted.startScan env := rfl
  rw [run, if_pos down, scheduleSelfHeal]
  simp [down, idle, live, issue]

/-- The central's manager reports the state of the adapter. -/
theorem RemembersDowns.centralState (h : t.RemembersDowns d) (env : Env) (s : AdapterState)
    (life : env.life = t.life)
    (opened : t.life.opened = true) :
    (t.withCore fun c => c.onCentralState env s).RemembersDowns (d.note (.centralState s)) ∧
      (t.Asking d → .emitRadioCycled ∈ (t.core.onCentralState env s).out ∨
        (t.withCore fun c => c.onCentralState env s).Asking (d.note (.centralState s))) := by
  have power := onCentralState_power env t.core s
  cases goes : isDown s
  · have same : d.note (.centralState s) = d := by simp [Downs.note, goes]
    rw [same]
    simp only [goes, Bool.false_eq_true, if_false] at power
    split at power
    · rename_i heals
      simp only [Bool.and_eq_true, decide_eq_true_eq, Bool.not_eq_true'] at heals
      obtain ⟨⟨⟨rfl, wasDown⟩, idle⟩, live⟩ := heals
      refine ⟨⟨h.open_, h.unopened, ?_, fun healing => ?_⟩, fun _ => ?_⟩
      · exact (congrArg (fun p : Power => p.radioCycled = true) power).to_iff.trans h.cycled
      · have asked : (t.core.onCentralState env .poweredOn).radio.healing = true :=
          congrArg Power.healing power
        exact absurd (asked.symm.trans healing) (by decide)
      · exact .inl (onCentralState_asks wasDown idle live)
    · rename_i stays
      refine ⟨?_, fun asking => .inr ⟨?_, ?_⟩⟩
      · refine h.of_same ?_ ?_ ?_ h.open_ rfl
        · exact congrArg Power.radioCycled power
        · exact congrArg Power.healing power
        · exact congrArg Power.radioWasDown power
      · exact (congrArg Power.healing power).trans asking.healing
      · -- a running transport that has to be replaced would have asked for it now
        intro running pos back
        apply stays
        have on : s = .poweredOn := (congrArg Power.centralState power).symm.trans back
        have wasDown := h.down asking.healing (by omega)
        have running : t.life.suspended = false := running
        simp [on, wasDown, asking.healing, Env.halted, life, running, h.open_]
  · have counted : d.note (.centralState s) = { d with central := d.central + 1 } := by
      simp [Downs.note, goes]
    rw [counted]
    simp only [goes, if_true] at power
    refine ⟨⟨h.open_, fun closed => ?_, ?_, fun _ _ => congrArg Power.radioWasDown power⟩,
      fun asking => ?_⟩
    · exact absurd (opened.symm.trans closed) (by decide)
    · exact iff_of_true (congrArg Power.radioCycled power) (Nat.add_pos_right _ (Nat.succ_pos _))
    · refine .inr ⟨(congrArg Power.healing power).trans asking.healing, fun _ _ back => ?_⟩
      have on : s = .poweredOn := (congrArg Power.centralState power).symm.trans back
      rw [on] at goes
      cases goes

/-- An event is noted, and a central that is back asks for the replacement. -/
theorem RemembersDowns.input (h : t.RemembersDowns d) (i : Input) :
    let noted := if t.life.opened then d.note i.event else d
    (t.input i).RemembersDowns noted ∧
      (t.Asking d → .emitRadioCycled ∈ (t.input i).core.out ∨ (t.input i).Asking noted) := by
  intro noted
  have plain : (t.input i).core.power = t.core.power → noted = d →
      (t.input i).RemembersDowns noted ∧
        (t.Asking d → .emitRadioCycled ∈ (t.input i).core.out ∨ (t.input i).Asking noted) := by
    intro power same
    rw [same]
    refine ⟨h.congr power ?_ ?_, fun asking => .inr (asking.congr power ?_)⟩
    · rw [input_life]
      exact h.open_
    · rw [input_life]
    · rw [input_life]
      exact id
  cases opened : t.life.opened
  · have closed : (t.begin i.native).life.opened = false := opened
    refine plain ?_ (by simp [noted, opened])
    simp only [Transport.input, closed]
    rfl
  · have counted : noted = d.note i.event := by simp [noted, opened]
    have begun : (t.begin i.native).RemembersDowns d := h.congr rfl h.open_ rfl
    have begins : t.Asking d → (t.begin i.native).Asking d := fun asking => asking.congr rfl id
    have run :
        t.input i = (t.begin i.native).handle ((t.begin i.native).env i.now i.native) i.event := by
      simp [Transport.input, opened]
    cases event : i.event with
    | serverState s =>
      obtain ⟨told, asks⟩ := begun.serverState ((t.begin i.native).env i.now i.native) s opened
      rw [counted, run, event]
      exact ⟨told, fun asking => .inr (asks (begins asking))⟩
    | centralState s =>
      obtain ⟨told, asks⟩ := begun.centralState ((t.begin i.native).env i.now i.native) s rfl opened
      rw [counted, run, event]
      exact ⟨told, fun asking => asks (begins asking)⟩
    | serviceAdd =>
      have power : (t.input i).core.power = { t.core.power with serviceAdded := true } := by
        rw [run, event]
        exact onServiceAdd_power _
      have same : noted = d := by
        rw [counted, event]
        rfl
      have healing : (t.input i).core.radio.healing = t.core.radio.healing :=
        congrArg Power.healing power
      rw [same]
      refine ⟨?_, fun asking => .inr ?_⟩
      · apply h.of_same (congrArg Power.radioCycled power) healing
        · exact congrArg Power.radioWasDown power
        · rw [input_life]
          exact h.open_
        · rw [input_life]
      · apply asking.of_same healing (congrArg Power.centralState power)
        rw [input_life]
        exact id
    | _ =>
      have other : Unpowered i.event := by rw [event]; trivial
      exact plain (input_power t other) (counted.trans (Downs.note_of_unpowered d other))

end Transport

namespace BluetoothSwarm

/-- What the reports add up to after a move. -/
def downsAfter (s : BluetoothSwarm) (downs : Nat → Downs) (turn : Turn) : Nat → Downs :=
  match turn.move with
  | .event t e =>
    if s.created t && (s.transports t).life.opened then
      Function.update downs t ((downs t).note e)
    else downs
  | _ => downs

/-- The adapter is on, and each manager reported every power cycle of the other. -/
def Recovered (s : BluetoothSwarm) (downs : Nat → Downs) (t : Nat) : Prop :=
  (s.transports t).core.radio.serverState = .poweredOn ∧
    (s.transports t).core.radio.centralState = .poweredOn ∧ (downs t).server = (downs t).central

/-- Once every call and rebuild has settled and the radio is back, a transport that is wanted
is not one that went through a power cycle. -/
def Replaced (s : BluetoothSwarm) (downs : Nat → Downs) : Prop :=
  s.tasks = [] → s.wanted = true → ∀ t, s.transport = some t → s.Recovered downs t →
    (s.transports t).core.radio.radioCycled = false

/-- Where the continuation of a `setTopic()` brings the transport up again, the central of
that did not go through a power cycle, or is not back yet. -/
def Uncycled (s : BluetoothSwarm) (downs : Nat → Downs) (turn : Turn) : Prop :=
  match turn.move with
  | .run i => ∀ task ∈ s.tasks[i]?, s.settled task.awaits = true → task.callback = .retune →
      s.wanted = true → ∀ t ∈ s.transport, 0 < (downs t).central →
        (s.transports t).core.radio.centralState ≠ .poweredOn
  | _ => True

/-- What holds whatever the flags of the swarm. -/
structure Traced (downs : Nat → Downs) (s : BluetoothSwarm) : Prop where
  open_ : s.closing = false ∧ s.closed = false
  unfinished : ∀ task ∈ s.tasks, task.callback ≠ .finish
  uncreated : ∀ t, s.created t = false → downs t = {}
  told : ∀ t, (s.transports t).RemembersDowns (downs t)
  asking : ∀ t, s.transport = some t → (s.transports t).Asking (downs t)

/-- The current transport runs while it is wanted, or a `setTopic()` is to resume it. -/
structure CycleInv (downs : Nat → Downs) (s : BluetoothSwarm) : Prop extends Traced downs s where
  runs : s.wanted = true → ∀ t, s.transport = some t →
    (s.transports t).life.suspended = false ∨ ∃ task ∈ s.tasks, task.callback = .retune

variable {downs : Nat → Downs} {s s' : BluetoothSwarm} {turn : Turn} {t : Nat}

theorem CycleInv.replaced (h : CycleInv downs s) : s.Replaced downs := by
  intro settled wanted t current recovered
  have running : (s.transports t).life.suspended = false := by
    rcases h.runs wanted t current with running | ⟨task, mem, -⟩
    · exact running
    · simp [settled] at mem
  obtain ⟨-, on, even⟩ := recovered
  have none : (downs t).central = 0 := by
    rcases Nat.eq_zero_or_pos (downs t).central with none | pos
    · exact none
    · exact absurd on ((h.asking t current).awaited running pos)
  cases cycled : (s.transports t).core.radio.radioCycled
  · rfl
  · have counted := (h.told t).cycled.mp cycled
    omega

namespace Traced

/-- Only the flags of the swarm differ. -/
theorem congr (h : Traced downs s) (closing : s'.closing = s.closing) (closed : s'.closed = s.closed)
    (gen : s'.gen = s.gen) (transport : s'.transport = s.transport)
    (transports : s'.transports = s.transports) (tasks : s'.tasks = s.tasks) : Traced downs s' := by
  obtain ⟨open_, unfinished, uncreated, told, asking⟩ := h
  refine ⟨?_, ?_, ?_, ?_, ?_⟩
  · rwa [closing, closed]
  · rwa [tasks]
  · intro t new
    refine uncreated t ?_
    rwa [BluetoothSwarm.created, gen] at new
  · rwa [transports]
  · rwa [transport, transports]

theorem without (h : Traced downs s) : Traced downs { s with transport := none } :=
  ⟨h.open_, h.unfinished, h.uncreated, h.told, fun t current => by cases current⟩

theorem await (h : Traced downs s) (awaits : Await) {callback : Callback} (kind : callback ≠ .finish) :
    Traced downs (s.await awaits callback) := by
  refine ⟨h.open_, fun task mem => ?_, h.uncreated, h.told, h.asking⟩
  rcases List.mem_append.mp mem with old | new
  · exact h.unfinished task old
  · rw [List.mem_singleton.mp new]
    exact kind

/-- One transport takes a step. -/
theorem setTransport (h : Traced downs s) (t : Nat) {f : Transport → Transport}
    (told : (f (s.transports t)).RemembersDowns (downs t))
    (asking : s.transport = some t → (f (s.transports t)).Asking (downs t)) :
    Traced downs (s.setTransport t f) := by
  refine ⟨h.open_, h.unfinished, h.uncreated, fun k => ?_, fun k current => ?_⟩
  · by_cases same : k = t
    · subst same
      simpa [BluetoothSwarm.setTransport] using told
    · simpa [BluetoothSwarm.setTransport, same] using h.told k
  · by_cases same : k = t
    · subst same
      simpa [BluetoothSwarm.setTransport] using asking current
    · simpa [BluetoothSwarm.setTransport, same] using h.asking k current

/-- A suspended transport need not ask for anything. -/
theorem awaitSuspend (h : Traced downs s) (t : Nat) {callback : Callback} (kind : callback ≠ .finish) :
    Traced downs (s.awaitSuspend turn t callback) := by
  have power := (s.transports t).suspend_power turn.now turn.native
  refine Traced.await (h.setTransport t ?_ fun current => ?_) _ kind
  · exact (h.told t).congr power (h.told t).open_ rfl
  · exact (h.asking t current).congr power fun running => by cases running

/-- A transport is resumed that has not to be replaced, or will ask for it yet. -/
theorem resumeTransport (h : Traced downs s) (current : s.transport = some t)
    (heals : 0 < (downs t).central → (s.transports t).core.radio.centralState ≠ .poweredOn) :
    Traced downs (s.resumeTransport turn t) := by
  have power := (s.transports t).resume_power turn.now
  refine h.setTransport t ?_ fun _ => (h.asking t current).resumed power heals
  refine (h.told t).congr power ?_ ?_
  · simpa using (h.told t).open_
  · simp

end Traced

namespace CycleInv

/-- Nothing is wanted. -/
theorem of_unwanted (h : Traced downs s) (off : s.wanted = false) : CycleInv downs s :=
  ⟨h, fun wanted => absurd (wanted.symm.trans off) (by decide)⟩

/-- There is no current transport. -/
theorem of_none (h : Traced downs s) (none : s.transport = none) : CycleInv downs s := by
  refine ⟨h, fun _ t current => ?_⟩
  rw [none] at current
  cases current

theorem create (cfg : Config) (ids : Ref → PeripheralId) (supported : Bool) (topic : Option Bytes)
    (online : Bool) : CycleInv (fun _ => {}) (create cfg ids supported topic online) := by
  refine of_none ⟨⟨rfl, rfl⟩, List.forall_mem_nil _, fun _ _ => rfl, fun _ => ?_, fun t current => ?_⟩ rfl
  · exact Transport.create_told cfg none false ids
  · cases current

theorem await (h : CycleInv downs s) (awaits : Await) {callback : Callback}
    (kind : callback ≠ .finish) : CycleInv downs (s.await awaits callback) := by
  refine ⟨h.toTraced.await awaits kind, fun wanted t current => ?_⟩
  rcases h.runs wanted t current with running | ⟨task, mem, retune⟩
  · exact .inl running
  · exact .inr ⟨task, List.mem_append_left _ mem, retune⟩

/-- One transport takes a step that does not suspend it. -/
theorem setTransport (h : CycleInv downs s) (t : Nat) {f : Transport → Transport}
    (told : (f (s.transports t)).RemembersDowns (downs t))
    (asking : s.transport = some t → (f (s.transports t)).Asking (downs t))
    (running : (f (s.transports t)).life.suspended = (s.transports t).life.suspended) :
    CycleInv downs (s.setTransport t f) := by
  refine ⟨h.toTraced.setTransport t told asking, fun wanted k current => ?_⟩
  refine (h.runs wanted k current).imp_left fun runs => ?_
  by_cases same : k = t
  · subst same
    simpa [BluetoothSwarm.setTransport, running] using runs
  · simpa [BluetoothSwarm.setTransport, same] using runs

/-- One transport takes a step that reports no adapter and does not suspend it. -/
theorem setTransport_of_power (h : CycleInv downs s) (t : Nat) {f : Transport → Transport}
    (power : (f (s.transports t)).core.power = (s.transports t).core.power)
    (open_ : (f (s.transports t)).life.closing = (s.transports t).life.closing ∧
      (f (s.transports t)).life.closed = (s.transports t).life.closed)
    (opened : (f (s.transports t)).life.opened = (s.transports t).life.opened)
    (running : (f (s.transports t)).life.suspended = (s.transports t).life.suspended) :
    CycleInv downs (s.setTransport t f) := by
  have told := h.told t
  refine h.setTransport t (told.congr power ?_ opened) (fun current => ?_) running
  · exact ⟨open_.1.trans told.open_.1, open_.2.trans told.open_.2⟩
  · exact (h.asking t current).congr power fun runs => running.symm.trans runs

theorem resumeTransport (h : Traced downs s) (current : s.transport = some t)
    (heals : 0 < (downs t).central → (s.transports t).core.radio.centralState ≠ .poweredOn) :
    CycleInv downs (s.resumeTransport turn t) := by
  refine ⟨h.resumeTransport current heals, fun _ k current' => .inl ?_⟩
  obtain rfl : t = k := Option.some.inj (current.symm.trans current')
  simp [BluetoothSwarm.resumeTransport, BluetoothSwarm.setTransport]

/-- The current transport is given up, whatever it asked for. -/
theorem abandon (left : Traced downs { s with transport := none }) {callback : Callback}
    (kind : callback ≠ .finish) : CycleInv downs (s.abandon turn callback) := by
  unfold BluetoothSwarm.abandon
  split
  · rename_i none
    have same : Traced downs s := left.congr rfl rfl rfl none rfl rfl
    exact (of_none same none).await .settled kind
  · rename_i old current
    have suspended : Traced downs
        ({ s with transport := none }.awaitSuspend turn old (.release old)) :=
      left.awaitSuspend old (by simp)
    exact (of_none suspended rfl).await (.retired old) kind

theorem createTransport (h : Traced downs s) : CycleInv downs s.createTransport := by
  have new : downs (s.gen + 1) = {} := h.uncreated _ (by simp [created])
  have next : ∀ k, s.createTransport.transports k = if k = s.gen + 1 then
      Transport.create s.cfg s.topic s.online s.ids else s.transports k := fun k => by
    simp [BluetoothSwarm.createTransport, BluetoothSwarm.await, Function.update_apply]
  have current : ∀ k, s.createTransport.transport = some k → k = s.gen + 1 := fun k current =>
    (Option.some.inj current).symm
  refine ⟨⟨h.open_, fun task mem => ?_, fun k uncreated => ?_, fun k => ?_, fun k cur => ?_⟩,
    fun _ k cur => .inl ?_⟩
  · rcases List.mem_append.mp mem with old | update
    · exact h.unfinished task old
    · rw [List.mem_singleton.mp update]
      simp
  · refine h.uncreated k ?_
    cases old : s.created k
    · rfl
    · obtain ⟨pos, le⟩ := (created_iff s k).mp old
      have still :
          s.createTransport.created k = true := (created_iff _ k).mpr ⟨pos, Nat.le_succ_of_le le⟩
      exact absurd (still.symm.trans uncreated) (by decide)
  · rw [next]
    split
    · rename_i same
      rw [same, new]
      exact Transport.create_told _ _ _ _
    · exact h.told k
  · obtain rfl := current k cur
    rw [next, if_pos rfl, new]
    exact Transport.create_asking _ _ _ _
  · obtain rfl := current k cur
    rw [next, if_pos rfl]
    rfl

/-! The calls. -/

/-- `_activate` looks at `radioCycled` before it resumes. -/
theorem activate (h : Traced downs s) : CycleInv downs (s.activate turn) := by
  unfold BluetoothSwarm.activate
  split
  · rename_i t current
    split
    · rename_i fresh
      have fresh : (s.transports t).core.radio.radioCycled = false := by simpa using fresh
      refine (resumeTransport h current fun pos => ?_).await .settled (by simp)
      have cycled := (h.told t).cycled.mpr (by omega)
      exact absurd (fresh.symm.trans cycled) (by decide)
    · exact abandon h.without (by simp)
  · exact abandon h.without (by simp)

theorem call (h : CycleInv downs s) {c : Call} (open_ : c ≠ .close) :
    CycleInv downs (s.call turn c) := by
  cases c with
  | start =>
    simp only [BluetoothSwarm.call, BluetoothSwarm.start]
    split
    · exact h
    · have noted : Traced downs { s with started := true } :=
        h.toTraced.congr rfl rfl rfl rfl rfl rfl
      split
      · exact activate noted
      · rename_i paused
        have paused : s.suspended = true := by simpa using paused
        exact of_unwanted noted (by simp [wanted, paused])
  | stop =>
    simp only [BluetoothSwarm.call, BluetoothSwarm.stop]
    split
    · exact h
    · have noted : Traced downs { s with started := false } :=
        h.toTraced.congr rfl rfl rfl rfl rfl rfl
      split
      · split
        · exact of_unwanted (noted.awaitSuspend _ (by simp)) rfl
        · exact of_unwanted noted rfl
      · exact of_unwanted noted rfl
  | suspend =>
    simp only [BluetoothSwarm.call, BluetoothSwarm.suspend]
    split
    · exact h
    · have noted : Traced downs { s with suspended := true } :=
        h.toTraced.congr rfl rfl rfl rfl rfl rfl
      have off : ({ s with suspended := true } : BluetoothSwarm).wanted = false := by simp [wanted]
      split
      · split
        · exact of_unwanted (noted.awaitSuspend _ (by simp)) off
        · exact of_unwanted noted off
      · exact of_unwanted noted off
  | resume =>
    simp only [BluetoothSwarm.call, BluetoothSwarm.resume]
    split
    · exact h
    · have noted : Traced downs { s with suspended := false } :=
        h.toTraced.congr rfl rfl rfl rfl rfl rfl
      split
      · exact activate noted
      · rename_i off
        exact of_unwanted noted (by simp [wanted, off])
  | setTopic topic =>
    have noted : CycleInv downs { s with topic } :=
      ⟨h.toTraced.congr rfl rfl rfl rfl rfl rfl, h.runs⟩
    simp only [BluetoothSwarm.call, BluetoothSwarm.setTopic]
    split
    · exact noted
    · rename_i t current
      have tuned : CycleInv downs
          ({ s with topic }.setTransport t fun tr => (tr.setTopic topic).1) :=
        noted.setTransport_of_power t (Transport.setTopic_power _ topic) (by simp) (by simp) (by simp)
      split
      · -- the continuation is there as long as the transport is suspended
        refine ⟨tuned.toTraced.awaitSuspend t (by simp), fun _ k _ => .inr ?_⟩
        exact ⟨_, List.mem_append_right _ (List.mem_singleton_self _), rfl⟩
      · exact tuned
  | setOnline online =>
    have noted : CycleInv downs { s with online } :=
      ⟨h.toTraced.congr rfl rfl rfl rfl rfl rfl, h.runs⟩
    simp only [BluetoothSwarm.call, BluetoothSwarm.setOnline]
    split
    · exact noted.setTransport_of_power _ (Transport.setOnline_power _ turn.now online) (by simp)
        (by simp) (by simp)
    · exact noted
  | close => exact absurd rfl open_

/-! The continuations. -/

/-- A continuation that goes on leaves the list; a `setTopic()` has to make up for it. -/
theorem take (h : CycleInv downs s) {i : Nat} {task : Task} (found : s.tasks[i]? = some task) :
    Traced downs { s with tasks := s.tasks.eraseIdx i } ∧
      (task.callback ≠ .retune → CycleInv downs { s with tasks := s.tasks.eraseIdx i }) := by
  have traced : Traced downs { s with tasks := s.tasks.eraseIdx i } :=
    ⟨h.open_, fun k mem => h.unfinished k (List.mem_of_mem_eraseIdx mem), h.uncreated, h.told, h.asking⟩
  refine ⟨traced, fun other => ⟨traced, fun wanted t current => ?_⟩⟩
  rcases h.runs wanted t current with running | ⟨k, mem, retune⟩
  · exact .inl running
  · refine .inr ⟨k, mem_eraseIdx_of_ne found mem ?_, retune⟩
    rintro rfl
    exact other retune

theorem proceed (h : CycleInv downs s) {i : Nat} {task : Task} (found : s.tasks[i]? = some task)
    (uncycled : task.callback = .retune → s.wanted = true → ∀ t ∈ s.transport,
      0 < (downs t).central → (s.transports t).core.radio.centralState ≠ .poweredOn) :
    CycleInv downs (({ s with tasks := s.tasks.eraseIdx i } : BluetoothSwarm).proceed turn
      task.callback) := by
  obtain ⟨traced, rest⟩ := h.take found
  cases callback : task.callback with
  | update => exact rest (by simp [callback])
  | release k =>
    have rest := rest (by simp [callback])
    simp only [BluetoothSwarm.proceed, BluetoothSwarm.release]
    split
    · exact rest.setTransport_of_power k rfl ⟨rfl, rfl⟩ rfl rfl
    · exact rest.setTransport_of_power k rfl ⟨rfl, rfl⟩ rfl rfl
    · exact rest.setTransport_of_power k rfl ⟨rfl, rfl⟩ rfl rfl
    · exact rest
  | activate =>
    simp only [BluetoothSwarm.proceed]
    split
    · exact (rest (by simp [callback])).await .settled (by simp)
    · exact createTransport traced
  | rebuild =>
    have rest := rest (by simp [callback])
    simp only [BluetoothSwarm.proceed]
    split
    · exact rest
    · split
      · exact createTransport traced
      · exact rest
  | retune =>
    simp only [BluetoothSwarm.proceed]
    split
    · rename_i t current
      split
      · rename_i wanted
        exact resumeTransport traced current (uncycled callback wanted t current)
      · rename_i off
        exact of_unwanted traced (by simpa [wanted] using off)
    · rename_i none
      exact of_none traced none
  | finish => exact absurd callback (h.unfinished task (List.mem_of_getElem? found))

/-! Events. -/

/-- An event is noted, and a transport that asks to be replaced is given up in the same step. -/
theorem event (h : CycleInv downs s) (turn : Turn) {t : Nat} (e : Event) (known : s.created t = true) :
    let s' := s.setTransport t fun tr => tr.input ⟨turn.now, turn.native, e⟩
    let noted := if (s.transports t).life.opened then (downs t).note e else downs t
    CycleInv (Function.update downs t noted)
      (if .emitRadioCycled ∈ (s'.transports t).core.out then s'.rebuild turn t else s') := by
  intro s' noted
  let input := (s.transports t).input ⟨turn.now, turn.native, e⟩
  obtain ⟨told, asks⟩ : input.RemembersDowns noted ∧ ((s.transports t).Asking (downs t) →
      .emitRadioCycled ∈ input.core.out ∨ input.Asking noted) := (h.told t).input _
  have here : s'.transports t = input := by simp [s', input, BluetoothSwarm.setTransport]
  have there : ∀ k, k ≠ t → s'.transports k = s.transports k := fun k other => by
    simp [s', BluetoothSwarm.setTransport, other]
  have left : Traced (Function.update downs t noted) { s' with transport := none } := by
    refine ⟨h.open_, h.unfinished, fun k new => ?_, fun k => ?_, fun k current => by cases current⟩
    · have new : s.created k = false := new
      have other : k ≠ t := fun same => by
        rw [same, known] at new
        cases new
      simpa [other] using h.uncreated k new
    · by_cases same : k = t
      · subst same
        simpa [here] using told
      · simpa [there k same, same] using h.told k
  have moved : (s.transport = some t → input.Asking noted) →
      CycleInv (Function.update downs t noted) s' := by
    intro asking
    refine ⟨⟨h.open_, h.unfinished, left.uncreated, left.told, fun k current => ?_⟩,
      fun wanted k current => (h.runs wanted k current).imp_left fun runs => ?_⟩
    · by_cases same : k = t
      · subst same
        simpa [here] using asking current
      · simpa [there k same, same] using h.asking k current
    · by_cases same : k = t
      · subst same
        simpa [here, input] using runs
      · simpa [there k same] using runs
  split
  · by_cases current : s.transport = some t
    · have rebuilt : s'.rebuild turn t = s'.abandon turn .rebuild := by
        refine if_neg ?_
        have current : s'.transport = some t := current
        have closing : s'.closing = false := h.open_.1
        have closed : s'.closed = false := h.open_.2
        simp [current, closing, closed]
      rw [rebuilt]
      exact abandon left (by simp)
    · have stale : s'.rebuild turn t = s' := by
        refine if_pos ?_
        have current : s'.transport ≠ some t := current
        simp [current]
      rw [stale]
      exact moved fun same => absurd same current
  · rename_i silent
    rw [here] at silent
    exact moved fun current => (asks (h.asking t current)).resolve_left silent

theorem step (h : CycleInv downs s) (open_ : Unclosed turn)
    (uncycled : s.Uncycled downs turn) : CycleInv (s.downsAfter downs turn) (s.step turn) := by
  unfold BluetoothSwarm.step downsAfter
  unfold Uncycled at uncycled
  unfold Unclosed at open_
  cases move : turn.move with
  | call c =>
    simp only [move] at open_
    exact h.call open_
  | run i =>
    simp only [move] at uncycled
    dsimp only
    split
    · rename_i task found
      split
      · rename_i settled
        exact h.proceed found fun retune => uncycled task found settled retune
      · exact h
    · exact h
  | opened t server central =>
    dsimp only
    split
    · obtain ⟨told, asking⟩ := (h.told t).runOpen server central turn.now
      exact h.setTransport t told (fun current => asking (h.asking t current)) (by simp)
    · exact h
  | drained t call =>
    dsimp only
    split
    · exact h.setTransport_of_power t (Transport.drained_power _ turn.now turn.native call) (by simp)
        (by simp) (by simp)
    · exact h
  | event t e =>
    dsimp only
    cases known : s.created t
    · exact h
    · have noted := h.event turn e known
      cases opened : (s.transports t).life.opened
      · simpa [opened] using noted
      · simpa [opened] using noted

end CycleInv

/-! Runs. -/

/-- A swarm and what its transports have reported. -/
structure Reported where
  swarm : BluetoothSwarm
  downs : Nat → Downs := fun _ => {}

namespace Reported

def step (w : Reported) (turn : Turn) : Reported where
  swarm := w.swarm.step turn
  downs := w.swarm.downsAfter w.downs turn

/-- The swarm as constructed, of which nothing is known yet. -/
def initial (cfg : Config) (ids : Ref → PeripheralId) (supported : Bool) (topic : Option Bytes)
    (online : Bool) : Reported where
  swarm := create cfg ids supported topic online

/-- In a run in which no `setTopic()` resumes a transport behind a power cycle of its central,
no rebuild is lost, in whatever order calls, continuations and reports come. -/
theorem cycled_transport_replaced (cfg : Config) (ids : Ref → PeripheralId) (supported : Bool)
    (topic : Option Bytes) (online : Bool) (turns : List Turn)
    (unclosed : Runs.Each step (fun _ turn => Unclosed turn)
      (initial cfg ids supported topic online) turns)
    (uncycled : Runs.Each step (fun w turn => w.swarm.Uncycled w.downs turn)
      (initial cfg ids supported topic online) turns) :
    let w := Runs.run step (initial cfg ids supported topic online) turns
    w.swarm.Replaced w.downs := by
  intro w
  have start : CycleInv (initial cfg ids supported topic online).downs
      (initial cfg ids supported topic online).swarm := CycleInv.create cfg ids supported topic online
  have kept : ∀ (w : Reported) (turn : Turn), CycleInv w.downs w.swarm →
      Unclosed turn ∧ w.swarm.Uncycled w.downs turn → CycleInv (w.step turn).downs (w.step turn).swarm :=
    fun w turn h ok => h.step ok.1 ok.2
  exact (Runs.invariant kept start (Runs.each_and unclosed uncycled)).replaced

instance (s : BluetoothSwarm) (downs : Nat → Downs) (turn : Turn) :
    Decidable (s.Uncycled downs turn) := by
  unfold Uncycled
  rcases turn.move with _ | _ <;> infer_instance

instance (s : BluetoothSwarm) (downs : Nat → Downs) (t : Nat) : Decidable (s.Recovered downs t) := by
  unfold Recovered
  infer_instance

/-- A swarm is started, and its topic changes. -/
def retunedSwarm : List Move :=
  [.call .start, .run 0, .opened 1 .poweredOn .poweredOn, .run 0, .event 1 .serviceAdd,
    .call (.setTopic (some (List.replicate 32 3)))]

/-- The adapter goes down while the suspend of the `setTopic()` drains, and is back only when
its continuation has resumed the transport. -/
theorem cycle_around_retune :
    let w := Runs.run step (initial (Config.plain (List.replicate 32 1) .gatt .ios) id true none false)
      (atOnce (retunedSwarm ++ [.event 1 (.serverState .poweredOff), .event 1 (.centralState .poweredOff),
        .drained 1 0, .run 0, .event 1 (.centralState .poweredOn), .event 1 (.serverState .poweredOn),
        .drained 1 1, .run 0, .run 0, .opened 2 .poweredOn .poweredOn, .run 0]))
    (w.swarm.tasks = [] ∧ w.swarm.transport = some 2 ∧ w.swarm.Recovered w.downs 2) ∧
      w.swarm.Replaced w.downs := by
  intro w
  refine ⟨by decide +kernel, ?_⟩
  exact cycled_transport_replaced (Config.plain (List.replicate 32 1) .gatt .ios) id true none false _
    (by decide +kernel) (by decide +kernel)

/-- The same power cycle is over before the suspend has drained: the request for fresh managers
is dropped, and the transport that went through it is resumed. -/
theorem cycle_in_drain_lost :
    let turns := atOnce (retunedSwarm ++ [.event 1 (.serverState .poweredOff),
      .event 1 (.centralState .poweredOff), .event 1 (.serverState .poweredOn),
      .event 1 (.centralState .poweredOn), .drained 1 0, .run 0])
    let start := initial (Config.plain (List.replicate 32 1) .gatt .ios) id true none false
    let w := Runs.run step start turns
    Runs.Each step (fun _ turn => Unclosed turn) start turns ∧ ¬ w.swarm.Replaced w.downs := by
  intro turns start w
  refine ⟨by decide +kernel, fun replaced => ?_⟩
  have fresh := replaced (by decide +kernel) (by decide +kernel) 1 (by decide +kernel) (by decide +kernel)
  have cycled : (w.swarm.transports 1).core.radio.radioCycled = true := by decide +kernel
  exact Bool.false_ne_true (fresh.symm.trans cycled)

end Reported

end BluetoothSwarm

end BleSwarm
