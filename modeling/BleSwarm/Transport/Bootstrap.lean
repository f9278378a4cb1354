import BleSwarm.Transport.Power
import BleSwarm.Transport.Commands
import BleSwarm.Transport.Yield

/-!
# Hosting the service

The service is added by the handler that hears of the powered server, and the handler
gives up on a halted transport. `resume` advertises what was added before and adds
nothing, so a server that comes up in between is never asked to host.
-/

namespace BleSwarm

namespace Core

variable {env : Env} {c : Core}

/-- A live transport asks a powered server for what it does not host. -/
theorem startServer_hosts (live : env.halted = false) (fresh : c.radio.radioWasDown = false)
    (on : c.radio.serverState = .poweredOn) (bare : c.radio.serviceAdded = false) :
    (c.startServer env).out.any Command.hosts = true := by
  let asked : Core := c.issue (.addService (env.cfg.toServiceUUID none))
  have run : c.startServer env = if env.cfg.pipe = .l2cap then asked.publish env else asked := by
    simp [startServer, live, fresh, on, bare, asked]
  have asks : asked.out.any Command.hosts = true := by simp [asked, issue, Command.hosts]
  have published : (asked.publish env).out.any Command.hosts = true := by
    unfold publish
    split
    · exact asks
    · simp only [issue, List.any_append, asks, Bool.true_or]
  rw [run]
  split
  · exact published
  · exact asks

theorem startScan_hosts (env : Env) (asks : c.out.any Command.hosts = true) :
    (c.startScan env).out.any Command.hosts = true := by
  unfold startScan
  split
  · exact asks
  · split
    · exact asks
    · simp only [armScanRestart, issue, List.any_append, asks, Bool.true_or]

theorem onServerState_hosts (live : env.halted = false) (fresh : c.radio.radioWasDown = false)
    (bare : c.radio.serviceAdded = false) :
    (c.onServerState env .poweredOn).out.any Command.hosts = true := by
  let noted : Core := { c with radio.serverState := .poweredOn }.onState .poweredOn
  have power : noted.power = { c.power with serverState := .poweredOn } := onState_power _ _
  exact startServer_hosts (c := noted) live ((congrArg Power.radioWasDown power).trans fresh)
    (congrArg Power.serverState power) ((congrArg Power.serviceAdded power).trans bare)

/-- Nothing is hosted without a powered server, or on a halted transport. -/
theorem startServer_unhosted (idle : c.radio.serverState ≠ .poweredOn ∨ env.halted = true) :
    c.startServer env = c := by
  simp only [startServer]
  rcases idle with off | halted
  · rw [if_pos off]
    simp
  · rw [if_pos halted]

theorem onServerState_unhosted {s : AdapterState} (idle : s ≠ .poweredOn ∨ env.halted = true) :
    Issues (fun command => command.hosts = false) c (c.onServerState env s) := by
  let noted : Core := { c with radio.serverState := s }.onState s
  have mild : Issues (Mild false false false) c noted := .after (onState_issues _ s) rfl
  have power : noted.power = { c.power with serverState := s } := onState_power _ s
  have idle : noted.radio.serverState ≠ .poweredOn ∨ env.halted = true := by
    rwa [show noted.radio.serverState = s from congrArg Power.serverState power]
  have run : c.onServerState env s =
      if s = .poweredOn then noted.startServer env else if isDown s then noted.onRadioDown else noted := rfl
  rw [run, startServer_unhosted idle]
  have quiet : Issues (fun command => command.hosts = false) c noted :=
    mild.mono fun _ mild => mild.unhosted rfl
  exact .ite quiet (.ite (quiet.trans (.of_same (onRadioDown_rest noted).1)) quiet)

theorem doOpen_unhosted {server : AdapterState} (idle : server ≠ .poweredOn ∨ env.halted = true)
    (central : AdapterState) :
    Issues (fun command => command.hosts = false) c (c.doOpen env server central) := by
  let made : Core := { c with radio.serverState := server, radio.centralState := central }
  have run : (c.doOpen env server central).out = (made.startScan env).out := by
    rw [← startServer_unhosted (c := made) idle]
    rfl
  have scans :
      Issues (Mild env.halted false false) made (made.startScan env) := startScan_issues made
  unfold Issues
  rw [run]
  exact scans.mono fun _ mild => mild.unhosted rfl

theorem doOpen_hosts (live : env.halted = false) (fresh : c.radio.radioWasDown = false)
    (bare : c.radio.serviceAdded = false) (central : AdapterState) :
    (c.doOpen env .poweredOn central).out.any Command.hosts = true := by
  let made : Core := { c with radio.serverState := .poweredOn, radio.centralState := central }
  exact startScan_hosts env (startServer_hosts (c := made) live fresh rfl bare)

end Core

namespace Transport

open BleSwarm.Core

/-- A transport, whether `addService` was called on its server, and whether the server was
reported as powered while the transport ran. -/
structure Hosting where
  transport : Transport
  asked : Bool := false
  heard : Bool := false

namespace Hosting

/-- The opening finds the server powered or an event says that it is, and nothing halts. -/
def hears (t : Transport) : Action → Bool
  | .open server _ _ => !t.life.opened && !t.halted && decide (server = .poweredOn)
  | .input i =>
    match i.event with
    | .serverState s => t.life.opened && !t.halted && decide (s = .poweredOn)
    | _ => false
  | _ => false

def act (w : Hosting) (a : Action) : Hosting where
  transport := w.transport.act a
  asked := w.asked || (w.transport.act a).core.out.any Command.hosts
  heard := w.heard || hears w.transport a

/-- A step that leaves the transport open, live and on a powered server leaves it with a
server that was asked to host. -/
def Hosts (w : Hosting) (a : Action) : Prop :=
  (w.act a).transport.life.opened = true → (w.act a).transport.halted = false →
    (w.act a).transport.core.radio.serverState = .poweredOn → (w.act a).asked = true

/-- No adapter goes down, nobody closes, a suspend has settled before the next resume, and
the native layer adds the service it was asked for. -/
def Steady (w : Hosting) : Action → Prop
  | .input i =>
    match i.event with
    | .serverState s | .centralState s => isDown s = false
    | .serviceAdd => w.asked = true
    | _ => True
  | .resume _ => w.transport.life.drains = []
  | .close _ => False
  | _ => True

/-- An open transport whose server is powered when it is resumed heard so while it ran. -/
def Timely (w : Hosting) : Action → Prop
  | .resume _ => w.transport.life.opened = true →
    w.transport.core.radio.serverState = .poweredOn → w.heard = true
  | _ => True

instance (w : Hosting) (a : Action) : Decidable (w.Hosts a) := inferInstanceAs (Decidable (_ → _))

instance (w : Hosting) (a : Action) : Decidable (w.Steady a) := by
  unfold Steady
  rcases a with ⟨_, _, event⟩ | _
  · rcases event with _ | _ <;> infer_instance
  all_goals infer_instance

instance (w : Hosting) (a : Action) : Decidable (w.Timely a) := by
  unfold Timely
  rcases a with _ | _ <;> infer_instance

/-- A live transport heard of its powered server, and whoever heard asked. -/
structure Kept (w : Hosting) : Prop where
  open_ : w.transport.life.closing = false ∧ w.transport.life.closed = false
  fresh : w.transport.core.radio.radioWasDown = false
  added : w.transport.core.radio.serviceAdded = true → w.asked = true
  told : w.transport.life.opened = true → w.transport.halted = false →
    w.transport.core.radio.serverState = .poweredOn → w.heard = true
  answered : w.heard = w.asked

/-- The opening of a transport that nobody closed. -/
theorem act_open {t : Transport} {server central : AdapterState} {now : Nat}
    (unopened : t.life.opened = false) (open_ : t.life.closing = false) :
    t.act (.open server central now) =
      { t with
        life := { t.life with opened := true }
        core := (t.begin {}).core.doOpen
          { cfg := t.cfg, life := { t.life with opened := true }, now } server central } := by
  simp only [Transport.act, runOpen]
  rw [if_neg, if_neg]
  · rfl
  · simp [open_]
  · simp [unopened]

/-- A live transport that is told of the powered server asks for the service. -/
theorem Kept.asks {w : Hosting} (h : w.Kept) {a : Action} (hears : hears w.transport a = true) :
    (w.act a).asked = true := by
  cases added : w.transport.core.radio.serviceAdded
  · apply Bool.or_eq_true_iff.mpr
    right
    cases a with
    | input i =>
      obtain ⟨now, native, event⟩ := i
      cases event with
      | serverState s =>
        simp only [Hosting.hears, Bool.and_eq_true, decide_eq_true_eq, Bool.not_eq_true'] at hears
        obtain ⟨⟨opened, live⟩, rfl⟩ := hears
        rw [act_input opened]
        exact onServerState_hosts (c := (w.transport.begin native).core) live h.fresh added
      | _ => cases hears
    | «open» server central now =>
      simp only [Hosting.hears, Bool.and_eq_true, decide_eq_true_eq, Bool.not_eq_true'] at hears
      obtain ⟨⟨unopened, live⟩, rfl⟩ := hears
      rw [act_open unopened h.open_.1]
      have running :
          (⟨w.transport.cfg, { w.transport.life with opened := true }, now, {}⟩ : Env).halted =
        false := live
      exact doOpen_hosts (c := (w.transport.begin {}).core) running h.fresh added central
    | _ => cases hears
  · simp [act, h.added added]

/-- Every other step asks for no service. -/
theorem unasked (t : Transport) (open_ : t.life.closing = false) {a : Action} (deaf : hears t a = false) :
    (t.act a).core.out.any Command.hosts = false := by
  have fresh :
      ∀ {native} {c : Core}, Issues (fun command => command.hosts = false) (t.begin native).core c →
      c.out.any Command.hosts = false := by
    intro native c issues
    rw [List.any_eq_false]
    intro command mem
    simpa using (issues command mem).resolve_left List.not_mem_nil
  have mild :
      ∀ halted {native} {c : Core}, Issues (Mild halted false false) (t.begin native).core c →
      c.out.any Command.hosts = false :=
    fun _ _ _ issues => fresh (issues.mono fun _ mild => mild.unhosted rfl)
  cases a with
  | input i =>
    cases opened : t.life.opened
    · rw [act_input_unopened opened]
      rfl
    · rw [act_input opened]
      have ordinary : ∀ {e}, ¬ Special e →
          ((t.begin i.native).handle (t.env i.now i.native) e).core.out.any Command.hosts = false :=
        fun usual => fresh ((handle_proceeds _ _ usual).mild.mono fun _ mild => mild.unhosted rfl)
      cases event : i.event with
      | serverState s =>
        apply fresh
        apply onServerState_unhosted
        cases halted : t.halted
        · exact .inl (by simpa [hears, event, opened, halted] using deaf)
        · exact .inr halted
      | centralState s => exact mild _ (onCentralState_issues _ s)
      | serviceAdd => exact mild _ (onServiceAdd_issues _)
      | connOpen r key => exact mild false (onConnOpen_issues r key _)
      | _ => exact ordinary (by simp [Special])
  | «open» server central now =>
    cases opened : t.life.opened
    · rw [act_open opened open_]
      refine fresh (doOpen_unhosted (c := (t.begin {}).core) ?_ central)
      cases halted : t.halted
      · exact .inl (by simpa [hears, opened, halted] using deaf)
      · exact .inr halted
    · simp [Transport.act, runOpen, opened, begin]
  | suspend now native =>
    have said :
        Issues (Mild false false false) (t.begin native).core (t.act (.suspend now native)).core :=
      .after (sayGoodbye_issues _) rfl
    exact mild false said
  | drained call now native =>
    simp only [Transport.act, drained]
    split
    · exact mild false (teardown_issues (t.begin native).core)
    · rfl
  | resume now =>
    simp only [Transport.act, Transport.resume]
    split
    · rfl
    · exact mild false (doResume_issues (t.begin {}).core)
  | close now =>
    simp only [Transport.act, Transport.close]
    split
    · rfl
    · split
      · exact mild false (doClose_issues (t.begin {}).core)
      · rfl
  | setOnline online now => exact mild _ (setOnline_issues (t.begin {}).core online)
  | setTopic topic =>
    simp only [Transport.act, setTopic, Core.setTopic]
    split <;> rfl

/-- What a step has to show. -/
theorem Kept.carry {w : Hosting} (h : w.Kept) {a : Action}
    (open_ : (w.transport.act a).life.closing = false ∧ (w.transport.act a).life.closed = false)
    (fresh : (w.transport.act a).core.power.radioWasDown = false)
    (added : (w.transport.act a).core.power.serviceAdded = true → w.asked = true)
    (told : (w.transport.act a).life.opened = true → (w.transport.act a).halted = false →
      (w.transport.act a).core.power.serverState = .poweredOn →
      w.heard = true ∨ hears w.transport a = true) : (w.act a).Kept := by
  have kept : w.asked = true → (w.act a).asked = true := fun asked => by simp [act, asked]
  refine ⟨open_, fresh, fun service => kept (added service), ?_, ?_⟩
  · exact fun opened live on => Bool.or_eq_true_iff.mpr (told opened live on)
  · cases hears : hears w.transport a
    · have silent := unasked w.transport h.open_.1 hears
      simp [act, hears, h.answered, silent]
    · rw [h.asks hears]
      simp [act, hears]

/-- A step that keeps what is known of the power and starts nothing. -/
theorem Kept.idle {w : Hosting} (h : w.Kept) {a : Action}
    (power : (w.transport.act a).core.power = w.transport.core.power)
    (open_ : (w.transport.act a).life.closing = w.transport.life.closing ∧
      (w.transport.act a).life.closed = w.transport.life.closed)
    (told : (w.transport.act a).life.opened = true → (w.transport.act a).halted = false →
      w.transport.core.radio.serverState = .poweredOn → w.heard = true) : (w.act a).Kept := by
  refine h.carry ⟨open_.1.trans h.open_.1, open_.2.trans h.open_.2⟩ ?_ ?_ ?_
  · rw [power]
    exact h.fresh
  · rw [power]
    exact h.added
  · rw [power]
    exact fun opened live on => .inl (told opened live on)

theorem Kept.input {w : Hosting} (h : w.Kept) {i : Input} (steady : w.Steady (.input i)) :
    (w.act (.input i)).Kept := by
  have life : (w.transport.act (.input i)).life = w.transport.life := input_life w.transport i
  have halted : (w.transport.act (.input i)).halted = w.transport.halted := by
    simp only [Transport.halted, life]
  have open_ := h.open_
  rw [← life] at open_
  cases opened : w.transport.life.opened
  · have power : (w.transport.act (.input i)).core.power = w.transport.core.power := by
      rw [act_input_unopened opened]
      rfl
    refine h.idle power ⟨by rw [life], by rw [life]⟩ fun later => ?_
    rw [life, opened] at later
    cases later
  · obtain ⟨now, native, event⟩ := i
    by_cases other : Unpowered event
    · refine h.idle (input_power w.transport other) ⟨by rw [life], by rw [life]⟩ fun _ live => ?_
      exact h.told opened (halted ▸ live)
    · have run := act_input (i := ⟨now, native, event⟩) opened
      cases event with
      | serverState s =>
        have power : (w.transport.act (.input ⟨now, native, .serverState s⟩)).core.power =
            { w.transport.core.power with serverState := s } := by
          rw [run]
          refine (onServerState_power _ _ s).trans ?_
          rw [if_neg]
          · rfl
          · rw [show isDown s = false from steady]
            exact Bool.false_ne_true
        refine h.carry open_ ?_ ?_ fun _ live on => .inr ?_
        · rw [power]
          exact h.fresh
        · rw [power]
          exact h.added
        · rw [power] at on
          simp only [hears, opened, ← halted, live]
          simpa using on
      | centralState s =>
        have power : (w.transport.act (.input ⟨now, native, .centralState s⟩)).core.power =
            { w.transport.core.power with centralState := s } := by
          rw [run]
          have up : isDown s = false := steady
          have fresh : (w.transport.begin native).core.radio.radioWasDown = false := h.fresh
          refine (onCentralState_power _ (w.transport.begin native).core s).trans ?_
          simp only [up, fresh, Bool.and_false, Bool.false_and, Bool.false_eq_true, if_false]
          rfl
        refine h.carry open_ ?_ ?_ fun _ live on => .inl ?_
        · rw [power]
          exact h.fresh
        · rw [power]
          exact h.added
        · rw [power] at on
          exact h.told opened (halted ▸ live) on
      | serviceAdd =>
        have power : (w.transport.act (.input ⟨now, native, .serviceAdd⟩)).core.power =
            { w.transport.core.power with serviceAdded := true } := by
          rw [run]
          exact onServiceAdd_power (w.transport.begin native).core
        refine h.carry open_ ?_ (fun _ => steady) fun _ live on => .inl ?_
        · rw [power]
          exact h.fresh
        · rw [power] at on
          exact h.told opened (halted ▸ live) on
      | _ => exact absurd trivial other

theorem Kept.step {w : Hosting} (h : w.Kept) {a : Action} (steady : w.Steady a) (timely : w.Timely a) :
    (w.act a).Kept := by
  cases a with
  | input i => exact h.input steady
  | «open» server central now =>
    cases opened : w.transport.life.opened
    · have power : (w.transport.act (.open server central now)).core.power =
          { w.transport.core.power with serverState := server, centralState := central } := by
        rw [act_open opened h.open_.1]
        exact doOpen_power _ (w.transport.begin {}).core server central
      have halted : (w.transport.act (.open server central now)).halted = w.transport.halted := by
        rw [act_open opened h.open_.1]
        rfl
      refine h.carry ?_ ?_ ?_ fun _ live on => .inr ?_
      · rw [act_open opened h.open_.1]
        exact h.open_
      · rw [power]
        exact h.fresh
      · rw [power]
        exact h.added
      · rw [power] at on
        simp only [hears, opened, ← halted, live]
        simpa using on
    · have same : w.transport.act (.open server central now) = w.transport.begin {} := by
        simp [Transport.act, runOpen, opened]
      refine h.idle ?_ ?_ ?_
      · rw [same]
        rfl
      · rw [same]
        exact ⟨rfl, rfl⟩
      · rw [same]
        exact h.told
  | suspend now native =>
    refine h.idle (suspend_power w.transport now native) ⟨rfl, rfl⟩ fun _ live => ?_
    simp [Transport.act, Transport.halted] at live
  | drained call now native =>
    have halted : (w.transport.act (.drained call now native)).halted = w.transport.halted := by
      simp [Transport.act, Transport.halted]
    refine h.idle (drained_power w.transport now native call) (by simp [Transport.act])
      fun opened live => ?_
    exact h.told (by simpa [Transport.act] using opened) (halted ▸ live)
  | resume now =>
    refine h.idle (resume_power w.transport now) (by simp [Transport.act]) fun opened _ => ?_
    exact timely (by simpa [Transport.act] using opened)
  | close now => exact steady.elim
  | setOnline online now =>
    exact h.idle (setOnline_power w.transport now online) ⟨rfl, rfl⟩ h.told
  | setTopic topic =>
    exact h.idle (setTopic_power w.transport topic) ⟨rfl, rfl⟩ h.told

theorem Kept.hosts {w : Hosting} (h : w.Kept) : w.transport.life.opened = true →
    w.transport.halted = false → w.transport.core.radio.serverState = .poweredOn → w.asked = true :=
  fun opened live on => h.answered.symm.trans (h.told opened live on)

theorem hosts_iff {w : Hosting} (h : w.Kept) {a : Action} (steady : w.Steady a) :
    w.Hosts a ↔ w.Timely a := by
  constructor
  · intro hosts
    cases a with
    | resume now =>
      intro opened on
      have deaf : hears w.transport (.resume now) = false := rfl
      have power := resume_power w.transport now
      have asked : (w.act (.resume now)).asked = w.asked := by
        have silent := unasked w.transport h.open_.1 deaf
        simp [act, silent]
      rw [h.answered, ← asked]
      apply hosts
      · simpa [act, Transport.act] using opened
      · simp [act, Transport.act, Transport.halted, h.open_]
      · exact (congrArg Power.serverState power).trans on
    | _ => trivial
  · exact fun timely => (h.step steady timely).hosts

/-- In a steady run the service is asked for in every state that needs it exactly if no resume finds
the server powered that was not heard of before. -/
theorem service_hosted_iff (cfg : Config) (topic : Option Bytes) (online : Bool)
    (ids : Ref → PeripheralId) (actions : List Action)
    (steady : Runs.Each act Steady { transport := create cfg topic online ids } actions) :
    Runs.Each act Hosts { transport := create cfg topic online ids } actions ↔
      Runs.Each act Timely { transport := create cfg topic online ids } actions := by
  have same : ∀ (w : Hosting) a, w.Kept → w.Steady a → (w.Hosts a ↔ w.Timely a) :=
    fun _ _ h steady => hosts_iff h steady
  have keep : ∀ (w : Hosting) a, w.Kept → w.Steady a → w.Hosts a → (w.act a).Kept :=
    fun _ _ h steady hosts => h.step steady ((hosts_iff h steady).mp hosts)
  refine Runs.each_iff_of_allowed same keep ?_ steady
  exact ⟨⟨rfl, rfl⟩, rfl, by simp [create], by simp [create], rfl⟩

/-- The server comes up before a suspend and a resume. -/
theorem early_server_hosts :
    let w : Hosting := { transport := create (Config.plain [1] .gatt .ios) none false id }
    Runs.Each act Hosts w [.open .unknown .unknown 0,
      .input { now := 100, event := .serverState .poweredOn },
      .suspend 200 {}, .drained 0 300 {}, .resume 400] := by
  intro w
  exact (service_hosted_iff _ _ _ _ _ (by decide +kernel)).mpr (by decide +kernel)

/-- The server comes up while the transport is suspended, and the resume asks for nothing. -/
theorem late_server_unhosted :
    let w : Hosting := { transport := create (Config.plain [1] .gatt .ios) none false id }
    let actions := [.open .unknown .unknown 0, .suspend 100 {}, .drained 0 200 {},
      .input { now := 300, event := .serverState .poweredOn }, .resume 400]
    Runs.Each act Steady w actions ∧ ¬ Runs.Each act Hosts w actions := by
  decide +kernel

end Hosting

end Transport

end BleSwarm
