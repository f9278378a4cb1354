import BleSwarm.Transport.Frames
import BleSwarm.Transport.Performs.Handlers

/-!
# What begins, and what it traces back to

Sessions, streams, links and channel openings begin in a few places, each with a frame, an
event or a fragment that came to the transport from outside. `Evidence` is what came, and
`Traces` lists the beginnings with what they rest on. Everything else `NoneBegins`: it begins
nothing, and CLOSE is all that it says.
-/

namespace BleSwarm

/-- What came to a transport from outside. -/
structure Evidence where
  /-- The frame was written to the server. -/
  written : Bytes → Prop
  /-- The frame was notified by the server behind the peripheral. -/
  notified : Ref → Bytes → Prop
  /-- The native server reported the psm. -/
  published : Nat → Prop
  /-- The fragment was handed to the gatt stream to be sent. -/
  handed : Ref → Bytes → Prop
  /-- The stream was bound to its peripheral object when a session was started on that. -/
  reused : Ref → Prop

namespace Evidence

/-- More evidence. -/
structure Le (ev ev' : Evidence) : Prop where
  written : ∀ frame, ev.written frame → ev'.written frame
  notified : ∀ p frame, ev.notified p frame → ev'.notified p frame
  published : ∀ psm, ev.published psm → ev'.published psm
  handed : ∀ st payload, ev.handed st payload → ev'.handed st payload
  reused : ∀ st, ev.reused st → ev'.reused st

instance : LE Evidence := ⟨Le⟩

/-- Anything may have come. -/
def all : Evidence where
  written _ := True
  notified _ _ := True
  published _ := True
  handed _ _ := True
  reused _ := True

/-- Anything but a frame for the server. -/
def unwritten : Evidence := { all with written := fun _ => False }

theorem le_all (ev : Evidence) : ev ≤ all :=
  ⟨fun _ _ => trivial, fun _ _ _ => trivial, fun _ _ => trivial, fun _ _ _ => trivial,
    fun _ _ => trivial⟩

/-- An OPEN was written. -/
def OpenWritten (ev : Evidence) (id : Hex) (key : Bytes) (flags : Byte) : Prop :=
  ∃ frame psm, ev.written frame ∧ Core.Reads frame typeOpen id ⟨key, flags, psm⟩

/-- A HELLO was notified. -/
def HelloNotified (ev : Evidence) (p : Ref) (id : Hex) (said : KeyPayload) : Prop :=
  ∃ frame, ev.notified p frame ∧ Core.Reads frame typeHello id said

theorem OpenWritten.mono {ev ev' : Evidence} (le : ev ≤ ev') {id : Hex} {key : Bytes} {flags : Byte}
    (asked : ev.OpenWritten id key flags) : ev'.OpenWritten id key flags := by
  obtain ⟨frame, psm, written, reads⟩ := asked
  exact ⟨frame, psm, le.written frame written, reads⟩

theorem HelloNotified.mono {ev ev' : Evidence} (le : ev ≤ ev') {p : Ref} {id : Hex}
    {said : KeyPayload}
    (told : ev.HelloNotified p id said) : ev'.HelloNotified p id said := by
  obtain ⟨frame, notified, reads⟩ := told
  exact ⟨frame, le.notified p frame notified, reads⟩

end Evidence

namespace Core

variable {env : Env} {c c' c'' : Core}

/-- Nothing begins, and CLOSE is all that is said. -/
structure NoneBegins (c c' : Core) : Prop where
  conns : c.links.conns.Alike Conn.identity c'.links.conns
  streams : c.streams.Alike Stream.content c'.streams
  table : ∀ id r, c'.server.table.get? id = some r → c.server.table.get? id = some r
  sessions : c.server.sessions.Alike ServerSession.identity c'.server.sessions
  psm : ∀ port, c'.server.psm = some port → c.server.psm = some port
  started : c.central.sessions.Alike CentralSession.id c'.central.sessions
  attempts : c.central.attempts.Alike OpenAttempt.identity c'.central.attempts
  idle : ∀ a, Idle (c.central.attempts.get a) → Idle (c'.central.attempts.get a)
  session : ∀ p s, (c'.peripheral p).session = some s → (c.peripheral p).session = some s
  stream : ∀ p st, (c'.peripheral p).stream = some st → (c.peripheral p).stream = some st
  gatt : c.gatt.Passes (fun frame => frame.head? = some typeClose) c'.gatt
  out : Says Command.plain c c'

namespace NoneBegins

theorem trans (h : NoneBegins c c') (h' : NoneBegins c' c'') : NoneBegins c c'' where
  conns := h.conns.trans h'.conns
  streams := h.streams.trans h'.streams
  table id r entry := h.table id r (h'.table id r entry)
  sessions := h.sessions.trans h'.sessions
  psm port known := h.psm port (h'.psm port known)
  started := h.started.trans h'.started
  attempts := h.attempts.trans h'.attempts
  idle a idle := h'.idle a (h.idle a idle)
  session p s current := h.session p s (h'.session p s current)
  stream p st bound := h.stream p st (h'.stream p st bound)
  gatt := h.gatt.trans h'.gatt
  out := h.out.trans h'.out

/-- A quiet operation that learns of no psm and says only what is plain. -/
theorem of_quiet (quiet : Quiet c c')
    (psm : ∀ port, c'.server.psm = some port → c.server.psm = some port)
    (gatt : c.gatt.Passes (fun frame => frame.head? = some typeClose) c'.gatt)
    (out : Says Command.plain c c') : NoneBegins c c' where
  conns := .of_eq (by rw [quiet.links])
  streams := .of_eq quiet.streams
  table id r entry := quiet.table ▸ entry
  sessions := .of_eq quiet.sessions
  psm := psm
  started := .of_eq (by rw [quiet.central])
  attempts := .of_eq (by rw [quiet.central])
  idle a idle := quiet.central ▸ idle
  session p s current := by rwa [peripheral, quiet.central] at current
  stream p st bound := by rwa [peripheral, quiet.central] at bound
  gatt := gatt
  out := out

/-- A change of the radio, the dials and the like. -/
theorem still (same : (c'.rest, c'.server.psm, c'.gatt, c'.out) =
    (c.rest, c.server.psm, c.gatt, c.out)) :
    NoneBegins c c' := by
  simp only [Prod.mk.injEq] at same
  exact .of_quiet (.of_rest same.1) (fun _ known => same.2.1 ▸ known) (.of_same (by rw [same.2.2.1]) (by rw [same.2.2.1]))
    (.of_same same.2.2.2)

theorem refl (c : Core) : NoneBegins c c := .still rfl

theorem issue (c : Core) {command : Command} (plain : command.plain) :
    NoneBegins c (c.issue command) :=
  .of_quiet (issue_quiet c command) (fun _ => id) (.refl _) (.issue c plain)

theorem ite {p : Prop} [Decidable p] {a b : Core} (ha : NoneBegins c a) (hb : NoneBegins c b) :
    NoneBegins c (if p then a else b) := by
  split
  · exact ha
  · exact hb

theorem foldl {α : Type*} {f : Core → α → Core} (step : ∀ c a, NoneBegins c (f c a)) (c : Core)
    (as : List α) : NoneBegins c (as.foldl f c) :=
  Runs.foldl_related refl trans step c as

theorem andThen (h : NoneBegins c c') {f : Core → Core} (op : ∀ c, NoneBegins c (f c)) :
    NoneBegins c (f c') := h.trans (op c')

end NoneBegins

/-! Elementary changes. -/

theorem dial_noneBegins (c : Core) (dial : Dial) : NoneBegins c { c with dial } := .still rfl

theorem radio_noneBegins (c : Core) (radio : Radio) : NoneBegins c { c with radio } := .still rfl

theorem RadioOnly.noneBegins (h : RadioOnly c c') : NoneBegins c c' :=
  .of_quiet h.quiet h.psm (.of_same (by rw [h.gatt]) (by rw [h.gatt]))
    (h.out.mono fun _ => Command.plain_of_peerless)

theorem maybeCycle_noneBegins (c : Core) : NoneBegins c (c.maybeCycle env) := by
  have flagged : ∀ pending, NoneBegins c { c with server.cyclePending := pending } :=
    fun _ => .still rfl
  exact .ite (flagged true) ((flagged false).trans (cycle_radioOnly env _).noneBegins)

theorem gatt_noneBegins (c : Core) {gatt : NotifyQueue}
    (passes : c.gatt.Passes (fun frame => frame.head? = some typeClose) gatt) :
    NoneBegins c { c with gatt } :=
  .of_quiet (gatt_quiet c gatt) (fun _ => id) passes (.of_same rfl)

/-- Links whose streams, directions and keys are as before. -/
theorem links_noneBegins (c : Core) {links : Links}
    (alike : c.links.conns.Alike Conn.identity links.conns) : NoneBegins c { c with links } :=
  { NoneBegins.refl c with conns := alike }

theorem streams_noneBegins (c : Core) {streams : Heap Stream}
    (alike : c.streams.Alike Stream.content streams) : NoneBegins c { c with streams } :=
  { NoneBegins.refl c with streams := alike }

theorem sessions_noneBegins (c : Core) {table : OrderedMap Hex Ref} {sessions : Heap ServerSession}
    (fewer : ∀ id r, table.get? id = some r → c.server.table.get? id = some r)
    (alike : c.server.sessions.Alike ServerSession.identity sessions) :
    NoneBegins c { c with server.table := table, server.sessions := sessions } :=
  { NoneBegins.refl c with table := fewer, sessions := alike }

theorem readers_noneBegins (c : Core) (acceptors : Heap Acceptor) (readers : Ref → List Reader) :
    NoneBegins c { c with server.acceptors := acceptors, server.readers := readers } :=
  { NoneBegins.refl c with }

theorem central_noneBegins {resumes : Prop} (c : Core) {central : Central}
    (keeps : c.central.Keeps False False resumes central) : NoneBegins c { c with central } :=
  { NoneBegins.refl c with
    started := keeps.sessions.resolve_left id
    attempts := (keeps.attempts.fixed.resolve_left id).1
    idle := (keeps.attempts.fixed.resolve_left id).2
    session := keeps.session.resolve_left id
    stream := keeps.stream.resolve_left id }

end Core

/-- Nothing begins and nothing is received. -/
def Effects.unbegun : Effects := { Effects.all with starts := false, receives := false, begins := false }

namespace Core

variable {env : Env} {c c' c'' : Core}

theorem Performs.noneBegins {effects : Effects} (h : Performs env effects c c')
    (starts : effects.starts = false) (receives : effects.receives = false)
    (begins : effects.begins = false) : NoneBegins c c' := by
  induction h with
  | refl c => exact .refl c
  | trans _ _ ih ih' => exact ih.trans ih'
  | issue c minor => exact .issue c (Command.plain_of_minor minor)
  | connect c p live settles => exact .issue c trivial
  | sendOpen c p id payload starts yes => simp [begins] at yes
  | askChannel c p psm yes => simp [begins] at yes
  | maybeCycle c serves due => exact maybeCycle_noneBegins c
  | note c state huntUntil online noted => exact radio_noneBegins c _
  | startScan c scans => exact (startScan_radioOnly env c).noneBegins
  | stopScan c scans => exact (stopScan_radioOnly c).noneBegins
  | armScanRestart c live => exact radio_noneBegins c _
  | onScanTimer c scans => exact (onScanTimer_radioOnly env c).noneBegins
  | dial c dial calm steady strays outlook => exact dial_noneBegins c dial
  | links c links fades holds alike =>
    exact links_noneBegins c (alike.resolve_left (by simp [begins]))
  | gatt c gatt passes =>
    exact gatt_noneBegins c (passes.mono fun _ said => said.resolve_right (by simp [begins]))
  | streams c streams joins flows makes opens =>
    exact streams_noneBegins c (makes.content.resolve_left (by simp [receives, begins]))
  | sessions c table sessions serves fewer alike =>
    exact sessions_noneBegins c (fewer.resolve_left (by simp [begins]))
      (alike.resolve_left (by simp [begins]))
  | channels c streams acceptors readers joins carried makes channels =>
    have alike := makes.content.resolve_left (by simp [receives, begins])
    exact (streams_noneBegins c alike).trans (readers_noneBegins _ acceptors readers)
  | central c central keeps =>
    rw [starts, begins] at keeps
    exact central_noneBegins c (keeps.mono Bool.false_ne_true Bool.false_ne_true id)

theorem NoneBegins.of_performs (env : Env) (h : Performs env .unbegun c c') : NoneBegins c c' :=
  h.noneBegins rfl rfl rfl

/-! What begins. -/

/-- A HELLO for the session came from a peer to link with. -/
def Greeted (ev : Evidence) (cfg : Config) (c : Core) (p sess : Ref) (key : Bytes) : Prop :=
  ∃ flags psm, ev.HelloNotified p (c.central.sessions.get sess).id ⟨key, flags, psm⟩ ∧
    cfg.accept key = true ∧ cfg.pipeFor flags = some cfg.pipe

/-- Such a HELLO just came, or a channel is being opened because of one. -/
def Invited (ev : Evidence) (cfg : Config) (c : Core) (p sess : Ref) (key : Bytes) : Prop :=
  Greeted ev cfg c p sess key ∨
    ∃ a, ¬ Idle (c.central.attempts.get a) ∧ (c.central.attempts.get a).identity = (p, sess, key)

/-- What a link has to do with the session of the stream that it rides. -/
def Rides (ev : Evidence) (cfg : Config) (c : Core) (conn : Conn) : Owner → Prop
  | .server r => conn.isInitiator = false ∧ conn.announced = (c.session r).announced
  | .central p sess => conn.isInitiator = true ∧ Invited ev cfg c p sess conn.announced

/-- A chunk for a stream: out of a DATA frame for its session, or from its channel. -/
inductive Delivered (ev : Evidence) (c : Core) (st : Ref) : Pipe → Bytes → Prop
  | server {id : Hex} {r : Ref} {frame chunk : Bytes} (entry : c.server.table.get? id = some r)
    (bound : (c.session r).stream = some st) (written : ev.written frame)
    (decoded : decodeFrame (some frame) = some ⟨typeData, id, chunk⟩) : Delivered ev c st .gatt chunk
  | central {p sess : Ref} {frame chunk : Bytes} (current : (c.peripheral p).session = some sess)
    (bound : (c.peripheral p).stream = some st) (notified : ev.notified p frame)
    (decoded : decodeFrame (some frame) =
      some ⟨typeData, (c.central.sessions.get sess).id, chunk⟩) : Delivered ev c st .gatt chunk
  | channel (chunk : Bytes) : Delivered ev c st .l2cap chunk

inductive Traces (env : Env) (ev : Evidence) : Core → Core → Prop
  | trans {c c' c'' : Core} : Traces env ev c c' → Traces env ev c' c'' → Traces env ev c c''
  | noneBegins {c c' : Core} (h : NoneBegins c c') : Traces env ev c c'
  | listen (c : Core) {psm : Nat} (published : ev.published psm) :
    Traces env ev c { c with server.psm := some psm }
  /-- An OPEN is accepted. -/
  | accept (c : Core) {id : Hex} {key : Bytes} {flags : Byte} (asked : ev.OpenWritten id key flags)
    (accepted : env.cfg.accept key = true) (suits : env.cfg.pipeFor flags = some env.cfg.pipe)
    (absent : c.server.table.get? id = none) :
    Traces env ev c { c with
      server.sessions := c.server.sessions.alloc { id, announced := key }
      server.table := c.server.table.set id c.server.sessions.next }
  | greet (c : Core) {id : Hex} {r : Ref} {psm : Option Nat} (entry : c.server.table.get? id = some r)
    (known : ∀ port, psm = some port → c.server.psm = some port) :
    Traces env ev c (c.notify env (helloFrame env.cfg id psm))
  /-- A stream is made for a server session. -/
  | serve (c : Core) (s : Stream) {id : Hex} {r : Ref} (owner : s.owner = .server r)
    (empty : s.received = []) (entry : c.server.table.get? id = some r)
    (unbound : (c.session r).stream = none) :
    Traces env ev c ({ c with streams := c.streams.alloc s }.setSession r fun x =>
      { x with pipeTimer := none, stream := some c.streams.next })
  | start (c : Core) {p : Ref} (clear : ∀ st, (c.peripheral p).stream = some st → ev.reused st) :
    Traces env ev c (c.startCentralSession env p)
  /-- A channel is asked for. -/
  | attempt (c : Core) {p sess : Ref} {psm : Nat} {key : Bytes} {flags : Byte} (timer : Option Nat)
    (current : (c.peripheral p).session = some sess)
    (told : ev.HelloNotified p (c.central.sessions.get sess).id ⟨key, flags, some psm⟩)
    (accepted : env.cfg.accept key = true) (suits : env.cfg.pipeFor flags = some env.cfg.pipe) :
    Traces env ev c ({ c with
      central.attempts := c.central.attempts.alloc
        { peripheral := p, session := sess, announced := key, timer } }.issue
          (.openL2CAPChannel p psm))
  /-- A stream is made for a central session. -/
  | dial (c : Core) (s : Stream) {p sess : Ref} {key : Bytes} (owner : s.owner = .central p sess)
    (empty : s.received = []) (current : (c.peripheral p).session = some sess)
    (invited : Invited ev env.cfg c p sess key) :
    Traces env ev c ({ c with streams := c.streams.alloc s }.setPeripheral p fun q =>
      { q with stream := some c.streams.next })
  | link (c : Core) (conn : Conn) (riding : conn.stream < c.streams.next)
    (rides : Rides ev env.cfg c conn (c.streams.get conn.stream).owner) :
    Traces env ev c { c with links.conns := c.links.conns.alloc conn }
  | receive (c : Core) {st : Ref} {via : Pipe} {chunk : Bytes}
    (delivered : Delivered ev c st via chunk) : Traces env ev c (c.receive st via chunk)
  | send (c : Core) {st : Ref} {payload : Bytes} (ackWrites : Bool) (handed : ev.handed st payload) :
    Traces env ev c (c.sendFragment env st payload ackWrites)

namespace Traces

variable {ev : Evidence}

theorem refl (c : Core) : Traces env ev c c := .noneBegins (.refl c)

theorem performs (h : Performs env .unbegun c c') : Traces env ev c c' :=
  .noneBegins (.of_performs env h)

theorem ite {p : Prop} [Decidable p] {a b : Core} (ha : Traces env ev c a) (hb : Traces env ev c b) :
    Traces env ev c (if p then a else b) := by
  split
  · exact ha
  · exact hb

theorem foldl {α : Type*} {f : Core → α → Core} (step : ∀ c a, Traces env ev c (f c a)) (c : Core)
    (as : List α) : Traces env ev c (as.foldl f c) :=
  Runs.foldl_related refl trans step c as

theorem iterate {f : Core → Core} (step : ∀ c, Traces env ev c (f c)) (n : Nat) (c : Core) :
    Traces env ev c (f^[n] c) :=
  Runs.iterate_related refl trans step n c

theorem andThen (h : Traces env ev c c') {f : Core → Core} (op : ∀ c, NoneBegins c (f c)) :
    Traces env ev c (f c') := h.trans (.noneBegins (op c'))

theorem after (h : Traces env ev c' c'') (first : NoneBegins c c') : Traces env ev c c'' :=
  (Traces.noneBegins first).trans h

end Traces

end Core

end BleSwarm
