import BleSwarm.Transport.Traces.Step

/-!
# A transport believes only what it was told

Whatever a transport holds of its peers rests on what came from outside: every server
session on an OPEN that was written to it, every stream, link and channel opening of the
central side on a HELLO that came through the peripheral, every chunk of a gatt stream on a
DATA frame for its session. And a peer hears nothing of it but what it may hold true: an
OPEN of a session that was started, a HELLO of a session that was accepted, or DATA that was
handed to a stream.
-/

namespace BleSwarm.Core

variable {ev ev' : Evidence} {cfg : Config} {c c' c'' : Core}

/-- A HELLO for the central session came from a peer to link with. -/
def Welcomed (ev : Evidence) (cfg : Config) (p s : Ref) (key : Bytes) : Prop :=
  ∃ flags psm, ev.HelloNotified p (cfg.randomId s) ⟨key, flags, psm⟩ ∧ cfg.accept key = true ∧
    cfg.pipeFor flags = some cfg.pipe

/-- The stream has an owner that may have one. -/
def Owned (ev : Evidence) (cfg : Config) (c : Core) (st : Ref) : Owner → Prop
  | .server r => r < c.server.sessions.next ∧ (c.session r).stream = some st
  | .central p s => s < c.central.sessions.next ∧ ∃ key, Welcomed ev cfg p s key

/-- The link is in the direction and under the key of the stream's owner. -/
def Joined (ev : Evidence) (cfg : Config) (c : Core) (conn : Conn) : Owner → Prop
  | .server r => conn.isInitiator = false ∧ conn.announced = (c.session r).announced
  | .central p s => conn.isInitiator = true ∧ Welcomed ev cfg p s conn.announced

/-- The chunk came in a DATA frame for the owner's session. -/
def Sourced (ev : Evidence) (cfg : Config) (c : Core) (st : Ref) (chunk : Bytes) : Owner → Prop
  | .server r => ∃ frame, ev.written frame ∧
    decodeFrame (some frame) = some ⟨typeData, (c.session r).id, chunk⟩
  | .central p s => ev.reused st ∨ ∃ frame, ev.notified p frame ∧
    decodeFrame (some frame) = some ⟨typeData, cfg.randomId s, chunk⟩

/-- What a central writes or asks for. -/
def Stated (ev : Evidence) (cfg : Config) (c : Core) : Command → Prop
  | .send p frame _ => frame.head? = some typeClose ∨
    (∃ s < c.central.sessions.next, frame = openFrame cfg (cfg.randomId s)) ∨
    ∃ st < c.streams.next, ∃ s payload, (c.streams.get st).owner = .central p s ∧
      ev.handed st payload ∧ frame = encodeFrame typeData (cfg.randomId s) payload
  | .openL2CAPChannel p psm => ∃ a < c.central.attempts.next, ∃ s < c.central.sessions.next,
    ∃ key flags, (c.central.attempts.get a).identity = (p, s, key) ∧
      ev.HelloNotified p (cfg.randomId s) ⟨key, flags, some psm⟩ ∧ cfg.accept key = true ∧
      cfg.pipeFor flags = some cfg.pipe
  | _ => True

/-- What a server notifies. -/
def Noted (ev : Evidence) (cfg : Config) (c : Core) (frame : Bytes) : Prop :=
  frame.head? = some typeClose ∨
  (∃ r < c.server.sessions.next, ∃ psm, (∀ port, psm = some port → ev.published port) ∧
    frame = helloFrame cfg (c.session r).id psm) ∨
  ∃ st < c.streams.next, ∃ r payload, (c.streams.get st).owner = .server r ∧
    r < c.server.sessions.next ∧ ev.handed st payload ∧
    frame = encodeFrame typeData (c.session r).id payload

structure Grounded (ev : Evidence) (cfg : Config) (c : Core) : Prop where
  drawn : ∀ s < c.central.sessions.next, (c.central.sessions.get s).id = cfg.randomId s
  current : ∀ p s, (c.peripheral p).session = some s → s < c.central.sessions.next
  asked : ∀ r < c.server.sessions.next, ∃ flags,
    ev.OpenWritten (c.session r).id (c.session r).announced flags ∧
      cfg.accept (c.session r).announced = true ∧ cfg.pipeFor flags = some cfg.pipe
  table : ∀ id r, c.server.table.get? id = some r →
    r < c.server.sessions.next ∧ (c.session r).id = id
  psm : ∀ port, c.server.psm = some port → ev.published port
  attempts : ∀ a, Idle (c.central.attempts.get a) ∨
    (c.central.attempts.get a).session < c.central.sessions.next ∧
      Welcomed ev cfg (c.central.attempts.get a).peripheral (c.central.attempts.get a).session
        (c.central.attempts.get a).announced
  owners : ∀ st < c.streams.next, Owned ev cfg c st (c.streams.get st).owner
  binds : ∀ r < c.server.sessions.next, ∀ st, (c.session r).stream = some st →
    st < c.streams.next ∧ (c.streams.get st).owner = .server r
  links : ∀ r < c.links.conns.next, (c.links.conns.get r).stream < c.streams.next ∧
    Joined ev cfg c (c.links.conns.get r) (c.streams.get (c.links.conns.get r).stream).owner
  slots : ∀ p st, (c.peripheral p).stream = some st → st < c.streams.next ∧
    ∃ s, (c.streams.get st).owner = .central p s ∧
      (ev.reused st ∨ ∀ k, (c.peripheral p).session = some k → k = s)
  received : ∀ st < c.streams.next, ∀ chunk, (.gatt, chunk) ∈ (c.streams.get st).received →
    Sourced ev cfg c st chunk (c.streams.get st).owner
  commands : ∀ command ∈ c.out, Stated ev cfg c command
  accepted : ∀ frame ∈ c.gatt.accepted, Noted ev cfg c frame
  queued : ∀ item ∈ c.gatt.queue, Noted ev cfg c item.frame

/-- A link that the remote opened rides a stream of the server side. -/
theorem Grounded.served (g : Grounded ev cfg c) {r : Ref} (made : r < c.links.conns.next)
    (inbound : (c.links.conns.get r).isInitiator = false) :
    ∃ k, (c.streams.get (c.links.conns.get r).stream).owner = .server k := by
  have joined := (g.links r made).2
  cases owner : (c.streams.get (c.links.conns.get r).stream).owner with
  | server k => exact ⟨k, rfl⟩
  | central p s =>
    rw [owner] at joined
    exact absurd (inbound.symm.trans joined.1) Bool.false_ne_true

/-- Links are announced under keys that the policy accepts. -/
theorem Grounded.link_accepted (g : Grounded ev cfg c) {r : Ref} (made : r < c.links.conns.next) :
    cfg.accept (c.links.conns.get r).announced = true := by
  obtain ⟨riding, joined⟩ := g.links r made
  have owned := g.owners _ riding
  cases owner : (c.streams.get (c.links.conns.get r).stream).owner with
  | server k =>
    rw [owner] at joined owned
    obtain ⟨-, -, accepted, -⟩ := g.asked k owned.1
    rw [joined.2]
    exact accepted
  | central p s =>
    rw [owner] at joined
    obtain ⟨-, flags, psm, -, accepted, -⟩ := joined
    exact accepted

/-! More evidence. -/

theorem Welcomed.mono (le : ev ≤ ev') {p s : Ref} {key : Bytes} (h : Welcomed ev cfg p s key) :
    Welcomed ev' cfg p s key := by
  obtain ⟨flags, psm, told, accepts⟩ := h
  exact ⟨flags, psm, told.mono le, accepts⟩

theorem Noted.mono (le : ev ≤ ev') {frame : Bytes} (h : Noted ev cfg c frame) :
    Noted ev' cfg c frame := by
  rcases h with close | ⟨r, lt, psm, published, hello⟩ |
    ⟨st, lt, r, payload, owner, known, handed, data⟩
  · exact .inl close
  · exact .inr (.inl ⟨r, lt, psm, fun port is => le.published port (published port is), hello⟩)
  · exact .inr (.inr ⟨st, lt, r, payload, owner, known, le.handed st payload handed, data⟩)

theorem Stated.mono (le : ev ≤ ev') {command : Command} (stated : Stated ev cfg c command) :
    Stated ev' cfg c command := by
  cases command with
  | send p frame withResponse =>
    rcases stated with close | opens | ⟨st, lt, s, payload, owner, handed, data⟩
    · exact .inl close
    · exact .inr (.inl opens)
    · exact .inr (.inr ⟨st, lt, s, payload, owner, le.handed st payload handed, data⟩)
  | openL2CAPChannel p psm =>
    obtain ⟨a, made, s, lt, key, flags, same, told, accepts⟩ := stated
    exact ⟨a, made, s, lt, key, flags, same, told.mono le, accepts⟩
  | _ => trivial

theorem Grounded.mono (le : ev ≤ ev') (h : Grounded ev cfg c) : Grounded ev' cfg c where
  drawn := h.drawn
  current := h.current
  asked r lt := by
    obtain ⟨flags, asked, accepts⟩ := h.asked r lt
    exact ⟨flags, asked.mono le, accepts⟩
  table := h.table
  psm port known := le.published port (h.psm port known)
  attempts a := (h.attempts a).imp_right fun ⟨started, welcomed⟩ => ⟨started, welcomed.mono le⟩
  owners st lt := by
    have owned := h.owners st lt
    cases owner : (c.streams.get st).owner with
    | server r =>
      rw [owner] at owned
      exact owned
    | central p s =>
      rw [owner] at owned
      obtain ⟨started, key, welcomed⟩ := owned
      exact ⟨started, key, welcomed.mono le⟩
  binds := h.binds
  links r lt := by
    obtain ⟨riding, joined⟩ := h.links r lt
    refine ⟨riding, ?_⟩
    cases owner : (c.streams.get (c.links.conns.get r).stream).owner with
    | server k =>
      rw [owner] at joined
      exact joined
    | central p s =>
      rw [owner] at joined
      exact ⟨joined.1, joined.2.mono le⟩
  slots p st bound := by
    obtain ⟨lt, s, owner, only⟩ := h.slots p st bound
    exact ⟨lt, s, owner, only.imp_left (le.reused st)⟩
  received st lt chunk mem := by
    have fed := h.received st lt chunk mem
    cases owner : (c.streams.get st).owner with
    | server r =>
      rw [owner] at fed
      obtain ⟨frame, written, decoded⟩ := fed
      exact ⟨frame, le.written frame written, decoded⟩
    | central p s =>
      rw [owner] at fed
      refine fed.imp (le.reused st) ?_
      rintro ⟨frame, notified, decoded⟩
      exact ⟨frame, le.notified p frame notified, decoded⟩
  commands command mem := (h.commands command mem).mono le
  accepted frame mem := (h.accepted frame mem).mono le
  queued item mem := (h.queued item mem).mono le

/-! Whatever a session, a stream or a link is, it stays. -/

structure Lasts (c c' : Core) : Prop where
  sessions : c.server.sessions.next ≤ c'.server.sessions.next
  session : ∀ r < c.server.sessions.next,
    (c'.session r).id = (c.session r).id ∧ (c'.session r).announced = (c.session r).announced
  bound : ∀ r < c.server.sessions.next, ∀ st, (c.session r).stream = some st →
    (c'.session r).stream = some st
  streams : c.streams.next ≤ c'.streams.next
  owner : ∀ st < c.streams.next, (c'.streams.get st).owner = (c.streams.get st).owner
  started : c.central.sessions.next ≤ c'.central.sessions.next
  attempts : c.central.attempts.next ≤ c'.central.attempts.next
  attempt : ∀ a < c.central.attempts.next,
    OpenAttempt.identity (c'.central.attempts.get a) = OpenAttempt.identity (c.central.attempts.get a)
  links : c.links.conns.next ≤ c'.links.conns.next
  link : ∀ r < c.links.conns.next,
    Conn.identity (c'.links.conns.get r) = Conn.identity (c.links.conns.get r)

namespace Lasts

theorem refl (c : Core) : Lasts c c :=
  ⟨le_refl _, fun _ _ => ⟨rfl, rfl⟩, fun _ _ _ => id, le_refl _, fun _ _ => rfl, le_refl _, le_refl _,
    fun _ _ => rfl, le_refl _, fun _ _ => rfl⟩

theorem trans (h : Lasts c c') (h' : Lasts c' c'') : Lasts c c'' where
  sessions := h.sessions.trans h'.sessions
  session r lt := by
    obtain ⟨id, announced⟩ := h'.session r (lt.trans_le h.sessions)
    exact ⟨id.trans (h.session r lt).1, announced.trans (h.session r lt).2⟩
  bound r lt st bound := h'.bound r (lt.trans_le h.sessions) st (h.bound r lt st bound)
  streams := h.streams.trans h'.streams
  owner st lt := (h'.owner st (lt.trans_le h.streams)).trans (h.owner st lt)
  started := h.started.trans h'.started
  attempts := h.attempts.trans h'.attempts
  attempt a lt := (h'.attempt a (lt.trans_le h.attempts)).trans (h.attempt a lt)
  links := h.links.trans h'.links
  link r lt := (h'.link r (lt.trans_le h.links)).trans (h.link r lt)

end Lasts

theorem Owned.lasts (h : Lasts c c') {st : Ref} {owner : Owner} (owned : Owned ev cfg c st owner) :
    Owned ev cfg c' st owner := by
  cases owner with
  | server r => exact ⟨owned.1.trans_le h.sessions, h.bound r owned.1 st owned.2⟩
  | central p s => exact ⟨owned.1.trans_le h.started, owned.2⟩

theorem Joined.lasts (h : Lasts c c') {st : Ref} {conn : Conn} {owner : Owner}
    (owned : Owned ev cfg c st owner) (joined : Joined ev cfg c conn owner) :
    Joined ev cfg c' conn owner := by
  cases owner with
  | server r => exact ⟨joined.1, joined.2.trans (h.session r owned.1).2.symm⟩
  | central p s => exact joined

theorem Sourced.lasts (h : Lasts c c') {st : Ref} {chunk : Bytes} {owner : Owner}
    (owned : Owned ev cfg c st owner) (fed : Sourced ev cfg c st chunk owner) :
    Sourced ev cfg c' st chunk owner := by
  cases owner with
  | server r =>
    obtain ⟨frame, written, decoded⟩ := fed
    exact ⟨frame, written, by rw [decoded, (h.session r owned.1).1]⟩
  | central p s => exact fed

theorem Stated.lasts (h : Lasts c c') {command : Command} (stated : Stated ev cfg c command) :
    Stated ev cfg c' command := by
  cases command with
  | send p frame withResponse =>
    rcases stated with close | ⟨s, lt, opens⟩ | ⟨st, lt, s, payload, owner, handed, data⟩
    · exact .inl close
    · exact .inr (.inl ⟨s, lt.trans_le h.started, opens⟩)
    · exact .inr (.inr ⟨st, lt.trans_le h.streams, s, payload, (h.owner st lt).trans owner,
        handed, data⟩)
  | openL2CAPChannel p psm =>
    obtain ⟨a, made, s, lt, key, flags, same, told⟩ := stated
    exact ⟨a, made.trans_le h.attempts, s, lt.trans_le h.started, key, flags,
      (h.attempt a made).trans same, told⟩
  | _ => trivial

theorem Noted.lasts (h : Lasts c c') {frame : Bytes} (noted : Noted ev cfg c frame) :
    Noted ev cfg c' frame := by
  rcases noted with close | ⟨r, lt, psm, published, hello⟩ |
    ⟨st, lt, r, payload, owner, known, handed, data⟩
  · exact .inl close
  · refine .inr (.inl ⟨r, lt.trans_le h.sessions, psm, published, ?_⟩)
    rw [hello, (h.session r lt).1]
  · refine .inr (.inr ⟨st, lt.trans_le h.streams, r, payload, (h.owner st lt).trans owner,
      known.trans_le h.sessions, handed, ?_⟩)
    rw [data, (h.session r known).1]

/-! What begins leaves a grounded core. -/

variable {env : Env}

theorem NoneBegins.lasts (h : NoneBegins c c') : Lasts c c' where
  sessions := h.sessions.next.ge
  session r _ := by
    have same := h.sessions.view r
    simp only [ServerSession.identity, Prod.mk.injEq] at same
    exact ⟨same.1, same.2.1⟩
  bound r _ st bound := by
    have same := h.sessions.view r
    simp only [ServerSession.identity, Prod.mk.injEq] at same
    exact same.2.2.trans bound
  streams := h.streams.next.ge
  owner st _ := by
    have same := h.streams.view st
    simp only [Stream.content, Prod.mk.injEq] at same
    exact same.2.1
  started := h.started.next.ge
  attempts := h.attempts.next.ge
  attempt a _ := h.attempts.view a
  links := h.conns.next.ge
  link r _ := h.conns.view r

theorem NoneBegins.grounded (h : NoneBegins c c') (g : Grounded ev cfg c) : Grounded ev cfg c' := by
  have lasts := h.lasts
  have lt : ∀ st < c'.streams.next, st < c.streams.next := fun st lt => h.streams.next ▸ lt
  have owner : ∀ st, (c'.streams.get st).owner = (c.streams.get st).owner := by
    intro st
    have same := h.streams.view st
    simp only [Stream.content, Prod.mk.injEq] at same
    exact same.2.1
  constructor
  · intro s started
    rw [h.started.view s]
    exact g.drawn s (h.started.next ▸ started)
  · intro p s current
    exact (g.current p s (h.session p s current)).trans_le lasts.started
  · intro r known
    have known : r < c.server.sessions.next := h.sessions.next ▸ known
    rw [(lasts.session r known).1, (lasts.session r known).2]
    exact g.asked r known
  · intro id r entry
    obtain ⟨known, own⟩ := g.table id r (h.table id r entry)
    exact ⟨known.trans_le lasts.sessions, (lasts.session r known).1.trans own⟩
  · exact fun port known => g.psm port (h.psm port known)
  · intro a
    refine (g.attempts a).imp (h.idle a) ?_
    rintro ⟨started, welcomed⟩
    have same := h.attempts.view a
    simp only [OpenAttempt.identity, Prod.mk.injEq] at same
    rw [same.1, same.2.1, same.2.2]
    exact ⟨started.trans_le lasts.started, welcomed⟩
  · intro st there
    rw [owner st]
    exact (g.owners st (lt st there)).lasts lasts
  · intro r known st bound
    have same := h.sessions.view r
    simp only [ServerSession.identity, Prod.mk.injEq] at same
    obtain ⟨there, owns⟩ := g.binds r (h.sessions.next ▸ known) st (same.2.2.symm.trans bound)
    exact ⟨there.trans_le lasts.streams, (owner st).trans owns⟩
  · intro r there
    have same := h.conns.view r
    simp only [Conn.identity, Prod.mk.injEq] at same
    obtain ⟨riding, joined⟩ := g.links r (h.conns.next ▸ there)
    have joined := joined.lasts lasts (g.owners _ riding)
    rw [same.1]
    refine ⟨riding.trans_le lasts.streams, ?_⟩
    rw [owner]
    cases owner : (c.streams.get (c.links.conns.get r).stream).owner with
    | server k =>
      rw [owner] at joined
      exact ⟨same.2.1.trans joined.1, same.2.2.trans joined.2⟩
    | central p s =>
      rw [owner] at joined
      exact ⟨same.2.1.trans joined.1, same.2.2 ▸ joined.2⟩
  · intro p st bound
    obtain ⟨there, s, owns, only⟩ := g.slots p st (h.stream p st bound)
    refine ⟨there.trans_le lasts.streams, s, (owner st).trans owns,
      only.imp_right fun only k current => ?_⟩
    exact only k (h.session p k current)
  · intro st there chunk mem
    have same := h.streams.view st
    simp only [Stream.content, Prod.mk.injEq] at same
    rw [same.2.2] at mem
    rw [owner st]
    exact (g.received st (lt st there) chunk mem).lasts lasts (g.owners st (lt st there))
  · obtain ⟨more, out, plain⟩ := h.out
    intro command mem
    rw [out] at mem
    rcases List.mem_append.mp mem with old | new
    · exact (g.commands command old).lasts lasts
    · have plain := plain command new
      cases command with
      | send p frame withResponse => exact .inl plain
      | openL2CAPChannel p psm => exact plain.elim
      | _ => trivial
  · intro frame mem
    obtain ⟨sent, accepted, from_⟩ := h.gatt.accepted
    rw [accepted] at mem
    rcases List.mem_append.mp mem with old | new
    · exact (g.accepted frame old).lasts lasts
    · rcases from_ frame new with ⟨item, queued, rfl⟩ | close
      · exact (g.queued item queued).lasts lasts
      · exact .inl close
  · intro item mem
    rcases h.gatt.queued item mem with old | close
    · exact (g.queued item old).lasts lasts
    · exact .inl close

/-- A frame that is queued goes out after those before it. -/
theorem Grounded.notify (g : Grounded ev cfg c) (env : Env) {frame : Bytes}
    (noted : Noted ev cfg c frame) :
    Grounded ev cfg (c.notify env frame) := by
  have passes := c.gatt.notify_passes env.now noted
  refine { g with accepted := fun f mem => ?_, queued := fun item mem => ?_ }
  · obtain ⟨sent, accepted, from_⟩ := passes.accepted
    have mem : f ∈ c.gatt.accepted ++ sent := accepted ▸ mem
    rcases List.mem_append.mp mem with old | new
    · exact g.accepted f old
    · rcases from_ f new with ⟨item, queued, rfl⟩ | new
      · exact g.queued item queued
      · exact new
  · exact (passes.queued item mem).elim (g.queued item) id

theorem Grounded.issue (g : Grounded ev cfg c) {command : Command}
    (stated : Stated ev cfg c command) :
    Grounded ev cfg (c.issue command) := by
  refine { g with commands := fun k mem => ?_ }
  rcases List.mem_append.mp mem with old | new
  · exact g.commands k old
  · rw [List.mem_singleton.mp new]
    exact stated

/-! A session is accepted. -/

theorem accept_lasts (c : Core) (id : Hex) (s : ServerSession) : Lasts c { c with
    server.sessions := c.server.sessions.alloc s
    server.table := c.server.table.set id c.server.sessions.next } := by
  have old : ∀ r < c.server.sessions.next, (c.server.sessions.alloc s).get r = c.session r :=
    fun r lt => c.server.sessions.alloc_get_of_lt s lt
  exact { Lasts.refl c with
    sessions := Nat.le_succ _
    session := fun r lt =>
      ⟨congrArg ServerSession.id (old r lt), congrArg ServerSession.announced (old r lt)⟩
    bound := fun r lt st bound => (congrArg ServerSession.stream (old r lt)).trans bound }

theorem Grounded.accept (g : Grounded ev cfg c) {id : Hex} {key : Bytes} {flags : Byte}
    (asked : ev.OpenWritten id key flags) (accepted : cfg.accept key = true)
    (suits : cfg.pipeFor flags = some cfg.pipe) : Grounded ev cfg { c with
      server.sessions := c.server.sessions.alloc { id, announced := key }
      server.table := c.server.table.set id c.server.sessions.next } := by
  have lasts := accept_lasts c id { id, announced := key }
  let Admitted : Ref → ServerSession → Prop := fun _ s =>
    ∃ flags, ev.OpenWritten s.id s.announced flags ∧
    cfg.accept s.announced = true ∧ cfg.pipeFor flags = some cfg.pipe
  have new : Admitted c.server.sessions.next { id, announced := key } :=
    ⟨flags, asked, accepted, suits⟩
  let Binds : Ref → ServerSession → Prop := fun r s => ∀ st, s.stream = some st →
    st < c.streams.next ∧ (c.streams.get st).owner = .server r
  refine { g with
    asked := c.server.sessions.alloc_forall (P := Admitted) g.asked new
    binds := c.server.sessions.alloc_forall (P := Binds) g.binds nofun
    table := fun k r entry => ?_
    owners := fun st lt => (g.owners st lt).lasts lasts
    links := fun r lt =>
      ⟨(g.links r lt).1, (g.links r lt).2.lasts lasts (g.owners _ (g.links r lt).1)⟩
    received := fun st lt chunk mem => (g.received st lt chunk mem).lasts lasts (g.owners st lt)
    commands := fun command mem => (g.commands command mem).lasts lasts
    accepted := fun frame mem => (g.accepted frame mem).lasts lasts
    queued := fun item mem => (g.queued item mem).lasts lasts }
  rw [OrderedMap.get?_set] at entry
  split at entry
  · rename_i here
    obtain rfl := Option.some.inj entry
    subst here
    exact ⟨Nat.lt_succ_self _, by simp [session]⟩
  · obtain ⟨known, own⟩ := g.table k r entry
    exact ⟨known.trans_le lasts.sessions, (lasts.session r known).1.trans own⟩

/-! A stream is made. -/

/-- A new stream, which nothing has been pushed into. -/
structure Makes (s : Stream) (c c' : Core) : Prop where
  streams : c'.streams = c.streams.alloc s
  empty : s.received = []
  lasts : Lasts c c'

namespace Makes

variable {s : Stream}

theorem owners (h : Makes s c c') (g : Grounded ev cfg c)
    (owned : Owned ev cfg c' c.streams.next s.owner) :
    ∀ st < c'.streams.next, Owned ev cfg c' st (c'.streams.get st).owner := by
  rw [h.streams]
  exact c.streams.alloc_forall (P := fun st s => Owned ev cfg c' st s.owner)
    (fun st lt => (g.owners st lt).lasts h.lasts) owned

theorem received (h : Makes s c c') (g : Grounded ev cfg c) : ∀ st < c'.streams.next, ∀ chunk,
    (.gatt, chunk) ∈ (c'.streams.get st).received →
      Sourced ev cfg c' st chunk (c'.streams.get st).owner := by
  rw [h.streams]
  refine c.streams.alloc_forall (P := fun st s => ∀ chunk, (.gatt, chunk) ∈ s.received →
    Sourced ev cfg c' st chunk s.owner) (fun st lt chunk mem => ?_) fun chunk mem => ?_
  · exact (g.received st lt chunk mem).lasts h.lasts (g.owners st lt)
  · rw [h.empty] at mem
    cases mem

theorem links (h : Makes s c c') (g : Grounded ev cfg c) (same : c'.links = c.links) :
    ∀ r < c'.links.conns.next, (c'.links.conns.get r).stream < c'.streams.next ∧
      Joined ev cfg c' (c'.links.conns.get r)
        (c'.streams.get (c'.links.conns.get r).stream).owner := by
  rw [same]
  intro r lt
  obtain ⟨riding, joined⟩ := g.links r lt
  refine ⟨riding.trans_le h.lasts.streams, ?_⟩
  rw [h.lasts.owner _ riding]
  exact joined.lasts h.lasts (g.owners _ riding)

end Makes

theorem serve_lasts (s : Stream) {r : Ref} (unbound : (c.session r).stream = none) :
    Lasts c ({ c with streams := c.streams.alloc s }.setSession r fun x =>
      { x with pipeTimer := none, stream := some c.streams.next }) := by
  let bind : ServerSession → ServerSession :=
    fun x => { x with pipeTimer := none, stream := some c.streams.next }
  refine { Lasts.refl c with
    session := fun k _ => ⟨c.server.sessions.modify_get_view r k bind ServerSession.id fun _ => rfl,
      c.server.sessions.modify_get_view r k bind ServerSession.announced fun _ => rfl⟩
    bound := fun k _ _ bound => ?_
    streams := Nat.le_succ _
    owner := fun _ lt => congrArg Stream.owner (c.streams.alloc_get_of_lt s lt) }
  by_cases other : k = r
  · subst other
    rw [unbound] at bound
    cases bound
  · exact (congrArg ServerSession.stream (c.server.sessions.modify_get_of_ne bind other)).trans bound

theorem dial_lasts (c : Core) (s : Stream) (p : Ref) (f : Peripheral → Peripheral) :
    Lasts c ({ c with streams := c.streams.alloc s }.setPeripheral p f) :=
  { Lasts.refl c with
    streams := Nat.le_succ _
    owner := fun _ lt => congrArg Stream.owner (c.streams.alloc_get_of_lt s lt) }

theorem receive_lasts (c : Core) (st : Ref) (via : Pipe) (chunk : Bytes) :
    Lasts c (c.receive st via chunk) := by
  let push : Stream → Stream := fun s => { s with received := s.received ++ [(via, chunk)] }
  exact { Lasts.refl c with
    owner := fun k _ => c.streams.modify_get_view st k push Stream.owner fun _ => rfl }

theorem sendFragment_lasts (env : Env) (c : Core) (st : Ref) (payload : Bytes) (ackWrites : Bool) :
    Lasts c (c.sendFragment env st payload ackWrites) := by
  simp only [sendFragment]
  split
  · split <;> exact { Lasts.refl c with }
  · exact .refl c

theorem attempt_lasts (c : Core) (a : OpenAttempt) :
    Lasts c { c with central.attempts := c.central.attempts.alloc a } :=
  { Lasts.refl c with
    attempts := Nat.le_succ _
    attempt := fun _ lt => congrArg OpenAttempt.identity (c.central.attempts.alloc_get_of_lt a lt) }

theorem Traces.lasts (h : Traces env ev c c') : Lasts c c' := by
  induction h with
  | trans _ _ ih ih' => exact ih.trans ih'
  | noneBegins h => exact h.lasts
  | accept c asked accepted suits absent => exact accept_lasts c _ _
  | serve c s owner empty entry unbound => exact serve_lasts s unbound
  | start c clear => exact { Lasts.refl c with started := Nat.le_succ _ }
  | attempt c timer current told accepted suits => exact (attempt_lasts c _).trans { Lasts.refl _ with }
  | dial c s owner empty current invited => exact dial_lasts c s _ _
  | link c conn riding rides =>
    exact { Lasts.refl c with
      links := Nat.le_succ _
      link := fun _ lt => congrArg Conn.identity (c.links.conns.alloc_get_of_lt conn lt) }
  | receive c delivered => exact receive_lasts c _ _ _
  | send c ackWrites handed => exact sendFragment_lasts env c _ _ ackWrites
  | _ => exact { Lasts.refl _ with }

theorem Grounded.serve (g : Grounded ev cfg c) (s : Stream) {id : Hex} {r : Ref}
    (owner : s.owner = .server r) (empty : s.received = []) (entry : c.server.table.get? id = some r)
    (unbound : (c.session r).stream = none) :
    Grounded ev cfg ({ c with streams := c.streams.alloc s }.setSession r fun x =>
      { x with pipeTimer := none, stream := some c.streams.next }) := by
  let bind : ServerSession → ServerSession :=
    fun x => { x with pipeTimer := none, stream := some c.streams.next }
  let made : Core := { c with streams := c.streams.alloc s }.setSession r bind
  have same : ∀ k, (made.session k).id = (c.session k).id ∧
      (made.session k).announced = (c.session k).announced := fun k =>
    ⟨c.server.sessions.modify_get_view r k bind ServerSession.id fun _ => rfl,
      c.server.sessions.modify_get_view r k bind ServerSession.announced fun _ => rfl⟩
  have here : made.session r = bind (c.session r) := c.server.sessions.modify_get_self r bind
  have makes : Makes s c made := ⟨rfl, empty, serve_lasts s unbound⟩
  refine { g with
    asked := fun k lt => by rw [(same k).1, (same k).2]; exact g.asked k lt
    table := fun k x entry => ⟨(g.table k x entry).1, (same x).1.trans (g.table k x entry).2⟩
    owners := makes.owners g ?_
    binds := fun k lt st bound => ?_
    links := makes.links g rfl
    slots := fun p st bound => ?_
    received := makes.received g
    commands := fun command mem => (g.commands command mem).lasts makes.lasts
    accepted := fun frame mem => (g.accepted frame mem).lasts makes.lasts
    queued := fun item mem => (g.queued item mem).lasts makes.lasts }
  · rw [owner]
    exact ⟨(g.table id r entry).1, congrArg ServerSession.stream here⟩
  · have bound : (made.session k).stream = some st := bound
    by_cases other : k = r
    · subst other
      rw [here] at bound
      obtain rfl := Option.some.inj bound
      exact ⟨Nat.lt_succ_self _, (congrArg Stream.owner (c.streams.alloc_get_next s)).trans owner⟩
    · have kept : made.session k = c.session k := c.server.sessions.modify_get_of_ne bind other
      rw [kept] at bound
      obtain ⟨there, owns⟩ := g.binds k lt st bound
      exact ⟨there.trans_le makes.lasts.streams, (makes.lasts.owner st there).trans owns⟩
  · obtain ⟨lt, k, owns, only⟩ := g.slots p st bound
    exact ⟨lt.trans_le makes.lasts.streams, k, (makes.lasts.owner st lt).trans owns, only⟩

theorem Grounded.invited (g : Grounded ev cfg c) {p sess : Ref} {key : Bytes}
    (started : sess < c.central.sessions.next) (invited : Invited ev cfg c p sess key) :
    Welcomed ev cfg p sess key := by
  rcases invited with ⟨flags, psm, told, accepts⟩ | ⟨a, busy, same⟩
  · rw [g.drawn sess started] at told
    exact ⟨flags, psm, told, accepts⟩
  · obtain ⟨-, welcomed⟩ := (g.attempts a).resolve_left busy
    simp only [OpenAttempt.identity, Prod.mk.injEq] at same
    rw [same.1, same.2.1, same.2.2] at welcomed
    exact welcomed

theorem Grounded.dial (g : Grounded ev cfg c) (s : Stream) {p sess : Ref} {key : Bytes}
    (owner : s.owner = .central p sess) (empty : s.received = [])
    (current : (c.peripheral p).session = some sess) (invited : Invited ev cfg c p sess key) :
    Grounded ev cfg ({ c with streams := c.streams.alloc s }.setPeripheral p fun q =>
      { q with stream := some c.streams.next }) := by
  let slot : Peripheral → Peripheral := fun q => { q with stream := some c.streams.next }
  let made : Core := { c with streams := c.streams.alloc s }.setPeripheral p slot
  have here : made.peripheral p = slot (c.peripheral p) := Function.update_self _ _ _
  have others : ∀ k ≠ p, made.peripheral k = c.peripheral k :=
    fun k other => Function.update_of_ne other _ _
  have sessions : ∀ k, (made.peripheral k).session = (c.peripheral k).session := by
    intro k
    by_cases other : k = p
    · subst other
      rw [here]
    · rw [others k other]
  have makes : Makes s c made := ⟨rfl, empty, dial_lasts c s p slot⟩
  have started : sess < c.central.sessions.next := g.current p sess current
  refine { g with
    current := fun k x holds => g.current k x (sessions k ▸ holds)
    owners := makes.owners g ?_
    binds := fun r lt st bound => ⟨(g.binds r lt st bound).1.trans_le makes.lasts.streams,
      (makes.lasts.owner st (g.binds r lt st bound).1).trans (g.binds r lt st bound).2⟩
    links := makes.links g rfl
    slots := fun k st bound => ?_
    received := makes.received g
    commands := fun command mem => (g.commands command mem).lasts makes.lasts
    accepted := fun frame mem => (g.accepted frame mem).lasts makes.lasts
    queued := fun item mem => (g.queued item mem).lasts makes.lasts }
  · rw [owner]
    exact ⟨started, key, g.invited started invited⟩
  · have bound : (made.peripheral k).stream = some st := bound
    by_cases other : k = p
    · subst other
      rw [here] at bound
      obtain rfl := Option.some.inj bound
      refine ⟨Nat.lt_succ_self _, sess, ?_, .inr fun x holds => ?_⟩
      · exact (congrArg Stream.owner (c.streams.alloc_get_next s)).trans owner
      · have holds : (made.peripheral k).session = some x := holds
        rw [sessions, current] at holds
        exact (Option.some.inj holds).symm
    · rw [others k other] at bound
      obtain ⟨lt, x, owns, only⟩ := g.slots k st bound
      refine ⟨lt.trans_le makes.lasts.streams, x, (makes.lasts.owner st lt).trans owns, ?_⟩
      exact only.imp_right fun only y holds => only y (sessions k ▸ holds)

/-! The rest of what begins. -/

theorem Grounded.start (g : Grounded ev env.cfg c) {p : Ref}
    (clear : ∀ st, (c.peripheral p).stream = some st → ev.reused st) :
    Grounded ev env.cfg (c.startCentralSession env p) := by
  let slot : Peripheral → Peripheral :=
    fun q => { q with session := some c.central.sessions.next, char := true }
  let started : Core := { c with
    central.sessions := c.central.sessions.alloc { id := env.cfg.randomId c.central.sessions.next }
  }.setPeripheral p slot
  have here : started.peripheral p = slot (c.peripheral p) := Function.update_self _ _ _
  have others : ∀ k ≠ p, started.peripheral k = c.peripheral k :=
    fun k other => Function.update_of_ne other _ _
  have lasts : Lasts c started := { Lasts.refl c with started := Nat.le_succ _ }
  let Draws : Ref → CentralSession → Prop := fun s x => x.id = env.cfg.randomId s
  have drawn :
      Draws c.central.sessions.next { id := env.cfg.randomId c.central.sessions.next } := rfl
  have grounded : Grounded ev env.cfg started := by
    refine { g with
      drawn := c.central.sessions.alloc_forall (P := Draws) g.drawn drawn
      current := fun k s holds => ?_
      attempts := fun a => (g.attempts a).imp_right fun ⟨known, welcomed⟩ =>
        ⟨known.trans_le lasts.started, welcomed⟩
      owners := fun st lt => (g.owners st lt).lasts lasts
      links := fun r lt =>
        ⟨(g.links r lt).1, (g.links r lt).2.lasts lasts (g.owners _ (g.links r lt).1)⟩
      slots := fun k st bound => ?_
      received := fun st lt chunk mem => (g.received st lt chunk mem).lasts lasts (g.owners st lt)
      commands := fun command mem => (g.commands command mem).lasts lasts
      accepted := fun frame mem => (g.accepted frame mem).lasts lasts
      queued := fun item mem => (g.queued item mem).lasts lasts }
    · have holds : (started.peripheral k).session = some s := holds
      by_cases other : k = p
      · subst other
        rw [here] at holds
        obtain rfl := Option.some.inj holds
        exact Nat.lt_succ_self _
      · rw [others k other] at holds
        exact (g.current k s holds).trans_le lasts.started
    · have bound : (started.peripheral k).stream = some st := bound
      by_cases other : k = p
      · subst other
        rw [here] at bound
        obtain ⟨lt, s, owns, -⟩ := g.slots k st bound
        exact ⟨lt, s, owns, .inl (clear st bound)⟩
      · rw [others k other] at bound
        obtain ⟨lt, s, owns, only⟩ := g.slots k st bound
        refine ⟨lt, s, owns, only.imp_right fun only x holds => only x ?_⟩
        exact others k other ▸ holds
  let asks : Command := .send p (openFrame env.cfg (env.cfg.randomId c.central.sessions.next)) true
  have opens : Stated ev env.cfg started asks :=
    .inr (.inl ⟨c.central.sessions.next, Nat.lt_succ_self _, rfl⟩)
  have sized : Stated ev env.cfg (started.issue asks) (.requestMtu p requestMtu) := trivial
  exact (grounded.issue opens).issue sized

theorem Grounded.attempt (g : Grounded ev cfg c) {p sess : Ref} {psm : Nat} {key : Bytes}
    {flags : Byte}
    (timer : Option Nat) (current : (c.peripheral p).session = some sess)
    (told : ev.HelloNotified p (c.central.sessions.get sess).id ⟨key, flags, some psm⟩)
    (accepted : cfg.accept key = true) (suits : cfg.pipeFor flags = some cfg.pipe) :
    Grounded ev cfg ({ c with
      central.attempts := c.central.attempts.alloc
        { peripheral := p, session := sess, announced := key, timer } }.issue
          (.openL2CAPChannel p psm)) := by
  have started : sess < c.central.sessions.next := g.current p sess current
  rw [g.drawn sess started] at told
  let attempt : OpenAttempt := { peripheral := p, session := sess, announced := key, timer }
  let attempted : Core := { c with central.attempts := c.central.attempts.alloc attempt }
  have lasts : Lasts c attempted := attempt_lasts c attempt
  have grounded : Grounded ev cfg attempted := by
    refine { g with
      attempts := fun a => ?_
      commands := fun command mem => (g.commands command mem).lasts lasts }
    by_cases new : a = c.central.attempts.next
    · subst new
      rw [Heap.alloc_get_next]
      exact .inr ⟨started, flags, some psm, told, accepted, suits⟩
    · rw [Heap.alloc_get_of_ne _ _ new]
      exact g.attempts a
  refine grounded.issue ⟨c.central.attempts.next, Nat.lt_succ_self _, sess, started, key, flags, ?_, told,
    accepted, suits⟩
  exact congrArg OpenAttempt.identity (c.central.attempts.alloc_get_next attempt)

theorem Grounded.link (g : Grounded ev cfg c) (conn : Conn) (riding : conn.stream < c.streams.next)
    (rides : Rides ev cfg c conn (c.streams.get conn.stream).owner) :
    Grounded ev cfg { c with links.conns := c.links.conns.alloc conn } := by
  have owned := g.owners conn.stream riding
  have joined : Joined ev cfg c conn (c.streams.get conn.stream).owner := by
    cases owner : (c.streams.get conn.stream).owner with
    | server r =>
      rw [owner] at rides
      exact rides
    | central p s =>
      rw [owner] at rides owned
      exact ⟨rides.1, g.invited owned.1 rides.2⟩
  let Rooted : Ref → Conn → Prop := fun _ conn =>
    conn.stream < c.streams.next ∧ Joined ev cfg c conn (c.streams.get conn.stream).owner
  exact { g with links := c.links.conns.alloc_forall (P := Rooted) g.links ⟨riding, joined⟩ }

theorem Grounded.receive (g : Grounded ev cfg c) {st : Ref} {via : Pipe} {chunk : Bytes}
    (delivered : Delivered ev c st via chunk) : Grounded ev cfg (c.receive st via chunk) := by
  let push : Stream → Stream := fun s => { s with received := s.received ++ [(via, chunk)] }
  have lasts := receive_lasts c st via chunk
  have owner : ∀ k, ((c.receive st via chunk).streams.get k).owner = (c.streams.get k).owner :=
    fun k => c.streams.modify_get_view st k push Stream.owner fun _ => rfl
  refine { g with
    owners := fun k lt => by rw [owner]; exact g.owners k lt
    binds := fun r lt k bound => by rw [owner]; exact g.binds r lt k bound
    links := fun r lt => ⟨(g.links r lt).1, by rw [owner]; exact (g.links r lt).2⟩
    slots := fun p k bound => by rw [owner]; exact g.slots p k bound
    received := fun k lt piece mem => ?_
    commands := fun command mem => (g.commands command mem).lasts lasts
    accepted := fun frame mem => (g.accepted frame mem).lasts lasts
    queued := fun item mem => (g.queued item mem).lasts lasts }
  · rw [owner]
    have mem : (.gatt, piece) ∈ ((c.streams.modify st push).get k).received := mem
    rw [Heap.modify_get] at mem
    split at mem
    · rename_i here
      subst here
      rcases List.mem_append.mp mem with old | new
      · exact g.received k lt piece old
      · obtain ⟨rfl, rfl⟩ := Prod.mk.inj (List.mem_singleton.mp new)
        cases delivered with
        | @server id r frame _ entry bound written decoded =>
          obtain ⟨known, own⟩ := g.table id r entry
          rw [(g.binds r known k bound).2]
          refine ⟨frame, written, ?_⟩
          rw [decoded, ← own]
          rfl
        | @central p sess frame _ current bound notified decoded =>
          obtain ⟨-, s, owns, only⟩ := g.slots p k bound
          rw [owns]
          refine only.imp_right fun only => ⟨frame, notified, ?_⟩
          rw [decoded, g.drawn sess (g.current p sess current), only sess current]
    · exact g.received k lt piece mem

theorem Grounded.send (g : Grounded ev cfg c) (env : Env) {st : Ref} {payload : Bytes}
    (ackWrites : Bool)
    (handed : ev.handed st payload) : Grounded ev cfg (c.sendFragment env st payload ackWrites) := by
  simp only [sendFragment]
  split
  · rename_i open_
    have lt : st < c.streams.next := by
      simp only [Bool.and_eq_true, decide_eq_true_eq] at open_
      exact open_.1
    have owned := g.owners st lt
    split
    · rename_i r owner
      rw [owner] at owned
      exact g.notify env (.inr (.inr ⟨st, lt, r, payload, owner, owned.1, handed, rfl⟩))
    · rename_i p sess owner
      rw [owner] at owned
      refine g.issue (.inr (.inr ⟨st, lt, sess, payload, owner, handed, ?_⟩))
      rw [g.drawn sess owned.1]
  · exact g

/-- Whatever traces back to the evidence leaves a core grounded in it. -/
theorem Traces.grounded (h : Traces env ev c c') (g : Grounded ev env.cfg c) :
    Grounded ev env.cfg c' := by
  induction h with
  | trans _ _ ih ih' => exact ih' (ih g)
  | noneBegins h => exact h.grounded g
  | listen c published =>
    exact { g with psm := fun port known => by obtain rfl := Option.some.inj known; exact published }
  | accept c asked accepted suits absent => exact g.accept asked accepted suits
  | @greet c id r psm entry known =>
    obtain ⟨lt, own⟩ := g.table id r entry
    refine g.notify env (.inr (.inl ⟨r, lt, psm, fun port is => g.psm port (known port is), ?_⟩))
    rw [own]
  | serve c s owner empty entry unbound => exact g.serve s owner empty entry unbound
  | start c clear => exact g.start clear
  | attempt c timer current told accepted suits => exact g.attempt timer current told accepted suits
  | dial c s owner empty current invited => exact g.dial s owner empty current invited
  | link c conn riding rides => exact g.link conn riding rides
  | receive c delivered => exact g.receive delivered
  | send c ackWrites handed => exact g.send env ackWrites handed

end BleSwarm.Core

namespace BleSwarm.Transport

open BleSwarm.Core

variable {ev : Evidence} {t : Transport}

/-- What was issued is collected afresh. -/
theorem begin_grounded (native : Native) (g : Grounded ev t.cfg t.core) :
    Grounded ev t.cfg (t.begin native).core :=
  { g with commands := List.forall_mem_nil _ }

/-- Whatever a session, a stream or a link is, it stays. -/
theorem act_lasts (t : Transport) (a : Action) : Lasts t.core (t.act a).core := by
  obtain ⟨env, -, traces⟩ := t.act_traces (brings_all t a)
  have begun : Lasts t.core (t.begin env.native).core := { Lasts.refl t.core with }
  exact begun.trans traces.lasts

/-- A step leaves a transport grounded that brings nothing but evidence. -/
theorem act_grounded {a : Action} (brings : Brings ev t a) (g : Grounded ev t.cfg t.core) :
    Grounded ev t.cfg (t.act a).core := by
  obtain ⟨env, cfg, traces⟩ := t.act_traces brings
  rw [← cfg] at g ⊢
  exact traces.grounded (cfg ▸ begin_grounded env.native (cfg ▸ g))

/-- Anything may have come. -/
theorem act_grounded_all {a : Action} (g : Grounded .all t.cfg t.core) :
    Grounded .all (t.act a).cfg (t.act a).core := by
  rw [act_cfg]
  exact act_grounded (brings_all t a) g

theorem create_grounded (cfg : Config) (topic : Option Bytes) (online : Bool)
    (ids : Ref → PeripheralId) : Grounded ev cfg (create cfg topic online ids).core where
  drawn _ lt := absurd lt (Nat.not_lt_zero _)
  current _ _ current := by cases current
  asked _ lt := absurd lt (Nat.not_lt_zero _)
  table _ _ entry := by cases entry
  psm _ known := by cases known
  attempts _ := .inl ⟨rfl, rfl, rfl⟩
  owners _ lt := absurd lt (Nat.not_lt_zero _)
  binds _ lt := absurd lt (Nat.not_lt_zero _)
  links _ lt := absurd lt (Nat.not_lt_zero _)
  slots _ _ bound := by cases bound
  received _ lt := absurd lt (Nat.not_lt_zero _)
  commands := List.forall_mem_nil _
  accepted := List.forall_mem_nil _
  queued := List.forall_mem_nil _

end BleSwarm.Transport
