import BleSwarm.Gatt.Streams
import BleSwarm.Transport.Preamble
import BleSwarm.Transport.Yield

/-!
# Many sessions over one characteristic

All streams of the server side share one notify queue, and what the radio accepts of it
is broadcast to every central that subscribed. A central takes the frames of its own
session out of that, and what it pushes into its stream is a first part of what was
written to the stream at the other end.
-/

namespace BleSwarm

/-- A central that subscribed to the characteristic of the server. -/
structure Subscriber where
  /-- The peripheral object on which the central sees the server, and its session there. -/
  peripheral : Ref
  session : Ref
  transport : Transport
  /-- The number of accepted frames that came before it subscribed or that it was notified of. -/
  heard : Nat

namespace Subscriber

/-- The session has not ended. -/
def Live (sub : Subscriber) : Prop :=
  (sub.transport.core.peripheral sub.peripheral).session = some sub.session

instance (sub : Subscriber) : Decidable sub.Live :=
  inferInstanceAs (Decidable ((sub.transport.core.peripheral sub.peripheral).session = some sub.session))

def stream (sub : Subscriber) : Option Ref := (sub.transport.core.peripheral sub.peripheral).stream

def id (sub : Subscriber) : Hex := (sub.transport.core.central.sessions.get sub.session).id

/-- What the central pushed into its stream. -/
def pushed (sub : Subscriber) : Bytes :=
  match sub.stream with
  | some st => Switchover.pushed sub.transport.core st
  | none => []

/-- The next of the accepted frames reaches the central. -/
def hear (sub : Subscriber) (accepted : List Bytes) (now : Nat) (native : Native) : Subscriber :=
  match accepted[sub.heard]? with
  | some frame =>
    { sub with
      transport := sub.transport.input { now, native, event := .notify sub.peripheral frame }
      heard := sub.heard + 1 }
  | none => sub

end Subscriber

/-- A server with its gatt sessions and the centrals that subscribed. -/
structure Multiplex where
  cfg : Config
  queue : NotifyQueue := {}
  streams : OrderedMap Hex ServerStream := ∅
  subscribers : List Subscriber := []

namespace Multiplex

inductive Event
  /-- An OPEN is accepted, and its session gets a stream and a HELLO. -/
  | accept (sid : Bytes)
  /-- A stream is asked to write a chunk. -/
  | write (id : Hex) (chunk : Bytes)
  /-- The writer of a stream goes on behind its await. -/
  | resumed (id : Hex)
  | destroy (id : Hex)
  /-- A frame of another type is submitted. -/
  | control (frame : Bytes)
  | readyToUpdate
  | notifyRetry
  | reset
  /-- A central subscribes. -/
  | subscribe (p sess : Ref) (central : Transport)
  /-- A subscriber is notified of the next accepted frame. -/
  | deliver (k : Nat) (native : Native)

/-- An event, the time of its callback and what `updateValue` does then. -/
structure Turn where
  now : Nat
  outcomes : List UpdateOutcome := []
  event : Event

def notify (m : Multiplex) (now : Nat) (frame : Bytes) : Multiplex :=
  { m with queue := m.queue.notify now frame }

def setStream (m : Multiplex) (id : Hex) (s : ServerStream) : Multiplex :=
  { m with streams := m.streams.set id s }

/-- The loop of `_write`: the next send, or the end of the write. -/
def send (m : Multiplex) (now : Nat) (id : Hex) (s : ServerStream) (w : Write) : Multiplex :=
  if w.finished then m.setStream id { s with write := none }
  else
    (m.setStream id { s with write := some (w, m.queue.promises) }).notify now
      (encodeFrame typeData id w.last)

/-- The writer goes on if its promise has settled, and a stream whose write failed is destroyed. -/
def proceed (m : Multiplex) (now : Nat) (id : Hex) (s : ServerStream) (w : Write) :
    Option Bool → Multiplex
  | none => m
  | some true => m.send now id s (w.step m.cfg .sent)
  | some false => m.setStream id { s with write := none, destroyed := true }

def handle (now : Nat) (m : Multiplex) : Event → Multiplex
  | .accept sid =>
    if sid.length = sidLen ∧ m.streams.get? (toHex sid) = none then
      (m.setStream (toHex sid) {}).notify now (encodeFrame typeHello (toHex sid) m.cfg.publicKey)
    else m
  | .write id chunk =>
    match m.streams.get? id with
    | some s =>
      -- one chunk at a time, and none once the stream is destroyed
      if s.destroyed || s.write.isSome then m
      else
        m.send now id { s with written := s.written ++ chunk }
          (Write.start chunk (some defaultPayload))
    | none => m
  | .resumed id =>
    match m.streams.get? id with
    | some s =>
      match s.write with
      | some (w, n) => m.proceed now id s w (m.queue.verdict n)
      | none => m
    | none => m
  | .destroy id =>
    match m.streams.get? id with
    | some s => m.setStream id { s with destroyed := true }
    | none => m
  | .control frame =>
    if frame.head? = some typeData ∨ frame.head? = some typeHello then m else m.notify now frame
  | .readyToUpdate => { m with queue := m.queue.drain now }
  | .notifyRetry => { m with queue := m.queue.onRetry now }
  | .reset => { m with queue := m.queue.reset }
  | .subscribe p sess central =>
    if central.life.opened = true ∧ (central.listeners p).notify = 1 ∧
        (central.core.peripheral p).session = some sess ∧
        (central.core.peripheral p).stream = none then
      { m with subscribers := m.subscribers ++ [⟨p, sess, central, m.queue.accepted.length⟩] }
    else m
  | .deliver k native =>
    { m with subscribers := m.subscribers.modify k fun sub => sub.hear m.queue.accepted now native }

def act (m : Multiplex) (turn : Turn) : Multiplex :=
  handle turn.now { m with queue := { m.queue with outcomes := turn.outcomes } } turn.event

/-- What was written to the stream of a session. -/
def written (m : Multiplex) (id : Hex) : Bytes := ((m.streams.get? id).map ServerStream.written).getD []

end Multiplex

namespace Core

variable {env : Env} {c c' : Core} {p s : Ref} {data : Bytes}

/-! A notification and the session of the central that gets it. -/

/-- What a frame did to a session that its central carries: it ended, or its stream got what
the frame carries for it, or it has a stream now, because the frame was its HELLO. -/
inductive Hears (c c' : Core) (p s : Ref) (data : Bytes) : Prop
  | ended (session : (c'.peripheral p).session = none)
  | pushed (session : (c'.peripheral p).session = some s)
    (named : (c'.central.sessions.get s).id = (c.central.sessions.get s).id)
    (stream : (c'.peripheral p).stream = (c.peripheral p).stream)
    (pushed : ∀ st, (c.peripheral p).stream = some st → Switchover.pushed c' st =
      Switchover.pushed c st ++ (dataFor (c.central.sessions.get s).id data).getD [])
  | opened (st : Ref) (session : (c'.peripheral p).session = some s)
    (named : (c'.central.sessions.get s).id = (c.central.sessions.get s).id)
    (unbound : (c.peripheral p).stream = none) (stream : (c'.peripheral p).stream = some st)
    (hello : greets (c.central.sessions.get s).id data = true) (pushed : Switchover.pushed c' st = [])

/-- A frame that carries nothing for the session may leave everything as it is. -/
theorem Hears.same (session : (c.peripheral p).session = some s)
    (foreign : dataFor (c.central.sessions.get s).id data = none) : Hears c c p s data := by
  refine .pushed session rfl rfl fun st _ => ?_
  simp [foreign]

theorem onHello_hears {payload : Bytes} (session : (c.peripheral p).session = some s)
    (foreign : dataFor (c.central.sessions.get s).id data = none)
    (hello : greets (c.central.sessions.get s).id data = true) :
    Hears c (c.onHello env p s payload) p s data := by
  unfold onHello
  split
  · exact .same session foreign
  · rename_i fresh
    have unbound : (c.peripheral p).stream = none := by
      cases bound : (c.peripheral p).stream with
      | none => rfl
      | some st => simp [bound] at fresh
    dsimp only
    split
    · exact .ended (endCentral_session env c p _ _)
    · split
      · exact .ended (endCentral_session env _ p _ _)
      · split
        · exact .ended (endCentral_session env c p _ _)
        · exact .ended (endCentral_session env c p _ _)
        · rename_i psm _ _
          obtain ⟨peripherals, streams, sessions⟩ :=
            openCentralL2cap_waits env c p s psm (decodeKeyPayload payload).key
          have named : ((c.openCentralL2cap env p s psm (decodeKeyPayload payload).key).central.sessions.get
              s).id = (c.central.sessions.get s).id := by
            rw [sessions, Heap.modify_get_self]
          refine .pushed ?_ named ?_ fun st bound => ?_
          · rw [peripheral, peripherals]
            exact session
          · rw [peripheral, peripherals]
            rfl
          · rw [unbound] at bound
            cases bound
        · let opened : Core := { c with
            streams := c.streams.alloc
              { pipe := .gatt, owner := .central p s
                maxPayload := some ((env.cfg.getMaxPayload (c.peripheral p).mtu).getD defaultPayload) } }
          obtain ⟨session', stream, sessions, received⟩ := bindCentralStream_binds env opened p
            c.streams.next (decodeKeyPayload payload).key
          refine .opened c.streams.next (session'.trans session) ?_ unbound stream hello ?_
          · exact congrArg (fun sessions => (sessions.get s).id) sessions
          · have empty : ((opened.bindCentralStream env p c.streams.next
                (decodeKeyPayload payload).key).streams.get c.streams.next).received = [] := by
              rw [received]
              simp [opened]
            exact congrArg (List.flatMap Prod.snd) empty

theorem onCentralNotify_hears (session : (c.peripheral p).session = some s) :
    Hears c (c.onCentralNotify env p data) p s data := by
  unfold onCentralNotify
  rw [session]
  cases decoded : decodeFrame (some data) with
  | none => exact .same session (by simp [dataFor, decoded])
  | some f =>
    have carries : dataFor (c.central.sessions.get s).id data =
        if f.type = typeData ∧ f.id = (c.central.sessions.get s).id then some f.payload else none := by
      simp [dataFor, decoded]
    dsimp only
    split
    · rename_i other
      exact .same session (by simp [carries, other])
    · rename_i own
      have own : f.id = (c.central.sessions.get s).id := by simpa using own
      split
      · rename_i hello
        refine onHello_hears session ?_ (by simp [greets, decoded, hello, own])
        rw [carries, hello]
        exact if_neg fun both => absurd both.1 (by decide)
      · split
        · rename_i carried
          have carries : dataFor (c.central.sessions.get s).id data = some f.payload := by
            simp [carries, carried, own]
          split
          · rename_i st bound
            refine .pushed session rfl rfl fun k here => ?_
            obtain rfl : st = k := Option.some.inj (bound.symm.trans here)
            rw [Switchover.pushed_receive, carries]
            rfl
          · rename_i unbound
            refine .pushed session rfl rfl fun st bound => ?_
            rw [unbound] at bound
            cases bound
        · rename_i other
          split
          · split
            · rename_i st bound
              refine .ended ?_
              simp [remoteEnd, setStream, setPeripheral, peripheral]
            · exact .ended (endCentral_session env c p _ _)
          · exact .same session (by simp [carries, other])

theorem onCentralNotify_gone (session : (c.peripheral p).session = none) :
    c.onCentralNotify env p data = c := by
  simp [onCentralNotify, session]

end Core

/-! The server's part of it. -/

/-- An OPEN that is accepted on the gatt pipe submits a HELLO and makes a stream that cuts at
the default payload. -/
theorem Core.onOpen_gatt (env : Env) (c : Core) (f : Frame)
    (verdict : c.judgeOpen env (decodeKeyPayload f.payload).key (decodeKeyPayload f.payload).flags =
      .accepted .gatt) :
    (c.onOpen env f).gatt = c.gatt.notify env.now (encodeFrame typeHello f.id env.cfg.publicKey) ∧
      ((c.onOpen env f).streams.get c.streams.next).maxPayload = some defaultPayload := by
  have bound : ∀ (c : Core) (r st : Ref), (c.bindServerStream env r st).gatt = c.gatt ∧
      ((c.bindServerStream env r st).streams.get st).maxPayload = (c.streams.get st).maxPayload := by
    intro c r st
    let slotted : Core := c.setSession r fun s => { s with pipeTimer := none, stream := some st }
    let linked := slotted.onChannel env st false none (slotted.session r).announced
    let ready : Core := linked.1.setSession r fun s => { s with conn := linked.2 }
    have gatt : ready.gatt = c.gatt :=
      (Core.onChannel_rest env slotted st false none (slotted.session r).announced).2.1
    have payload : (ready.streams.get st).maxPayload = (c.streams.get st).maxPayload :=
      Core.onChannel_view env slotted st false none _ st Stream.maxPayload fun _ => rfl
    have run : c.bindServerStream env r st =
        if ready.server.cyclePending then ready.maybeCycle env else ready := rfl
    have rotated : (ready.maybeCycle env).gatt = ready.gatt := by
      unfold Core.maybeCycle
      split
      · rfl
      · exact (Core.cycle_radioOnly env _).gatt
    rw [run]
    split
    · exact ⟨rotated.trans gatt, by rw [(Core.maybeCycle_quiet env ready).streams, payload]⟩
    · exact ⟨gatt, payload⟩
  let entered : Core := { c with
    server.sessions := c.server.sessions.alloc
      { id := f.id, announced := (decodeKeyPayload f.payload).key }
    server.table := c.server.table.set f.id c.server.sessions.next
    streams := c.streams.alloc
      { pipe := .gatt, owner := .server c.server.sessions.next, maxPayload := some defaultPayload } }
  have run : c.onOpen env f = (entered.bindServerStream env c.server.sessions.next
      c.streams.next).notifyHello env f.id env.cfg.publicKey := by
    simp only [Core.onOpen, verdict]
    rfl
  obtain ⟨gatt, payload⟩ := bound entered c.server.sessions.next c.streams.next
  rw [run]
  refine ⟨?_, ?_⟩
  · exact congrArg (fun g : NotifyQueue =>
      g.notify env.now (encodeFrame typeHello f.id env.cfg.publicKey)) gatt
  · refine payload.trans ?_
    simp [entered]

/-! What a subscriber hears. -/

theorem dataFor_of_greets {id : Hex} {frame : Bytes} (hello : greets id frame = true) :
    dataFor id frame = none := by
  unfold greets at hello
  unfold dataFor
  cases decoded : decodeFrame (some frame) with
  | none => rfl
  | some f =>
    simp only [decoded, decide_eq_true_eq] at hello
    refine if_neg fun both => ?_
    exact absurd (both.1.symm.trans hello.1) (by decide)

namespace Subscriber

variable {sub : Subscriber} {g g' : NotifyQueue}

/-- What was pushed into the stream of a session is what the frames heard carried for it. -/
structure Follows (sub : Subscriber) (g : NotifyQueue) : Prop where
  opened : sub.transport.life.opened = true
  handler : (sub.transport.listeners sub.peripheral).notify = 1
  heard : sub.heard ≤ g.accepted.length
  pushed : sub.Live → ∀ st, sub.stream = some st →
    Switchover.pushed sub.transport.core st = carried sub.id (g.accepted.take sub.heard)

theorem Follows.grows (h : sub.Follows g) (grows : g.accepted <+: g'.accepted) :
    sub.Follows g' := by
  obtain ⟨sent, accepted⟩ := grows
  refine ⟨h.opened, h.handler, ?_, fun live st bound => ?_⟩
  · rw [← accepted, List.length_append]
    exact h.heard.trans (Nat.le_add_right _ _)
  · rw [h.pushed live st bound, ← accepted, List.take_append_of_le_length h.heard]

/-- With one handler a notification is one call of `_onCentralNotify`. -/
theorem Follows.input (h : sub.Follows g) (now : Nat) (native : Native) (frame : Bytes) :
    let i : Input := { now, native, event := .notify sub.peripheral frame }
    let begun := sub.transport.begin native
    sub.transport.input i =
      { begun with core := begun.core.onCentralNotify (begun.env now native) sub.peripheral frame } := by
  have opened : (sub.transport.begin native).life.opened = true := h.opened
  have handler : ((sub.transport.begin native).listeners sub.peripheral).notify = 1 := h.handler
  simp only [Transport.input, opened, if_true, Transport.handle, handler]
  rfl

theorem Follows.hear (h : sub.Follows g) (now : Nat) (native : Native)
    (greeted : ∀ id, g.frames.Pairwise fun early late =>
      greets id late = true → dataFor id early = none) :
    (sub.hear g.accepted now native).Follows g := by
  unfold Subscriber.hear
  split
  · rename_i frame next
    have inside : sub.heard < g.accepted.length := (List.getElem?_eq_some_iff.mp next).1
    have taken : ∀ id, carried id (g.accepted.take (sub.heard + 1)) =
        carried id (g.accepted.take sub.heard) ++ (dataFor id frame).getD [] := by
      intro id
      rw [List.take_add_one, next, carried_append, ← carried_singleton]
      rfl
    let begun := sub.transport.begin native
    let core := begun.core.onCentralNotify (begun.env now native) sub.peripheral frame
    have heard : sub.transport.input { now, native, event := .notify sub.peripheral frame } =
        { begun with core } := h.input now native frame
    rw [heard]
    refine ⟨h.opened, h.handler, inside, fun live st bound => ?_⟩
    have live : (core.peripheral sub.peripheral).session = some sub.session := live
    have bound : (core.peripheral sub.peripheral).stream = some st := bound
    cases before : (begun.core.peripheral sub.peripheral).session with
    | none =>
      have gone : core = begun.core := Core.onCentralNotify_gone before
      rw [gone, before] at live
      cases live
    | some s =>
      have hears :
          Core.Hears begun.core core sub.peripheral s frame := Core.onCentralNotify_hears before
      cases hears with
      | ended session =>
        rw [session] at live
        cases live
      | pushed session named stream pushed =>
        obtain rfl : s = sub.session := Option.some.inj (session.symm.trans live)
        have unmoved : sub.stream = some st := stream.symm.trans bound
        have same : Switchover.pushed begun.core st =
            carried sub.id (g.accepted.take sub.heard) := h.pushed before st unmoved
        have now_ := pushed st unmoved
        rw [same] at now_
        refine now_.trans ?_
        exact ((congrArg (fun id => carried id (g.accepted.take (sub.heard + 1))) named).trans
          (taken sub.id)).symm
      | opened st' session named unbound stream hello pushed =>
        obtain rfl : s = sub.session := Option.some.inj (session.symm.trans live)
        obtain rfl : st' = st := Option.some.inj (stream.symm.trans bound)
        have early : ∀ a ∈ g.accepted.take sub.heard, dataFor sub.id a = none := by
          have ordered := (greeted sub.id).sublist (List.sublist_append_left g.accepted _)
          rw [← List.take_append_drop sub.heard g.accepted] at ordered
          have first : (g.accepted.drop sub.heard)[0]? = some frame := by
            rw [List.getElem?_drop]
            exact next
          exact fun a mem =>
            (List.pairwise_append.mp ordered).2.2 a mem frame (List.mem_of_getElem? first) hello
        refine pushed.trans ?_
        refine ((congrArg (fun id => carried id (g.accepted.take (sub.heard + 1))) named).trans ?_).symm
        refine (taken sub.id).trans ?_
        have nothing : dataFor sub.id frame = none := dataFor_of_greets hello
        rw [carried_eq_nil early, nothing]
        rfl
  · exact h

end Subscriber

namespace Multiplex

variable {m : Multiplex}

/-- The streams are in step with the queue, and every subscriber with what was accepted. -/
structure Consistent (m : Multiplex) : Prop where
  orderly : Orderly m.queue m.streams
  follows : ∀ sub ∈ m.subscribers, sub.Follows m.queue

theorem Consistent.moves (h : m.Consistent) {g : NotifyQueue} (moves : NotifyQueue.Moves m.queue g) :
    Consistent { m with queue := g } :=
  ⟨h.orderly.moves moves, fun sub mem => (h.follows sub mem).grows moves.accepted⟩

/-- A frame is submitted and the queue drained. -/
theorem Consistent.notify {frame : Bytes} (orderly : Orderly (m.queue.submit frame) m.streams)
    (follows : ∀ sub ∈ m.subscribers, sub.Follows m.queue) (now : Nat) :
    (m.notify now frame).Consistent := by
  have queued : Consistent { m with queue := m.queue.submit frame } := by
    refine ⟨orderly, fun sub mem => ?_⟩
    exact ⟨(follows sub mem).opened, (follows sub mem).handler, (follows sub mem).heard,
      (follows sub mem).pushed⟩
  exact queued.moves (NotifyQueue.notify_moves m.queue now frame)

theorem Consistent.setStream (h : m.Consistent) {id : Hex} {old s : ServerStream}
    (known : m.streams.get? id = some old) (flow : Flow m.queue id s) :
    (m.setStream id s).Consistent :=
  ⟨h.orderly.set (h.orderly.named id old known) flow, h.follows⟩

/-- The loop of a write goes on when everything before the next fragment was accepted. -/
theorem Consistent.send (h : m.Consistent) {id : Hex} {old s : ServerStream} {w : Write}
    (before : Bytes) (known : m.streams.get? id = some old) (empty : m.queue.pending id = [])
    (written : s.written = before ++ w.chunk)
    (goes : (w.finished = true ∧ carried id m.queue.accepted = s.written) ∨
      (w.Going ∧ carried id m.queue.accepted = before ++ w.payloads.dropLast.flatten)) (now : Nat) :
    (m.send now id s w).Consistent := by
  unfold Multiplex.send
  rcases goes with ⟨finished, all⟩ | ⟨going, accepted⟩
  · rw [if_pos finished]
    exact h.setStream known (.idle rfl empty (all ▸ List.prefix_refl _) fun _ => all)
  · rw [if_neg (by simp [going.unfinished])]
    let sending := m.setStream id { s with write := some (w, m.queue.promises) }
    have sent : Orderly (sending.queue.submit (encodeFrame typeData id w.last)) sending.streams :=
      h.orderly.send known going empty written accepted
    exact Consistent.notify sent h.follows now

theorem Consistent.write (h : m.Consistent) {id : Hex} {s : ServerStream}
    (known : m.streams.get? id = some s) (quiet : s.write = none) (alive : s.destroyed = false)
    (chunk : Bytes) (now : Nat) :
    (m.send now id { s with written := s.written ++ chunk }
      (Write.start chunk (some defaultPayload))).Consistent := by
  have whole : (Write.start chunk (some defaultPayload)).chunk = chunk := Write.loop_chunk _
  cases h.orderly.flow id s known with
  | idle _ empty _ all =>
    have accepted := all alive
    refine h.send s.written known empty (by rw [whole]) ?_ now
    rcases Write.start_cases chunk with ⟨finished, nothing⟩ | ⟨going, first⟩
    · exact .inl ⟨finished, by simp [accepted, nothing]⟩
    · exact .inr ⟨going, by simp [accepted, first]⟩
  | busy w n before writing _ _ _ =>
    rw [quiet] at writing
    cases writing

theorem Consistent.proceed (h : m.Consistent) {id : Hex} {s : ServerStream} {w : Write} {n : Nat}
    (known : m.streams.get? id = some s) (writing : s.write = some (w, n)) (now : Nat) :
    (m.proceed now id s w (m.queue.verdict n)).Consistent := by
  cases h.orderly.flow id s known with
  | idle quiet _ _ _ =>
    rw [quiet] at writing
    cases writing
  | busy w' n' before writing' going written awaits =>
    rw [writing] at writing'
    obtain ⟨rfl, rfl⟩ := Prod.mk.inj (Option.some.inj writing')
    cases awaits with
    | queued unsettled _ _ =>
      rw [unsettled]
      exact h
    | resolved settled empty accepted =>
      rw [settled]
      rw [List.append_assoc, ← going.flatten] at accepted
      have same : (w.step m.cfg .sent).chunk = w.chunk := Write.step_chunk m.cfg w .sent
      refine h.send before known empty (by rw [same, written]) ?_ now
      rcases going.sent m.cfg with ⟨finished, all⟩ | ⟨goes, sent⟩
      · exact .inl ⟨finished, by rw [accepted, all, written]⟩
      · exact .inr ⟨goes, by rw [accepted, sent]⟩
    | rejected settled empty accepted =>
      rw [settled]
      refine h.setStream known (.idle rfl empty ?_ fun alive => by cases alive)
      exact (h.orderly.flow id s known).begins

/-- A session of a fresh id says HELLO before any of its data. -/
theorem Consistent.accept (h : m.Consistent) {sid : Bytes} (sized : sid.length = sidLen)
    (fresh : m.streams.get? (toHex sid) = none) (now : Nat) :
    ((m.setStream (toHex sid) {}).notify now
      (encodeFrame typeHello (toHex sid) m.cfg.publicKey)).Consistent := by
  have named : Orderly (m.setStream (toHex sid) {}).queue (m.setStream (toHex sid) {}).streams :=
    h.orderly.accept sized fresh
  apply notify (named.submit _ _) h.follows
  · exact fun id => dataFor_of_ne sized _ _ (.inl (by decide))
  · intro id greeted early mem
    by_cases own : id = toHex sid
    · subst own
      exact h.orderly.silent _ fresh early mem
    · rw [greets_of_ne sized _ _ (.inr fun same => own same.symm)] at greeted
      cases greeted

theorem Consistent.destroy (h : m.Consistent) {id : Hex} {s : ServerStream}
    (known : m.streams.get? id = some s) :
    (m.setStream id { s with destroyed := true }).Consistent := by
  apply h.setStream known
  cases h.orderly.flow id s known with
  | idle quiet empty accepted _ => exact .idle quiet empty accepted fun alive => by cases alive
  | busy w n before writing going written awaits =>
    exact .busy w n before writing going written awaits

/-- A frame of neither kind is part of no stream. -/
theorem Consistent.control (h : m.Consistent) {frame : Bytes}
    (other : ¬(frame.head? = some typeData ∨ frame.head? = some typeHello)) (now : Nat) :
    (m.notify now frame).Consistent := by
  obtain ⟨data, hello⟩ := not_or.mp other
  have control := fun id => control_frame id data hello
  apply notify (h.orderly.submit _ _) h.follows
  · exact fun id => (control id).1
  · intro id greeted
    rw [(control id).2] at greeted
    cases greeted

/-- A central that subscribes has nothing on the session yet. -/
theorem Consistent.subscribe (h : m.Consistent) {p sess : Ref} {central : Transport}
    (opened : central.life.opened = true) (handler : (central.listeners p).notify = 1)
    (unbound : (central.core.peripheral p).stream = none) :
    Consistent { m with
      subscribers := m.subscribers ++ [⟨p, sess, central, m.queue.accepted.length⟩] } := by
  refine ⟨h.orderly, fun sub mem => ?_⟩
  rcases List.mem_append.mp mem with old | new
  · exact h.follows sub old
  · rw [List.mem_singleton.mp new]
    refine ⟨opened, handler, le_refl _, fun _ st bound => ?_⟩
    exact absurd (unbound.symm.trans bound) (by simp)

/-- One subscriber hears the next frame, and the others stay where they are. -/
theorem Consistent.deliver (h : m.Consistent) (k now : Nat) (native : Native) :
    Consistent { m with
      subscribers := m.subscribers.modify k fun sub => sub.hear m.queue.accepted now native } := by
  refine ⟨h.orderly, fun sub mem => ?_⟩
  obtain ⟨j, here⟩ := List.mem_iff_getElem?.mp mem
  rw [List.getElem?_modify] at here
  obtain ⟨old, found, rfl⟩ := Option.map_eq_some_iff.mp here
  have follows := h.follows old (List.mem_of_getElem? found)
  split
  · exact follows.hear now native h.orderly.greeted
  · exact follows

theorem Consistent.handle (h : m.Consistent) (now : Nat) (e : Event) :
    (m.handle now e).Consistent := by
  cases e with
  | accept sid =>
    simp only [Multiplex.handle]
    split
    · rename_i fresh
      exact h.accept fresh.1 fresh.2 now
    · exact h
  | write id chunk =>
    simp only [Multiplex.handle]
    split
    · rename_i s known
      split
      · exact h
      · rename_i free
        simp only [Bool.or_eq_true, not_or, Bool.not_eq_true, Option.isSome_eq_false_iff,
          Option.isNone_iff_eq_none] at free
        exact h.write known free.2 free.1 chunk now
    · exact h
  | resumed id =>
    simp only [Multiplex.handle]
    split
    · rename_i s known
      split
      · rename_i w n writing
        exact h.proceed known writing now
      · exact h
    · exact h
  | destroy id =>
    simp only [Multiplex.handle]
    split
    · rename_i s known
      exact h.destroy known
    · exact h
  | control frame =>
    simp only [Multiplex.handle]
    split
    · exact h
    · rename_i other
      exact h.control other now
  | readyToUpdate => exact h.moves (NotifyQueue.drain_moves m.queue now)
  | notifyRetry => exact h.moves (NotifyQueue.onRetry_moves m.queue now)
  | reset => exact h.moves (NotifyQueue.reset_moves m.queue)
  | subscribe p sess central =>
    simp only [Multiplex.handle]
    split
    · rename_i fresh
      obtain ⟨opened, handler, -, unbound⟩ := fresh
      exact h.subscribe opened handler unbound
    · exact h
  | deliver k native => exact h.deliver k now native

theorem Consistent.act (h : m.Consistent) (turn : Turn) : (m.act turn).Consistent := by
  have begun : Consistent { m with queue := { m.queue with outcomes := turn.outcomes } } :=
    h.moves (.rest m.queue m.queue.retry turn.outcomes)
  exact begun.handle turn.now turn.event

theorem Consistent.initial (cfg : Config) : Consistent { cfg } := by
  refine ⟨⟨⟨List.nodup_nil, List.forall_mem_nil _, List.forall_mem_nil _⟩, ?_, ?_, ?_, ?_⟩,
    List.forall_mem_nil _⟩
  · exact fun id s known => by cases known
  · exact fun id s known => by cases known
  · exact fun id _ => List.forall_mem_nil _
  · exact fun id => List.Pairwise.nil

theorem carried_mono {id : Hex} {frames frames' : List Bytes} (grows : frames <+: frames') :
    carried id frames <+: carried id frames' := by
  obtain ⟨more, rfl⟩ := grows
  rw [carried_append]
  exact List.prefix_append _ _

theorem Consistent.pushed (h : m.Consistent) {sub : Subscriber} (mem : sub ∈ m.subscribers)
    (live : sub.Live) : sub.pushed <+: m.written sub.id := by
  unfold Subscriber.pushed
  split
  · rename_i st bound
    have accepted : carried sub.id m.queue.accepted <+: m.written sub.id := by
      unfold Multiplex.written
      cases known : m.streams.get? sub.id with
      | none =>
        rw [carried_eq_nil fun frame mem =>
          h.orderly.silent _ known frame (List.mem_append_left _ mem)]
        exact List.nil_prefix
      | some s => exact (h.orderly.flow _ s known).begins
    rw [(h.follows sub mem).pushed live st bound]
    have heard : m.queue.accepted.take sub.heard <+: m.queue.accepted := List.take_prefix _ _
    exact (carried_mono heard).trans accepted
  · exact List.nil_prefix

/-- Whatever the order of writes, outcomes of `updateValue`, retries, resets and deliveries,
a central whose session has not ended pushed a first part of what was written to the stream
of that session. -/
theorem pushed_prefix_of_written (cfg : Config) (turns : List Turn) {sub : Subscriber}
    (mem : sub ∈ (Runs.run act { cfg } turns).subscribers) (live : sub.Live) :
    sub.pushed <+: (Runs.run act { cfg } turns).written sub.id := by
  have consistent : (Runs.run act { cfg } turns).Consistent :=
    Runs.always (fun _ turn h => h.act turn) (Consistent.initial cfg) turns
  exact consistent.pushed mem live

/-- A central with the given key that dialed the server and subscribed. -/
def subscribed (key : Byte) : Transport :=
  let cfg := { Config.plain (List.replicate 32 key) .gatt .android with
    randomId := fun _ => toHex (List.replicate sidLen key) }
  Runs.run Transport.act (Transport.create cfg none false fun p => p)
    (Transport.startThen ((Transport.dialAnswered cfg 0 7 (List.replicate 32 0)).take 5))

/-- Two sessions write at once: the queue is full when the first fragment of the one comes,
and `updateValue` throws on the only fragment of the other. -/
def crossing : List Turn :=
  let one := List.replicate sidLen 1
  let two := List.replicate sidLen 2
  let hears := [0, 1].flatMap fun k => List.replicate 4 (Event.deliver k {})
  let at_ := fun (outcomes : List UpdateOutcome) (event : Event) =>
    ({ now := 2000, outcomes, event } : Turn)
  [at_ [] (.subscribe 7 0 (subscribed 1)), at_ [] (.subscribe 7 0 (subscribed 2)),
    at_ [] (.accept one), at_ [] (.accept two), at_ [.full] (.write (toHex one) (List.replicate 200 5)),
    at_ [.full] (.write (toHex two) [9]), at_ [.accepted, .thrown] .readyToUpdate,
    at_ [] (.resumed (toHex one)), at_ [] (.resumed (toHex two))] ++ hears.map (at_ [])

/-- Both centrals are live, and each got what was accepted for it. -/
theorem crossing_streams :
    let m := Runs.run act { cfg := Config.plain (List.replicate 32 0) .gatt .android } crossing
    m.subscribers.map Subscriber.pushed = [List.replicate 200 5, []] ∧
      ∀ sub ∈ m.subscribers, sub.pushed <+: m.written sub.id := by
  intro m
  have live : ∀ sub ∈ m.subscribers, sub.Live := by decide +kernel
  exact ⟨by decide +kernel, fun sub mem => pushed_prefix_of_written _ crossing mem (live sub mem)⟩

end Multiplex

end BleSwarm
