import BleSwarm.Transport.Frame

/-!
# The switchover behind the preamble

`readIdPreamble` takes its listener off the channel when it has the session id,
and `acceptServer` puts the stream's listener on when its await resolves. A chunk
reaches the listeners of its moment, so the chunks between the two reach nobody.
-/

namespace BleSwarm.Switchover

/-- What happens to one incoming channel: a chunk arrives, or `acceptServer` goes on. -/
inductive ChannelEvent
  | data (chunk : Bytes)
  | proceed (env : Env)

def step (ch a : Ref) (c : Core) : ChannelEvent → Core
  | .data chunk => c.onChannelData ch chunk
  | .proceed env => c.resumeAccept env a

/-- The byte stream of the channel. -/
def payloads : List ChannelEvent → Bytes
  | [] => []
  | .data chunk :: es => chunk ++ payloads es
  | .proceed _ :: es => payloads es

/-- The bytes that arrive between the end of the preamble, which still lacks `need`
bytes, and the continuation. -/
def gap : Nat → List ChannelEvent → Bytes
  | _, [] => []
  | 0, .data chunk :: es => chunk ++ gap 0 es
  | 0, .proceed _ :: _ => []
  | need + 1, .data chunk :: es => gap (need + 1 - chunk.length) es
  | need + 1, .proceed _ :: es => gap (need + 1) es

/-- The bytes behind the preamble that are not in the gap. -/
def taken : Nat → List ChannelEvent → Bytes
  | _, [] => []
  | 0, .data _ :: es => taken 0 es
  | 0, .proceed _ :: es => payloads es
  | need + 1, .data chunk :: es => chunk.drop (need + 1) ++ taken (need + 1 - chunk.length) es
  | need + 1, .proceed _ :: es => taken (need + 1) es

theorem payloads_eq (es : List ChannelEvent) : payloads es = gap 0 es ++ taken 0 es := by
  induction es with
  | nil => rfl
  | cons e es ih =>
    cases e with
    | data chunk => simp only [payloads, gap, taken, ih, List.append_assoc]
    | proceed env => simp only [payloads, gap, taken, List.nil_append]

/-- The gap is what is missing from the bytes behind the preamble. -/
theorem payloads_split (need : Nat) (es : List ChannelEvent) :
    ∃ before after, (payloads es).drop need = before ++ gap need es ++ after ∧
      taken need es = before ++ after := by
  induction es generalizing need with
  | nil => exact ⟨[], [], by simp [payloads, gap], rfl⟩
  | cons e es ih =>
    cases need with
    | zero => exact ⟨[], taken 0 (e :: es), payloads_eq (e :: es), rfl⟩
    | succ need =>
      cases e with
      | data chunk =>
        obtain ⟨before, after, split, same⟩ := ih (need + 1 - chunk.length)
        refine ⟨chunk.drop (need + 1) ++ before, after, ?_, ?_⟩
        · simp only [payloads, gap, List.drop_append, split, List.append_assoc]
        · simp only [taken, same, List.append_assoc]
      | proceed env => exact ih (need + 1)

theorem taken_eq_iff (need : Nat) (es : List ChannelEvent) :
    taken need es = (payloads es).drop need ↔ gap need es = [] := by
  obtain ⟨before, after, split, same⟩ := payloads_split need es
  rw [split, same]
  constructor
  · intro eq
    have lengths := congrArg List.length eq
    simp only [List.length_append] at lengths
    exact List.eq_nil_of_length_eq_zero (by omega)
  · intro none
    rw [none, List.append_nil]

/-! The channel in the course of the switchover. -/

variable {env : Env} {c : Core} {ch a r st : Ref} {buf rest chunk : Bytes} {id : Hex}
  {es : List ChannelEvent}

/-- The bytes that have been pushed into a stream. -/
def pushed (c : Core) (st : Ref) : Bytes := (c.streams.get st).received.flatMap Prod.snd

/-- The bytes that the stream of a session got, if it has one. -/
def sessionBytes (c : Core) (r : Ref) : Option Bytes := (c.session r).stream.map (pushed c)

/-- The preamble is being read. -/
structure Collecting (ch a : Ref) (buf : Bytes) (c : Core) : Prop where
  readers : c.server.readers ch = [.preamble a]
  channel : (c.server.acceptors.get a).channel = ch
  buf : (c.server.acceptors.get a).buf = buf
  result : (c.server.acceptors.get a).result = none
  resumed : (c.server.acceptors.get a).resumed = false

/-- The preamble is complete and the continuation has not run. -/
structure Parted (ch a : Ref) (id : Hex) (rest : Bytes) (c : Core) : Prop where
  readers : c.server.readers ch = []
  channel : (c.server.acceptors.get a).channel = ch
  result : (c.server.acceptors.get a).result = some (some id, rest)
  resumed : (c.server.acceptors.get a).resumed = false

/-- The session's stream reads the channel. -/
structure Bound (ch a r st : Ref) (c : Core) : Prop where
  readers : c.server.readers ch = [.stream st]
  resumed : (c.server.acceptors.get a).resumed = true
  stream : (c.session r).stream = some st

/-- The id names a session that awaits its channel. -/
structure Pending (id : Hex) (r : Ref) (c : Core) : Prop where
  named : c.server.table.get? id = some r
  unbound : (c.session r).stream = none

theorem Pending.of_eq {c' : Core} (h : Pending id r c) (table : c'.server.table = c.server.table)
    (sessions : c'.server.sessions = c.server.sessions) : Pending id r c' :=
  ⟨table ▸ h.named, by rw [Core.session, sessions]; exact h.unbound⟩

theorem pushed_receive (via : Pipe) :
    pushed (c.receive st via chunk) st = pushed c st ++ chunk := by
  simp [pushed, Core.receive, Core.setStream]

theorem Bound.run (h : Bound ch a r st c) (es : List ChannelEvent) :
    sessionBytes (Runs.run (step ch a) c es) r = some (pushed c st ++ payloads es) := by
  induction es generalizing c with
  | nil => simp [sessionBytes, h.stream, payloads]
  | cons e es ih =>
    cases e with
    | data chunk =>
      have read : step ch a c (.data chunk) = c.receive st .l2cap chunk := by
        simp [step, Core.onChannelData, h.readers, Core.readData]
      have next : Bound ch a r st (c.receive st .l2cap chunk) := ⟨h.readers, h.resumed, h.stream⟩
      rw [Runs.run_cons, read, ih next, pushed_receive, payloads, List.append_assoc]
    | proceed env =>
      have done : step ch a c (.proceed env) = c := by
        simp only [step, Core.resumeAccept, h.resumed]
        split <;> rfl
      rw [Runs.run_cons, done, ih h, payloads]

/-- A server stream becomes a link without a trace on the channels and the sessions. -/
theorem onChannel_server (env : Env) (c : Core) (st : Ref) (announced : Bytes) :
    let linked := (c.onChannel env st false none announced).1
    linked.server.readers = c.server.readers ∧ linked.server.acceptors = c.server.acceptors ∧
      linked.server.sessions = c.server.sessions ∧
      ∀ k, (linked.streams.get k).received = (c.streams.get k).received := by
  obtain ⟨-, -, sessions, readers, acceptors⟩ := Core.onChannel_rest env c st false none announced
  exact ⟨readers, acceptors, sessions, fun k =>
    Core.onChannel_view env c st false none announced k Stream.received fun _ => rfl⟩

/-- What `_bindServerStream` does to the channels, the session and the streams. -/
theorem bindServerStream_binds (env : Env) (c : Core) (r st : Ref) :
    let bound := c.bindServerStream env r st
    bound.server.readers = c.server.readers ∧ bound.server.acceptors = c.server.acceptors ∧
      (bound.session r).stream = some st ∧
      ∀ k, (bound.streams.get k).received = (c.streams.get k).received := by
  have linked := onChannel_server env
    (c.setSession r fun s => { s with pipeTimer := none, stream := some st }) st
    ((c.setSession r fun s => { s with pipeTimer := none, stream := some st }).session r).announced
  simp only [Core.bindServerStream]
  generalize Core.onChannel env _ st false none _ = result at linked ⊢
  obtain ⟨readers, acceptors, sessions, received⟩ := linked
  have stream : (result.1.server.sessions.get r).stream = some st := by
    rw [sessions]
    simp [Core.setSession]
  have kept :
      ∀ c' : Core, c'.Quiet (if c'.server.cyclePending = true then c'.maybeCycle env else c') :=
    fun c' => .ite (Core.maybeCycle_quiet env c') (.refl c')
  have quiet := kept (result.1.setSession r fun s => { s with conn := result.2 })
  refine ⟨quiet.readers.trans readers, quiet.acceptors.trans acceptors, ?_, fun k => ?_⟩
  · rw [Core.session, quiet.sessions]
    simpa [Core.setSession] using stream
  · rw [quiet.streams]
    exact received k

/-- The stream that takes a channel over starts with the rest. -/
theorem takeOver_binds (readers : c.server.readers ch = [])
    (resumed : (c.server.acceptors.get a).resumed = true) (env : Env) (r : Ref) (rest : Bytes) :
    Bound ch a r c.streams.next (c.takeOver env r ch rest) ∧
      pushed (c.takeOver env r ch rest) c.streams.next = rest := by
  have binds := bindServerStream_binds env (Core.addReader
    { c with streams := c.streams.alloc { pipe := .l2cap, owner := .server r, channel := some ch } }
    ch (.stream c.streams.next)) r c.streams.next
  simp only [Core.takeOver]
  generalize Core.bindServerStream env _ r _ = b at binds ⊢
  obtain ⟨readers', acceptors, stream, received⟩ := binds
  have bound : Bound ch a r c.streams.next b :=
    ⟨by simp [readers', Core.addReader, readers], by simp [acceptors, Core.addReader, resumed], stream⟩
  have empty : pushed b c.streams.next = [] := by simp [pushed, received, Core.addReader]
  split
  · refine ⟨⟨bound.readers, bound.resumed, bound.stream⟩, ?_⟩
    rw [pushed_receive, empty, List.nil_append]
  · rename_i none
    exact ⟨bound, empty.trans (List.eq_nil_of_length_eq_zero (by simpa using none)).symm⟩

/-- The continuation binds the session to a stream that starts with the rest. -/
theorem Parted.proceed (h : Parted ch a id rest c) (pending : Pending id r c) (env : Env) :
    Bound ch a r c.streams.next (c.resumeAccept env a) ∧
      pushed (c.resumeAccept env a) c.streams.next = rest := by
  have taken : c.resumeAccept env a =
      (c.setAcceptor a fun acceptor => { acceptor with resumed := true }).takeOver env r ch rest := by
    have named : (c.setAcceptor a fun acceptor =>
        { acceptor with resumed := true }).server.table.get? id = some r := pending.named
    have unbound : ((c.setAcceptor a fun acceptor =>
        { acceptor with resumed := true }).session r).stream = none := pending.unbound
    simp only [Core.resumeAccept, h.result, h.resumed, h.channel, Option.bind_some]
    rw [if_neg Bool.false_ne_true, named]
    simp only [unbound, Option.isSome_none]
    rw [if_neg Bool.false_ne_true]
  rw [taken]
  exact takeOver_binds (c := c.setAcceptor a _) h.readers (by simp [Core.setAcceptor]) env r rest

/-- A chunk behind the preamble and before the continuation is lost. -/
theorem Parted.data (h : Parted ch a id rest c) (chunk : Bytes) :
    c.onChannelData ch chunk = c := by
  simp [Core.onChannelData, h.readers]

theorem Parted.run (h : Parted ch a id rest c) (pending : Pending id r c) (es : List ChannelEvent)
    (continued : ((Runs.run (step ch a) c es).server.acceptors.get a).resumed = true) :
    sessionBytes (Runs.run (step ch a) c es) r = some (rest ++ taken 0 es) := by
  induction es with
  | nil =>
    rw [Runs.run_nil, h.resumed] at continued
    cases continued
  | cons e es ih =>
    cases e with
    | data chunk =>
      have lost : step ch a c (.data chunk) = c := h.data chunk
      rw [Runs.run_cons, lost] at continued ⊢
      exact ih continued
    | proceed env =>
      obtain ⟨bound, first⟩ := h.proceed pending env
      rw [Runs.run_cons, step, bound.run, first, taken]

/-- A chunk that leaves the preamble short is kept. -/
theorem Collecting.short (h : Collecting ch a buf c) (chunk : Bytes)
    (short : (buf ++ chunk).length < sidLen) :
    Collecting ch a (buf ++ chunk) (c.onChannelData ch chunk) ∧
      (c.onChannelData ch chunk).server.table = c.server.table ∧
      (c.onChannelData ch chunk).server.sessions = c.server.sessions := by
  have read : c.onChannelData ch chunk =
      c.setAcceptor a fun acceptor => { acceptor with buf := buf ++ chunk } := by
    simp only [Core.onChannelData, h.readers, List.foldl_cons, List.foldl_nil, Core.readData, h.buf,
      if_neg (Nat.not_le_of_lt short)]
  rw [read]
  exact ⟨⟨h.readers, by simp [Core.setAcceptor, h.channel], by simp [Core.setAcceptor],
    by simp [Core.setAcceptor, h.result], by simp [Core.setAcceptor, h.resumed]⟩, rfl, rfl⟩

/-- A chunk that completes the preamble parts the channel from its listener. -/
theorem Collecting.complete (h : Collecting ch a buf c) (chunk : Bytes)
    (complete : sidLen ≤ (buf ++ chunk).length) :
    Parted ch a (toHex ((buf ++ chunk).take sidLen)) ((buf ++ chunk).drop sidLen)
        (c.onChannelData ch chunk) ∧
      (c.onChannelData ch chunk).server.table = c.server.table ∧
      (c.onChannelData ch chunk).server.sessions = c.server.sessions := by
  have read : c.onChannelData ch chunk =
      (c.setAcceptor a fun acceptor => { acceptor with buf := buf ++ chunk }).finishPreamble a
        (some (toHex ((buf ++ chunk).take sidLen))) ((buf ++ chunk).drop sidLen) := by
    simp only [Core.onChannelData, h.readers, List.foldl_cons, List.foldl_nil, Core.readData, h.buf,
      complete, if_true]
  rw [read]
  exact ⟨⟨by simp [Core.finishPreamble, Core.removeReader, Core.setAcceptor, h.channel, h.readers],
    by simp [Core.finishPreamble, Core.removeReader, Core.setAcceptor, h.channel],
    by simp [Core.finishPreamble, Core.setAcceptor],
    by simp [Core.finishPreamble, Core.removeReader, Core.setAcceptor, h.resumed]⟩, rfl, rfl⟩

theorem Collecting.run (h : Collecting ch a buf c) (short : buf.length < sidLen)
    (es : List ChannelEvent)
    (pending : Pending (toHex ((buf ++ payloads es).take sidLen)) r c)
    (continued : ((Runs.run (step ch a) c es).server.acceptors.get a).resumed = true) :
    sessionBytes (Runs.run (step ch a) c es) r = some (taken (sidLen - buf.length) es) := by
  induction es generalizing c buf with
  | nil =>
    rw [Runs.run_nil, h.resumed] at continued
    cases continued
  | cons e es ih =>
    obtain ⟨need, lacks⟩ : ∃ need, sidLen - buf.length = need + 1 :=
      Nat.exists_eq_add_one.mpr (Nat.sub_pos_of_lt short)
    rw [Runs.run_cons] at continued ⊢
    cases e with
    | data chunk =>
      by_cases still : (buf ++ chunk).length < sidLen
      · obtain ⟨collecting, table, sessions⟩ := h.short chunk still
        rw [payloads, ← List.append_assoc] at pending
        have next := ih collecting still (pending.of_eq table sessions) continued
        have less : need + 1 - chunk.length = sidLen - (buf ++ chunk).length := by
          rw [List.length_append]
          omega
        have none : chunk.drop (need + 1) = [] := by
          rw [List.length_append] at still
          exact List.drop_eq_nil_of_le (by omega)
        rw [lacks, taken, less, none, List.nil_append]
        exact next
      · have complete := Nat.le_of_not_lt still
        obtain ⟨parted, table, sessions⟩ := h.complete chunk complete
        have id :
            (buf ++ payloads (.data chunk :: es)).take sidLen = (buf ++ chunk).take sidLen := by
          rw [payloads, ← List.append_assoc, List.take_append_of_le_length complete]
        rw [id] at pending
        have next := parted.run (pending.of_eq table sessions) es continued
        have none : need + 1 - chunk.length = 0 := by
          rw [List.length_append] at complete
          omega
        have rest : chunk.drop (need + 1) = (buf ++ chunk).drop sidLen := by
          have spent : buf.drop sidLen = [] := List.drop_eq_nil_of_le short.le
          rw [List.drop_append, spent, lacks, List.nil_append]
        rw [lacks, taken, none, rest]
        exact next
    | proceed env =>
      have waits : step ch a c (.proceed env) = c := by simp [step, Core.resumeAccept, h.result]
      rw [waits] at continued ⊢
      rw [ih h short pending continued, lacks, taken]

/-- A fresh channel whose first bytes name a session that awaits it: the bytes that the
session's stream has got, once the continuation has run, are those behind the
preamble exactly when no byte arrived between the preamble and the continuation. -/
theorem switchover_intact_iff (live : env.halted = false) (fresh : c.server.readers ch = [])
    (es : List ChannelEvent) (named : c.server.table.get? (toHex ((payloads es).take sidLen)) = some r)
    (awaits : (c.session r).stream = none)
    (continued : ((Runs.run (step ch c.server.acceptors.next) (c.onServerChannel env ch)
      es).server.acceptors.get c.server.acceptors.next).resumed = true) :
    sessionBytes (Runs.run (step ch c.server.acceptors.next) (c.onServerChannel env ch) es) r =
        some ((payloads es).drop sidLen) ↔
      gap sidLen es = [] := by
  have accepted : c.onServerChannel env ch = c.acceptServer env ch := by
    simp [Core.onServerChannel, live]
  have collecting : Collecting ch c.server.acceptors.next [] (c.onServerChannel env ch) := by
    rw [accepted]
    constructor <;> simp [Core.acceptServer, Core.addReader, fresh]
  have pending :
      Pending (toHex (([] ++ payloads es).take sidLen)) r (c.onServerChannel env ch) := by
    rw [accepted]
    exact ⟨named, awaits⟩
  rw [collecting.run (by decide) es pending continued, Option.some_inj]
  exact taken_eq_iff sidLen es

/-- A server with one session that awaits its channel. -/
def awaiting (id : Bytes) : Core where
  radio := { discoveryUUID := [] }
  central := { peripherals := fun _ => { id := 0 } }
  server :=
    { table := (∅ : OrderedMap Hex Ref).set (toHex id) 0
      sessions := ⟨fun _ => { id := toHex id }, 1⟩ }

/-- An open transport of the l2cap pipe. -/
def openEnv : Env where
  cfg := Config.plain (List.replicate 32 1) .l2cap .ios
  life := { opened := true }
  now := 0

/-- Bytes that come glued to the preamble or behind the continuation are not lost. -/
theorem switchover_intact_glued :
    let id : Bytes := List.replicate 8 9
    sessionBytes (Runs.run (step 5 0) ((awaiting id).onServerChannel openEnv 5)
      [.data (id ++ [1]), .proceed openEnv, .data [2]]) 0 = some [1, 2] := by
  intro id
  exact (switchover_intact_iff (c := awaiting id) (r := 0) rfl rfl
    [.data (id ++ [1]), .proceed openEnv, .data [2]] (by decide +kernel) rfl
    (by decide +kernel)).mpr (by decide +kernel)

/-- A chunk that arrives right behind the id is lost. -/
theorem chunk_behind_id_lost :
    let id : Bytes := List.replicate 8 9
    let events : List ChannelEvent := [.data id, .data [1], .proceed openEnv, .data [2]]
    sessionBytes (Runs.run (step 5 0) ((awaiting id).onServerChannel openEnv 5) events) 0 ≠
      some ((payloads events).drop sidLen) := by
  decide +kernel

end BleSwarm.Switchover
