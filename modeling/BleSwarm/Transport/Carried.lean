import BleSwarm.Transport.Listener.Step

/-!
# What a channel carried

A stream on an L2CAP channel is handed what its channel emits. The bytes before it took the
channel over, behind the id, come with the preamble. Both sides also route DATA frames to
whatever stream is bound, and there the stream of a channel is handed the bytes of a frame.
-/

namespace BleSwarm

/-- The bytes that were pushed into a stream. -/
def Stream.bytes (s : Stream) : Bytes := s.received.flatMap Prod.snd

/-- The part of what a channel emitted that belongs to the stream: what a central writes on a
channel starts with the id. -/
def Owner.share (emitted : Bytes) : Owner → Bytes
  | .server _ => emitted.drop sidLen
  | .central _ _ => emitted

/-- The stream was handed bytes of its channel only, in their order. -/
def Stream.Pure (emitted : Ref → Bytes) (s : Stream) : Prop :=
  (∀ chunk ∈ s.received, chunk.1 = .l2cap) ∧
    ∃ ch ∈ s.channel, s.bytes.Sublist (s.owner.share (emitted ch))

instance (emitted : Ref → Bytes) (s : Stream) : Decidable (s.Pure emitted) :=
  inferInstanceAs (Decidable (_ ∧ _))

/-- One 'data' event, as an acceptor reads it. -/
def Acceptor.read (data : Bytes) (a : Acceptor) : Acceptor :=
  if sidLen ≤ (a.buf ++ data).length then
    { a with
      buf := a.buf ++ data
      timer := none
      result := some (some (toHex ((a.buf ++ data).take sidLen)), (a.buf ++ data).drop sidLen) }
  else { a with buf := a.buf ++ data }

namespace Core

variable {env : Env} {c c' c'' : Core} {emitted emitted' : Ref → Bytes}

/-! What pushes nothing. -/

/-- No channel is read, no stream is put on one, and nothing is pushed unless `pushes`. A stream
is made only where the pipe is gatt. -/
structure Still (name : Pipe) (pushes : Prop) (c c' : Core) : Prop where
  joins : Joins True c.streams c'.streams
  flows : Flows pushes c.streams c'.streams
  opens : c'.streams.next = c.streams.next ∨ name = .gatt
  readers : c'.server.readers = c.server.readers
  acceptors : c'.server.acceptors = c.server.acceptors

variable {name : Pipe} {pushes : Prop}

namespace Still

theorem of_same (streams : c'.streams = c.streams) (readers : c'.server.readers = c.server.readers)
    (acceptors : c'.server.acceptors = c.server.acceptors) : Still name pushes c c' :=
  ⟨streams ▸ .refl _, streams ▸ .refl _, .inl (streams ▸ rfl), readers, acceptors⟩

theorem refl (c : Core) : Still name pushes c c := .of_same rfl rfl rfl

theorem trans (h : Still name pushes c c') (h' : Still name pushes c' c'') :
    Still name pushes c c'' :=
  ⟨h.joins.trans h'.joins, .trans h.joins.grows h'.joins.grows h.flows h'.flows,
    h'.opens.elim (fun same => h.opens.imp_left same.trans) .inr, h'.readers.trans h.readers,
    h'.acceptors.trans h.acceptors⟩

theorem foldl {α : Type*} {f : Core → α → Core} (step : ∀ c a, Still name pushes c (f c a))
    (c : Core) (as : List α) : Still name pushes c (as.foldl f c) :=
  Runs.foldl_related refl trans step c as

theorem iterate {f : Core → Core} (step : ∀ c, Still name pushes c (f c)) (n : Nat) (c : Core) :
    Still name pushes c (f^[n] c) :=
  Runs.iterate_related refl trans step n c

end Still

/-- What pushes nothing is still whatever may be pushed. -/
theorem Still.silent {pushes' : Prop} (h : Still name pushes c c') (silent : ¬ pushes) :
    Still name pushes' c c' := by
  refine ⟨h.joins, ⟨h.flows.pipe, h.flows.beyond, h.flows.channel, fun st lt => .inl ?_,
    fun st lt ge => ?_⟩, h.opens, h.readers, h.acceptors⟩
  · exact (h.flows.received st lt).resolve_right fun more => silent more.1
  · obtain ⟨pipe, empty⟩ := h.flows.new st lt ge
    exact ⟨pipe, .inr (empty.resolve_left silent)⟩

theorem Quiet.still (h : Quiet c c') : Still name pushes c c' :=
  .of_same h.streams h.readers h.acceptors

theorem spans_still : Spans (Still name pushes) := ⟨Quiet.still, Still.trans⟩

/-- Handlers that read no channel. -/
theorem Performs.still {effects : Effects} (h : Performs env effects c c')
    (unread : effects.channels = false) : Still env.cfg.pipe (effects.receives = true) c c' := by
  induction h with
  | trans _ _ ih ih' => exact ih.trans ih'
  | maybeCycle c serves due => exact (maybeCycle_quiet env c).still
  | startScan c scans => exact (startScan_radioOnly env c).quiet.still
  | stopScan c scans => exact (stopScan_radioOnly c).quiet.still
  | armScanRestart c live => exact (armScanRestart_radioOnly env c).quiet.still
  | onScanTimer c scans => exact (onScanTimer_radioOnly env c).quiet.still
  | streams c streams joins flows makes opens =>
    exact ⟨⟨joins.grows, joins.owner, fun _ _ _ => .inl trivial⟩, flows, opens, rfl, rfl⟩
  | channels c streams acceptors readers joins carried makes channels => simp [unread] at channels
  | _ => exact .of_same rfl rfl rfl

theorem destroyStream_still (c : Core) (st : Ref) : Still name pushes c (c.destroyStream st) :=
  ⟨.of_modify (f := fun s => { s with destroyed := true }) st fun _ => rfl,
    .of_modify c.streams (f := fun s => { s with destroyed := true }) st fun _ => ⟨rfl, rfl, rfl⟩,
    .inl rfl, rfl, rfl⟩

theorem reapAllSessions_still (c : Core) : Still name pushes c c.reapAllSessions := by
  have reaped : ∀ c : Core, Still name pushes c { c with server.table := ∅ } :=
    fun _ => .of_same rfl rfl rfl
  have untimed : ∀ (c : Core) r,
      Still name pushes c (c.setSession r fun s => { s with pipeTimer := none }) :=
    fun _ _ => .of_same rfl rfl rfl
  unfold reapAllSessions
  refine Still.trans (Still.foldl (fun c r => ?_) c _) (reaped _)
  simp only
  split
  · exact (untimed c r).trans (destroyStream_still _ _)
  · exact untimed c r

theorem onRadioDown_still (c : Core) : Still name pushes c c.onRadioDown := by
  have parted : Still name pushes c ({ { c with
      radio := { c.radio with
        radioWasDown := true, radioCycled := true, serviceAdded := false,
        advertising := false, scanning := false } }.clearDeviceTimers with
      dial.devices := ∅ }.destroyPeers) :=
    .of_same rfl rfl rfl
  have reset : ∀ c : Core, Still name pushes c { c with gatt := c.gatt.reset } :=
    fun _ => .of_same rfl rfl rfl
  exact (parted.trans (reapAllSessions_still _)).trans (reset _)

theorem forget_still (c : Core) : Still name pushes c c.forget := by
  have cleared : Still name pushes c { c.destroyPeers with links.peers := ∅ } :=
    .of_same rfl rfl rfl
  have ended : ∀ c : Core,
      Still name pushes c { c with gatt := c.gatt.reset, server.cyclePending := false } :=
    fun _ => .of_same rfl rfl rfl
  exact (cleared.trans (reapAllSessions_still _)).trans (ended _)

theorem Calls.still (h : Calls env c c') : Still name pushes c c' := by
  refine spans_still.calls forget_still (fun c => ?_) h
  rw [doClose_eq]
  exact .of_same rfl rfl rfl

theorem onConnOpen_still (env : Env) (c : Core) (r : Ref) (key : Bytes) :
    Still name pushes c (c.onConnOpen env r key) := by
  let proved : Core := { c with links := c.links.prove r key }
  have noted : Quiet proved (proved.notePeerKey r) := notePeerKey_quiet r
  have still : Still name pushes c (proved.notePeerKey r) :=
    .of_same noted.streams noted.readers noted.acceptors
  simp only [onConnOpen, track]
  split
  · split
    · exact still
    · split
      · exact still.trans (.of_same rfl rfl rfl)
      · exact still.trans (.of_same rfl rfl rfl)
  · exact .refl c

/-! The invariant. -/

/-- Every stream on a channel is pure, and what is still on its way to one will keep it so. -/
structure Carried (name : Pipe) (emitted : Ref → Bytes) (c : Core) : Prop where
  beyond : ∀ st, c.streams.next ≤ st → (c.streams.get st).pipe = .gatt
  pure : ∀ st, (c.streams.get st).pipe = .l2cap → (c.streams.get st).Pure emitted
  /-- A server's stream on a channel has the preamble behind it. -/
  begun : ∀ st r, (c.streams.get st).pipe = .l2cap → (c.streams.get st).owner = .server r →
    ∀ ch ∈ (c.streams.get st).channel, sidLen ≤ (emitted ch).length
  once : ∀ ch, (c.server.readers ch).Nodup
  streams : ∀ ch st, .stream st ∈ c.server.readers ch →
    (c.streams.get st).pipe = .l2cap ∧ (c.streams.get st).channel = some ch
  preambles : ∀ ch a, .preamble a ∈ c.server.readers ch →
    a < c.server.acceptors.next ∧ (c.server.acceptors.get a).channel = ch
  collected : ∀ a,
    (c.server.acceptors.get a).buf.Sublist (emitted (c.server.acceptors.get a).channel)
  parted : ∀ a id rest, (c.server.acceptors.get a).result = some (some id, rest) →
    sidLen ≤ (emitted (c.server.acceptors.get a).channel).length ∧
      rest.Sublist ((emitted (c.server.acceptors.get a).channel).drop sidLen)
  /-- Where the pipe is l2cap there are no other streams. -/
  rides : name = .l2cap → ∀ st < c.streams.next, (c.streams.get st).pipe = .l2cap

theorem share_mono {emitted emitted' : Bytes} (more : emitted <+: emitted') (owner : Owner) :
    (owner.share emitted).Sublist (owner.share emitted') := by
  cases owner with
  | server r => exact more.sublist.drop sidLen
  | central p sess => exact more.sublist

theorem pure_mono (more : ∀ ch, emitted ch <+: emitted' ch) {s : Stream} (h : s.Pure emitted) :
    s.Pure emitted' := by
  obtain ⟨via, ch, here, bytes⟩ := h
  exact ⟨via, ch, here, bytes.trans (share_mono (more ch) s.owner)⟩

/-- More that a channel emits does no harm. -/
theorem Carried.mono (h : Carried name emitted c) (more : ∀ ch, emitted ch <+: emitted' ch) :
    Carried name emitted' c where
  beyond := h.beyond
  pure st pipe := pure_mono more (h.pure st pipe)
  begun st r pipe owner ch here := (h.begun st r pipe owner ch here).trans (more ch).length_le
  once := h.once
  streams := h.streams
  preambles := h.preambles
  collected a := (h.collected a).trans (more _).sublist
  parted a id rest result := by
    obtain ⟨long, bytes⟩ := h.parted a id rest result
    exact ⟨long.trans (more _).length_le, bytes.trans ((more _).sublist.drop sidLen)⟩
  rides := h.rides

/-- A stream on a channel is one of before, with what it was handed before. -/
theorem Still.channeled (h : Still name pushes c c') (silent : ¬ pushes)
    (beyond : ∀ st, c.streams.next ≤ st → (c.streams.get st).pipe = .gatt)
    {st : Ref} (pipe : (c'.streams.get st).pipe = .l2cap) :
    (c.streams.get st).pipe = .l2cap ∧ (c'.streams.get st).channel = (c.streams.get st).channel ∧
      (c'.streams.get st).owner = (c.streams.get st).owner ∧
      (c'.streams.get st).received = (c.streams.get st).received := by
  rcases lt_or_ge st c.streams.next with old | new
  · have received := (h.flows.received st old).resolve_right fun more => silent more.1
    exact ⟨(h.flows.pipe st old).symm.trans pipe, h.flows.channel st old, h.joins.owner st old,
      received⟩
  · rcases lt_or_ge st c'.streams.next with made | past
    · exact absurd ((h.flows.new st made new).1.symm.trans pipe) (by decide)
    · exact absurd ((h.flows.beyond st past).symm.trans pipe) (by simp [beyond st new])

/-- A stream that reads its channel has been made. -/
theorem Carried.reader_lt (h : Carried name emitted c) {ch st : Ref}
    (reads : .stream st ∈ c.server.readers ch) :
    st < c.streams.next := by
  by_contra new
  exact absurd ((h.streams ch st reads).1.symm.trans (h.beyond st (Nat.le_of_not_lt new)))
    (by decide)

theorem Still.carried (h : Still name pushes c c') (silent : ¬ pushes)
    (carried : Carried name emitted c) : Carried name emitted c' := by
  have same :=
    fun st (pipe : (c'.streams.get st).pipe = .l2cap) => h.channeled silent carried.beyond pipe
  refine ⟨fun st ge => ?_, fun st pipe => ?_, fun st r pipe owner => ?_, ?_, fun ch st mem => ?_,
    ?_, ?_, ?_, fun l2cap st lt => ?_⟩
  · rw [h.flows.beyond st ge]
    exact carried.beyond st (h.joins.grows.trans ge)
  · obtain ⟨before, channel, owner, received⟩ := same st pipe
    have pure := carried.pure st before
    simpa only [Stream.Pure, Stream.bytes, channel, owner, received] using pure
  · obtain ⟨before, channel, owner', -⟩ := same st pipe
    rw [channel]
    exact carried.begun st r before (owner'.symm.trans owner)
  · rw [h.readers]
    exact carried.once
  · rw [h.readers] at mem
    obtain ⟨pipe, channel⟩ := carried.streams ch st mem
    have old := carried.reader_lt mem
    exact ⟨(h.flows.pipe st old).trans pipe, (h.flows.channel st old).trans channel⟩
  · rw [h.readers, h.acceptors]
    exact carried.preambles
  · rw [h.acceptors]
    exact carried.collected
  · rw [h.acceptors]
    exact carried.parted
  · have none : ¬ name = .gatt := by simp [l2cap]
    have old : st < c.streams.next := h.opens.resolve_right none ▸ lt
    exact (h.flows.pipe st old).trans (carried.rides l2cap st old)

theorem Quiet.carried (h : Quiet c c') (carried : Carried name emitted c) :
    Carried name emitted c' := by
  have still : Still name False c c' := h.still
  exact still.carried not_false carried

/-! Chunks. -/

/-- A chunk that keeps its stream pure, if that is on a channel. -/
theorem Carried.push (h : Carried name emitted c) (st : Ref) {via : Pipe} {chunk : Bytes}
    (pure : (c.streams.get st).pipe = .l2cap →
      { c.streams.get st with received := (c.streams.get st).received ++ [(via, chunk)] }.Pure emitted) :
    Carried name emitted (c.receive st via chunk) := by
  let push : Stream → Stream := fun s => { s with received := s.received ++ [(via, chunk)] }
  have pipe : ∀ k, ((c.receive st via chunk).streams.get k).pipe = (c.streams.get k).pipe :=
    fun k => c.streams.modify_get_view st k push Stream.pipe fun _ => rfl
  have channel : ∀ k, ((c.receive st via chunk).streams.get k).channel =
      (c.streams.get k).channel :=
    fun k => c.streams.modify_get_view st k push Stream.channel fun _ => rfl
  have owner : ∀ k, ((c.receive st via chunk).streams.get k).owner = (c.streams.get k).owner :=
    fun k => c.streams.modify_get_view st k push Stream.owner fun _ => rfl
  refine ⟨fun k ge => (pipe k).trans (h.beyond k ge), fun k l2cap => ?_, fun k r l2cap own => ?_,
    h.once, fun ch k mem => ?_, h.preambles, h.collected, h.parted, fun l2cap k lt => ?_⟩
  · rw [pipe] at l2cap
    by_cases here : k = st
    · subst here
      have pushed : (c.receive k via chunk).streams.get k = push (c.streams.get k) :=
        c.streams.modify_get_self k push
      rw [pushed]
      exact pure l2cap
    · have other : (c.receive st via chunk).streams.get k = c.streams.get k :=
        c.streams.modify_get_of_ne push here
      rw [other]
      exact h.pure k l2cap
  · rw [channel]
    exact h.begun k r ((pipe k).symm.trans l2cap) ((owner k).symm.trans own)
  · rw [pipe, channel]
    exact h.streams ch k mem
  · exact (pipe k).trans (h.rides l2cap k lt)

/-- A chunk of a frame is pushed into a stream that is on no channel. -/
theorem Carried.frame (h : Carried name emitted c) {st : Ref}
    (gatt : (c.streams.get st).pipe = .gatt) (chunk : Bytes) :
    Carried name emitted (c.receive st .gatt chunk) :=
  h.push st fun l2cap => absurd (gatt.symm.trans l2cap) (by decide)

/-! A 'data' event. -/

/-- Each of the readers has read the data. -/
structure Fed (readers : List Reader) (data : Bytes) (c c' : Core) : Prop where
  next : c'.streams.next = c.streams.next
  accepted : c'.server.acceptors.next = c.server.acceptors.next
  pushed : ∀ st, .stream st ∈ readers → c'.streams.get st =
    { c.streams.get st with received := (c.streams.get st).received ++ [(.l2cap, data)] }
  spared : ∀ st, .stream st ∉ readers → c'.streams.get st = c.streams.get st
  read : ∀ a, .preamble a ∈ readers →
    c'.server.acceptors.get a = (c.server.acceptors.get a).read data
  unread : ∀ a, .preamble a ∉ readers → c'.server.acceptors.get a = c.server.acceptors.get a
  readers : ∀ ch, (c'.server.readers ch).Sublist (c.server.readers ch)

theorem removeReader_sublist (c : Core) (ch : Ref) (reader : Reader) (k : Ref) :
    ((c.removeReader ch reader).server.readers k).Sublist (c.server.readers k) := by
  simp only [removeReader]
  by_cases here : k = ch
  · subst here
    rw [Function.update_self]
    exact List.erase_sublist
  · rw [Function.update_of_ne here]

theorem readData_fed (c : Core) (reader : Reader) (data : Bytes) :
    Fed [reader] data c (c.readData reader data) := by
  cases reader with
  | stream st =>
    let push : Stream → Stream := fun s => { s with received := s.received ++ [(.l2cap, data)] }
    refine ⟨rfl, rfl, fun k mem => ?_, fun k other => ?_, by simp, fun _ _ => rfl, fun _ => .refl _⟩
    · obtain rfl : k = st := by simpa using mem
      exact c.streams.modify_get_self k push
    · exact c.streams.modify_get_of_ne push (by simpa using other)
  | preamble a =>
    let buf : Bytes := (c.server.acceptors.get a).buf ++ data
    let fill : Acceptor → Acceptor := fun acceptor => { acceptor with buf := buf }
    let finish : Acceptor → Acceptor := fun acceptor =>
      { acceptor with
        timer := none, result := some (some (toHex (buf.take sidLen)), buf.drop sidLen) }
    let reading : Core := c.setAcceptor a fill
    have here : reading.server.acceptors.get a = fill (c.server.acceptors.get a) :=
      c.server.acceptors.modify_get_self a fill
    have other : ∀ k ≠ a, reading.server.acceptors.get k = c.server.acceptors.get k :=
      fun k ne => c.server.acceptors.modify_get_of_ne fill ne
    have run : c.readData (.preamble a) data = if sidLen ≤ buf.length then
          reading.finishPreamble a (some (toHex (buf.take sidLen))) (buf.drop sidLen)
        else reading :=
      rfl
    rw [run]
    split
    · rename_i whole
      refine ⟨rfl, rfl, by simp, fun _ _ => rfl, fun k mem => ?_, fun k absent => ?_, fun ch => ?_⟩
      · obtain rfl : k = a := by simpa using mem
        have read : (c.server.acceptors.get k).read data =
            finish (fill (c.server.acceptors.get k)) :=
          if_pos whole
        rw [read, ← here]
        exact reading.server.acceptors.modify_get_self k finish
      · have ne : k ≠ a := by simpa using absent
        exact (reading.server.acceptors.modify_get_of_ne finish ne).trans (other k ne)
      · exact removeReader_sublist reading _ _ ch
    · rename_i short
      refine ⟨rfl, rfl, by simp, fun _ _ => rfl, fun k mem => ?_, fun k absent => ?_,
        fun ch => .refl _⟩
      · obtain rfl : k = a := by simpa using mem
        exact here.trans (if_neg short).symm
      · exact other k (by simpa using absent)

theorem Fed.cons {reader : Reader} {readers : List Reader} {data : Bytes}
    (first : Fed [reader] data c c') (rest : Fed readers data c' c'') (once : reader ∉ readers) :
    Fed (reader :: readers) data c c'' where
  next := rest.next.trans first.next
  accepted := rest.accepted.trans first.accepted
  pushed st mem := by
    rcases List.mem_cons.mp mem with rfl | later
    · exact (rest.spared st once).trans (first.pushed st List.mem_cons_self)
    · have other : Reader.stream st ∉ [reader] := by
        rw [List.mem_singleton]
        rintro rfl
        exact once later
      rw [rest.pushed st later, first.spared st other]
  spared st absent := by
    obtain ⟨other, later⟩ := not_or.mp fun either => absent (List.mem_cons.mpr either)
    rw [rest.spared st later, first.spared st (by simpa using other)]
  read a mem := by
    rcases List.mem_cons.mp mem with rfl | later
    · exact (rest.unread a once).trans (first.read a List.mem_cons_self)
    · have other : Reader.preamble a ∉ [reader] := by
        rw [List.mem_singleton]
        rintro rfl
        exact once later
      rw [rest.read a later, first.unread a other]
  unread a absent := by
    obtain ⟨other, later⟩ := not_or.mp fun either => absent (List.mem_cons.mpr either)
    rw [rest.unread a later, first.unread a (by simpa using other)]
  readers ch := (rest.readers ch).trans (first.readers ch)

theorem onChannelData_fed {readers : List Reader} (once : readers.Nodup) (data : Bytes) (c : Core) :
    Fed readers data c (readers.foldl (fun c reader => c.readData reader data) c) := by
  induction readers generalizing c with
  | nil =>
    exact ⟨rfl, rfl, by simp, fun _ _ => rfl, by simp, fun _ _ => rfl, fun _ => .refl _⟩
  | cons reader readers ih =>
    obtain ⟨fresh, once⟩ := List.nodup_cons.mp once
    exact (readData_fed c reader data).cons (ih once _) fresh

/-- What an acceptor has read is what its channel emitted, the id in front. -/
theorem read_parted {a : Acceptor} {data : Bytes} {id : Hex} {rest : Bytes}
    (parted : (a.read data).result = some (some id, rest)) :
    a.result = some (some id, rest) ∨
      sidLen ≤ (a.buf ++ data).length ∧ rest = (a.buf ++ data).drop sidLen := by
  unfold Acceptor.read at parted
  split at parted
  · rename_i whole
    obtain ⟨-, rfl⟩ := Prod.mk.inj (Option.some.inj parted)
    exact .inr ⟨whole, rfl⟩
  · exact .inl parted

theorem read_buf (data : Bytes) (a : Acceptor) :
    (a.read data).buf = a.buf ++ data ∧ (a.read data).channel = a.channel := by
  unfold Acceptor.read
  split <;> exact ⟨rfl, rfl⟩

/-- What the channel emitted, with one more chunk. -/
def emit (emitted : Ref → Bytes) (ch : Ref) (data : Bytes) : Ref → Bytes :=
  Function.update emitted ch (emitted ch ++ data)

theorem emit_more (emitted : Ref → Bytes) (ch : Ref) (data : Bytes) (k : Ref) :
    emitted k <+: emit emitted ch data k := by
  unfold emit
  by_cases here : k = ch
  · subst here
    rw [Function.update_self]
    exact List.prefix_append _ _
  · have same : Function.update emitted ch (emitted ch ++ data) k = emitted k :=
      Function.update_of_ne here ..
    exact same ▸ List.prefix_refl _

theorem emit_here (emitted : Ref → Bytes) (ch : Ref) (data : Bytes) :
    emit emitted ch data ch = emitted ch ++ data := Function.update_self ..

/-- Readers read, and stay what they are. -/
theorem Fed.shape {readers : List Reader} {data : Bytes} (fed : Fed readers data c c') (st : Ref) :
    (c'.streams.get st).pipe = (c.streams.get st).pipe ∧
      (c'.streams.get st).channel = (c.streams.get st).channel ∧
      (c'.streams.get st).owner = (c.streams.get st).owner := by
  by_cases reads : .stream st ∈ readers
  · rw [fed.pushed st reads]
    exact ⟨rfl, rfl, rfl⟩
  · rw [fed.spared st reads]
    exact ⟨rfl, rfl, rfl⟩

theorem Fed.channel {readers : List Reader} {data : Bytes} (fed : Fed readers data c c') (a : Ref) :
    (c'.server.acceptors.get a).channel = (c.server.acceptors.get a).channel := by
  by_cases reads : .preamble a ∈ readers
  · rw [fed.read a reads, (read_buf _ _).2]
  · rw [fed.unread a reads]

section

variable {ch : Ref} {data : Bytes}

/-- What a stream on the channel is handed is what the channel emits. -/
theorem Fed.pure (fed : Fed (c.server.readers ch) data c c') (h : Carried name emitted c) (st : Ref)
    (pipe : (c.streams.get st).pipe = .l2cap) :
    (c'.streams.get st).Pure (emit emitted ch data) := by
  by_cases reads : .stream st ∈ c.server.readers ch
  · obtain ⟨via, k, on, bytes⟩ := h.pure st pipe
    obtain rfl : k = ch := Option.some.inj (on.symm.trans (h.streams ch st reads).2)
    rw [fed.pushed st reads]
    refine ⟨fun chunk mem => ?_, k, on, ?_⟩
    · rcases List.mem_append.mp mem with old | new
      · exact via chunk old
      · rw [List.mem_singleton.mp new]
    · have more : (c.streams.get st).owner.share (emit emitted k data k) =
          (c.streams.get st).owner.share (emitted k) ++ data := by
        rw [emit_here]
        cases owner : (c.streams.get st).owner with
        | server r => exact List.drop_append_of_le_length (h.begun st r pipe owner k on)
        | central p sess => rfl
      simp only [more]
      have pushed := bytes.append (List.Sublist.refl data)
      simpa [Stream.bytes] using pushed
  · rw [fed.spared st reads]
    exact pure_mono (emit_more emitted ch data) (h.pure st pipe)

theorem Fed.collected (fed : Fed (c.server.readers ch) data c c') (h : Carried name emitted c)
    (a : Ref) :
    (c'.server.acceptors.get a).buf.Sublist
      (emit emitted ch data (c'.server.acceptors.get a).channel) := by
  have collected := h.collected a
  rw [fed.channel]
  by_cases reads : .preamble a ∈ c.server.readers ch
  · have on := (h.preambles ch a reads).2
    rw [on] at collected
    rw [fed.read a reads, (read_buf _ _).1, on, emit_here]
    exact collected.append (.refl data)
  · rw [fed.unread a reads]
    exact collected.trans (emit_more emitted ch data _).sublist

theorem Fed.parted (fed : Fed (c.server.readers ch) data c c') (h : Carried name emitted c)
    {a : Ref} {id : Hex} {rest : Bytes}
    (parted : (c'.server.acceptors.get a).result = some (some id, rest)) :
    sidLen ≤ (emit emitted ch data (c'.server.acceptors.get a).channel).length ∧
      rest.Sublist ((emit emitted ch data (c'.server.acceptors.get a).channel).drop sidLen) := by
  have grown := h.mono (emit_more emitted ch data)
  rw [fed.channel]
  by_cases reads : .preamble a ∈ c.server.readers ch
  · have on := (h.preambles ch a reads).2
    have collected := h.collected a
    rw [fed.read a reads] at parted
    rcases read_parted parted with before | ⟨whole, rfl⟩
    · exact grown.parted a id rest before
    · rw [on] at collected ⊢
      rw [emit_here]
      have grown := collected.append (List.Sublist.refl data)
      exact ⟨whole.trans grown.length_le, grown.drop sidLen⟩
  · rw [fed.unread a reads] at parted
    exact grown.parted a id rest parted

theorem Fed.carried (fed : Fed (c.server.readers ch) data c c') (h : Carried name emitted c) :
    Carried name (emit emitted ch data) c' := by
  have grown := h.mono (emit_more emitted ch data)
  refine ⟨fun st ge => ?_, fun st pipe => ?_, fun st r pipe owner => ?_, fun k => ?_,
    fun k st mem => ?_, fun k a mem => ?_, fed.collected h, fun a id rest => fed.parted h, fun l2cap st lt => ?_⟩
  · rw [(fed.shape st).1]
    exact h.beyond st (fed.next ▸ ge)
  · exact fed.pure h st ((fed.shape st).1.symm.trans pipe)
  · rw [(fed.shape st).2.1]
    exact grown.begun st r ((fed.shape st).1.symm.trans pipe) ((fed.shape st).2.2.symm.trans owner)
  · exact (fed.readers k).nodup (h.once k)
  · rw [(fed.shape st).1, (fed.shape st).2.1]
    exact h.streams k st ((fed.readers k).subset mem)
  · rw [fed.accepted, fed.channel]
    exact h.preambles k a ((fed.readers k).subset mem)
  · exact (fed.shape st).1.trans (h.rides l2cap st (fed.next ▸ lt))

end

/-! Readers that come and go. -/

theorem mem_addReader {ch k : Ref} {reader other : Reader} :
    other ∈ (c.addReader ch reader).server.readers k ↔
      other ∈ c.server.readers k ∨ k = ch ∧ other = reader := by
  simp only [addReader]
  by_cases here : k = ch
  · subst here
    simp
  · simp [here]

theorem addReader_once {ch : Ref} {reader : Reader} (once : ∀ k, (c.server.readers k).Nodup)
    (fresh : reader ∉ c.server.readers ch) (k : Ref) :
    ((c.addReader ch reader).server.readers k).Nodup := by
  simp only [addReader]
  by_cases here : k = ch
  · subst here
    rw [Function.update_self]
    exact (once k).append (List.nodup_singleton reader) (by simpa using fresh)
  · rw [Function.update_of_ne here]
    exact once k

/-- A channel comes in, and its preamble is read. -/
theorem acceptServer_carried (h : Carried name emitted c) (env : Env) (ch : Ref) :
    Carried name emitted (c.acceptServer env ch) := by
  let a : Acceptor := { channel := ch, timer := some (env.now + env.cfg.timeout) }
  let made : Core := { c with server.acceptors := c.server.acceptors.alloc a }
  have run : c.acceptServer env ch = made.addReader ch (.preamble c.server.acceptors.next) := rfl
  have fresh : .preamble c.server.acceptors.next ∉ c.server.readers ch :=
    fun mem => absurd (h.preambles ch _ mem).1 (lt_irrefl _)
  have new : (c.server.acceptors.alloc a).get c.server.acceptors.next = a :=
    c.server.acceptors.alloc_get_next a
  have old : ∀ k ≠ c.server.acceptors.next,
      (c.server.acceptors.alloc a).get k = c.server.acceptors.get k :=
    fun k ne => c.server.acceptors.alloc_get_of_ne a ne
  rw [run]
  refine ⟨h.beyond, h.pure, h.begun, addReader_once h.once fresh, fun k st mem => ?_,
    fun k r mem => ?_, fun r => ?_, fun r id rest parted => ?_, h.rides⟩
  · rcases mem_addReader.mp mem with before | ⟨-, other⟩
    · exact h.streams k st before
    · cases other
  · rcases mem_addReader.mp mem with before | ⟨rfl, same⟩
    · obtain ⟨lt, on⟩ := h.preambles k r before
      exact ⟨Nat.lt_succ_of_lt lt, (congrArg Acceptor.channel (old r lt.ne)).trans on⟩
    · obtain rfl := Reader.preamble.inj same
      exact ⟨Nat.lt_succ_self _, congrArg Acceptor.channel new⟩
  · by_cases here : r = c.server.acceptors.next
    · subst here
      have empty : ((c.server.acceptors.alloc a).get c.server.acceptors.next).buf = [] := by
        rw [new]
      exact empty ▸ List.nil_sublist _
    · have same := old r here
      exact same ▸ h.collected r
  · by_cases here : r = c.server.acceptors.next
    · subst here
      have parted : ((c.server.acceptors.alloc a).get c.server.acceptors.next).result =
        some (some id, rest) := parted
      rw [new] at parted
      cases parted
    · have same := old r here
      have before : (c.server.acceptors.get r).result = some (some id, rest) := same ▸ parted
      exact same ▸ h.parted r id rest before

/-- An acceptor changes, but not what it has read, and readers may go. -/
theorem Carried.acceptors (h : Carried name emitted c) (a : Ref) {f : Acceptor → Acceptor}
    (keep : ∀ acceptor, (f acceptor).channel = acceptor.channel ∧ (f acceptor).buf = acceptor.buf)
    (result : ∀ acceptor id rest, (f acceptor).result = some (some id, rest) →
      acceptor.result = some (some id, rest)) {readers : Ref → List Reader}
    (fewer : ∀ ch, (readers ch).Sublist (c.server.readers ch)) :
    Carried name emitted { c with
      server.acceptors := c.server.acceptors.modify a f, server.readers := readers } := by
  have channel : ∀ k, ((c.server.acceptors.modify a f).get k).channel =
      (c.server.acceptors.get k).channel :=
    fun k => c.server.acceptors.modify_get_view a k f Acceptor.channel fun s => (keep s).1
  have buf : ∀ k, ((c.server.acceptors.modify a f).get k).buf = (c.server.acceptors.get k).buf :=
    fun k => c.server.acceptors.modify_get_view a k f Acceptor.buf fun s => (keep s).2
  refine ⟨h.beyond, h.pure, h.begun, fun k => (fewer k).nodup (h.once k),
    fun k st mem => h.streams k st ((fewer k).subset mem), fun k r mem => ?_, fun r => ?_,
    fun r id rest parted => ?_, h.rides⟩
  · obtain ⟨lt, on⟩ := h.preambles k r ((fewer k).subset mem)
    exact ⟨lt, (channel r).trans on⟩
  · have collected := h.collected r
    rwa [← channel r, ← buf r] at collected
  · have before : (c.server.acceptors.get r).result = some (some id, rest) := by
      have parted : ((c.server.acceptors.modify a f).get r).result = some (some id, rest) := parted
      rw [Heap.modify_get] at parted
      split at parted
      · rename_i here
        exact here ▸ result _ id rest parted
      · exact parted
    have out := h.parted r id rest before
    rwa [← channel r] at out

theorem onPreambleTimeout_carried (h : Carried name emitted c) (env : Env) (a : Ref) :
    Carried name emitted (c.onPreambleTimeout env a) := by
  unfold onPreambleTimeout
  split
  · exact h
  · split
    · exact h
    · refine h.acceptors a
        (f := fun acceptor => { acceptor with timer := none, result := some (none, []) })
        (fun _ => ⟨rfl, rfl⟩) (fun _ id rest parted => ?_) (removeReader_sublist c _ _)
      cases parted

/-- A new stream for a channel, to which nothing was pushed yet. -/
theorem Carried.alloc (h : Carried name emitted c) {s : Stream} {ch : Ref} (pipe : s.pipe = .l2cap)
    (on : s.channel = some ch) (empty : s.received = [])
    (begun : ∀ r, s.owner = .server r → sidLen ≤ (emitted ch).length) :
    Carried name emitted { c with streams := c.streams.alloc s } := by
  have new : (c.streams.alloc s).get c.streams.next = s := c.streams.alloc_get_next s
  have old : ∀ k ≠ c.streams.next, (c.streams.alloc s).get k = c.streams.get k :=
    fun k ne => c.streams.alloc_get_of_ne s ne
  have pure : s.Pure emitted := by
    refine ⟨by simp [empty], ch, on, ?_⟩
    simp [Stream.bytes, empty]
  refine ⟨fun k ge => ?_, fun k l2cap => ?_, fun k r l2cap own k' on' => ?_, h.once,
    fun k r mem => ?_, h.preambles, h.collected, h.parted, fun l2cap k lt => ?_⟩
  · have same := old k (Nat.lt_of_succ_le ge).ne'
    exact same ▸ h.beyond k (Nat.le_of_succ_le ge)
  · by_cases here : k = c.streams.next
    · subst here
      rw [← new] at pure
      exact pure
    · have same := old k here
      exact same ▸ h.pure k (same ▸ l2cap)
  · by_cases here : k = c.streams.next
    · subst here
      have same := new
      have on' : s.channel = some k' := same ▸ on'
      obtain rfl := Option.some.inj (on.symm.trans on')
      exact begun r (same ▸ own)
    · have same := old k here
      exact h.begun k r (same ▸ l2cap) (same ▸ own) k' (same ▸ on')
  · have same := old r (h.reader_lt mem).ne
    exact same ▸ h.streams k r mem
  · by_cases here : k = c.streams.next
    · subst here
      have same := new
      exact same.symm ▸ pipe
    · have same := old k here
      have before : k < c.streams.next := lt_of_le_of_ne (Nat.le_of_lt_succ lt) here
      exact same ▸ h.rides l2cap k before

/-- It reads the channel. -/
theorem putOn_carried (h : Carried name emitted c) {s : Stream} {ch : Ref} (pipe : s.pipe = .l2cap)
    (on : s.channel = some ch) (empty : s.received = [])
    (begun : ∀ r, s.owner = .server r → sidLen ≤ (emitted ch).length) :
    Carried name emitted
      (addReader { c with streams := c.streams.alloc s } ch (.stream c.streams.next)) := by
  have made := h.alloc pipe on empty begun
  have fresh : .stream c.streams.next ∉ c.server.readers ch :=
    fun mem => absurd (h.reader_lt mem) (lt_irrefl _)
  refine ⟨made.beyond, made.pure, made.begun, addReader_once made.once fresh, fun k r mem => ?_,
    fun k a mem => ?_, made.collected, made.parted, made.rides⟩
  · rcases mem_addReader.mp mem with before | ⟨rfl, same⟩
    · exact made.streams k r before
    · obtain rfl := Reader.stream.inj same
      have new : (c.streams.alloc s).get c.streams.next = s := c.streams.alloc_get_next s
      exact new.symm ▸ ⟨pipe, on⟩
  · rcases mem_addReader.mp mem with before | ⟨-, other⟩
    · exact made.preambles k a before
    · cases other

/-- The session gets a stream on the accepted channel, and the bytes behind the id with it. -/
theorem takeOver_carried (h : Carried env.cfg.pipe emitted c) (r : Ref) {ch : Ref} {rest : Bytes}
    (long : sidLen ≤ (emitted ch).length) (fits : rest.Sublist ((emitted ch).drop sidLen)) :
    Carried env.cfg.pipe emitted (c.takeOver env r ch rest) := by
  let st := c.streams.next
  let s : Stream := { pipe := .l2cap, owner := .server r, channel := some ch }
  let put : Core := addReader { c with streams := c.streams.alloc s } ch (.stream st)
  have carried : Carried env.cfg.pipe emitted put := putOn_carried h rfl rfl rfl fun _ _ => long
  have binds : Performs env { serves := true, binds := true, scans := true, begins := true } put
      (put.bindServerStream env r st) :=
    bindServerStream_performs r st put rfl rfl rfl rfl
  have still : Still env.cfg.pipe False put (put.bindServerStream env r st) :=
    (binds.still rfl).silent (by simp)
  have bound := still.carried not_false carried
  have new : put.streams.get st = s := c.streams.alloc_get_next s
  have run : c.takeOver env r ch rest = if rest.length ≠ 0 then
      (put.bindServerStream env r st).receive st .l2cap rest else put.bindServerStream env r st := rfl
  rw [run]
  split
  · refine bound.push st fun pipe => ?_
    obtain ⟨-, on, owner, received⟩ := still.channeled not_false carried.beyond pipe
    rw [new] at on owner received
    refine ⟨?_, ch, on, ?_⟩
    · simp [received, s]
    · simp only [owner, Stream.bytes, received]
      simpa [s, Owner.share] using fits
  · exact bound

theorem resumeAccept_carried (h : Carried env.cfg.pipe emitted c) (a : Ref) :
    Carried env.cfg.pipe emitted (c.resumeAccept env a) := by
  have resumed : Carried env.cfg.pipe emitted
      (c.setAcceptor a fun acceptor => { acceptor with resumed := true }) :=
    h.acceptors a (f := fun acceptor => { acceptor with resumed := true }) (fun _ => ⟨rfl, rfl⟩)
      (fun _ _ _ => id) fun _ => .refl _
  have refused : ∀ ch, Carried env.cfg.pipe emitted ((c.setAcceptor a fun acceptor =>
      { acceptor with resumed := true }).issue (.destroyChannel ch)) :=
    fun ch => (issue_quiet _ _).carried resumed
  simp only [resumeAccept]
  split
  · exact h
  · rename_i named rest result
    split
    · exact h
    · split
      · exact refused _
      · rename_i r entry
        split
        · exact refused _
        · cases named with
          | none => cases entry
          | some id =>
            obtain ⟨long, fits⟩ := h.parted a id rest result
            exact takeOver_carried resumed r long fits

theorem bindCentral_carried (h : Carried env.cfg.pipe emitted c) (p sess ch : Ref)
    (announced : Bytes) :
    Carried env.cfg.pipe emitted (c.bindCentral env p sess ch announced) := by
  have written : Quiet c (c.issue (.writeChannel ch (fromHex (c.central.sessions.get sess).id))) :=
    issue_quiet _ _
  have bound : ∀ (c : Core) st,
      Still env.cfg.pipe False c (c.bindCentralStream env p st announced) := by
    intro c st
    have binds : Performs env { scans := true, settles := true, begins := true } c
        (c.bindCentralStream env p st announced) :=
      bindCentralStream_performs p st announced c rfl rfl rfl
    exact (binds.still rfl).silent (by simp)
  simp only [bindCentral]
  split
  · exact (written.trans (abortDial_quiet env _ p)).carried h
  · apply (bound _ _).carried not_false
    exact putOn_carried (written.carried h) rfl rfl rfl (by simp)

theorem resumeOpen_carried (h : Carried env.cfg.pipe emitted c) (a : Ref) :
    Carried env.cfg.pipe emitted (c.resumeOpen env a) := by
  simp only [resumeOpen]
  split
  · exact h
  · rename_i channel _
    split
    · exact h
    · let attempt := c.central.attempts.get a
      let resumed : Core := c.setAttempt a fun attempt => { attempt with resumed := true }
      let kept : Core :=
        resumed.setCentralChannel (resumed.peripheral attempt.peripheral).id channel
      have still : Still env.cfg.pipe False c kept := by
        simp only [kept, setCentralChannel]
        split <;> exact .of_same rfl rfl rfl
      have settled : Carried env.cfg.pipe emitted (kept.settleOpen env attempt channel) := by
        have carried := still.carried not_false h
        simp only [settleOpen]
        split
        · have destroys : Performs env {} kept (kept.destroyChannel channel) :=
            destroyChannel_performs channel kept
          exact (destroys.still rfl).carried (by simp) carried
        · split
          · exact bindCentral_carried carried _ _ _ _
          · exact (abortDial_quiet env kept _).carried carried
      have done : ∀ c : Core,
          Still env.cfg.pipe False c (c.setCentralSession attempt.session fun s =>
          { s with upgrading := false }) :=
        fun _ => .of_same rfl rfl rfl
      exact (done _).carried not_false settled

/-! Frames. -/

/-- A frame that pushes its payload does nothing else. -/
theorem onServerFrame_pushes (env : Env) {data : Bytes} {st : Ref}
    (pushes : c.written? data = some st) :
    ∃ chunk, c.onServerFrame env data = c.receive st .gatt chunk := by
  unfold written? at pushes
  unfold onServerFrame
  cases decoded : decodeFrame (some data) with
  | none => simp [decoded] at pushes
  | some f =>
    simp only [decoded] at pushes
    cases entry : c.server.table.get? f.id with
    | none => simp [entry] at pushes
    | some r =>
      simp only [entry] at pushes
      split at pushes
      · rename_i data
        simp only [entry, if_pos data, pushes]
        exact ⟨_, rfl⟩
      · cases pushes

theorem onCentralNotify_pushes (env : Env) {p : Ref} {data : Bytes} {st : Ref}
    (pushes : c.notified? p data = some st) :
    ∃ chunk, c.onCentralNotify env p data = c.receive st .gatt chunk := by
  unfold notified? at pushes
  unfold onCentralNotify
  split
  · rename_i sess f here decoded
    simp only [here, decoded] at pushes
    split at pushes
    · rename_i both
      obtain ⟨own, data⟩ := both
      have other : ¬ f.type = typeHello := by simp [data, typeData, typeHello]
      rw [if_neg (not_not.mpr own), if_neg other, if_pos data, pushes]
      exact ⟨_, rfl⟩
    · cases pushes
  · rename_i undecoded
    split at pushes
    · rename_i sess f here decoded
      exact absurd decoded (undecoded sess f here)
    · cases pushes

/-- A frame for no stream that is on a channel. -/
def Moment.Apart (m : Moment) : Prop :=
  ∀ st ∈ m.core.written? m.data, (m.core.streams.get st).pipe = .gatt

instance (m : Moment) : Decidable m.Apart :=
  inferInstanceAs (Decidable (∀ st ∈ m.core.written? m.data, _))

theorem onWriteRequest_carried (running : env.life.suspended = false)
    (h : Carried env.cfg.pipe emitted c)
    (req : Bytes × Bool) (apart : Moment.Apart ⟨env, c, req.1⟩) :
    Carried env.cfg.pipe emitted (c.onWriteRequests env [req]) := by
  let answered : Core := if req.2 then c.issue .respondToRequest else c
  have answers : Quiet c answered := .ite (issue_quiet c _) (.refl c)
  have run : c.onWriteRequests env [req] = answered.onServerFrame env req.1 := by
    simp only [onWriteRequests, List.foldl_cons, List.foldl_nil, running, Bool.false_eq_true,
      if_false]
    rfl
  have same : answered.written? req.1 = c.written? req.1 ∧ answered.streams = c.streams := by
    simp only [answered]
    split <;> exact ⟨rfl, rfl⟩
  rw [run]
  cases pushes : c.written? req.1 with
  | none =>
    have silent : Performs env { serves := true, binds := true, scans := true, begins := true } answered
        (answered.onServerFrame env req.1) :=
      onServerFrame_performs req.1 answered rfl (fun _ => rfl)
        rfl rfl fun some => absurd (same.1.trans pushes) some
    exact (silent.still rfl).carried (by simp) (answers.carried h)
  | some st =>
    obtain ⟨chunk, run⟩ := onServerFrame_pushes env (same.1.trans pushes)
    rw [run]
    apply (answers.carried h).frame
    rw [same.2]
    exact apart st pushes

theorem onWriteRequests_carried (running : env.life.suspended = false)
    (h : Carried env.cfg.pipe emitted c)
    (requests : List (Bytes × Bool)) (apart : ∀ m ∈ moments env c requests, m.Apart) :
    Carried env.cfg.pipe emitted (c.onWriteRequests env requests) := by
  induction requests generalizing c with
  | nil => exact h
  | cons req requests ih =>
    obtain ⟨first, later⟩ := List.forall_mem_cons.mp apart
    exact ih (onWriteRequest_carried running h req first) later

/-- A notification that pushes nothing changes nothing, or pushes nothing whatever is bound. -/
theorem onCentralNotify_idle (env : Env) {p : Ref} {data : Bytes}
    (none : c.notified? p data = none) :
    c.onCentralNotify env p data = c ∨ ∀ c' : Core, c'.notified? p data = Option.none := by
  unfold notified? at none
  unfold onCentralNotify
  cases decoded : decodeFrame (some data) with
  | none =>
    refine .inl ?_
    split
    · rename_i none
      cases none
    · rfl
  | some f =>
    by_cases pushes : f.type = typeData
    · refine .inl ?_
      split
      · rename_i sess f' here same
        obtain rfl := Option.some.inj same
        split
        · rfl
        · rename_i own
          simp only [here, decoded, pushes, not_not.mp own, and_self, if_true] at none
          have other : ¬ typeData = typeHello := by decide
          simp only [pushes, other, if_false, none]
      · rfl
    · refine .inr fun c' => ?_
      unfold notified?
      split
      · rename_i sess f' here same
        obtain rfl := Option.some.inj (decoded.symm.trans same)
        exact if_neg fun both => pushes both.2
      · rfl

/-- However many handlers a notification runs. -/
theorem onCentralNotify_carried (h : Carried env.cfg.pipe emitted c) (p : Ref) (data : Bytes)
    (n : Nat) (apart : ∀ st ∈ c.notified? p data, (c.streams.get st).pipe = .gatt) :
    Carried env.cfg.pipe emitted ((fun c => c.onCentralNotify env p data)^[n] c) := by
  cases pushes : c.notified? p data with
  | none =>
    rcases onCentralNotify_idle env pushes with same | silent
    · rw [Function.iterate_fixed same]
      exact h
    · have idle : ∀ c : Core, Still env.cfg.pipe False c (c.onCentralNotify env p data) := by
        intro c
        have performs : Performs env { scans := true, settles := true, begins := true } c
            (c.onCentralNotify env p data) :=
          onCentralNotify_performs p data c rfl rfl rfl fun some => absurd (silent c) some
        exact (performs.still rfl).silent (by simp)
      exact (Still.iterate idle n c).carried not_false h
  | some st =>
    have gatt := apart st pushes
    clear apart
    induction n generalizing c with
    | zero => exact h
    | succ n ih =>
      obtain ⟨chunk, run⟩ := onCentralNotify_pushes env pushes
      have pipe : ((c.receive st .gatt chunk).streams.get st).pipe = .gatt := by
        refine Eq.trans ?_ gatt
        exact c.streams.modify_get_view st st
          (fun s => { s with received := s.received ++ [(.gatt, chunk)] })
          Stream.pipe fun _ => rfl
      rw [Function.iterate_succ_apply]
      simp only [run]
      exact ih (h.frame gatt chunk) pushes pipe

end Core

end BleSwarm
