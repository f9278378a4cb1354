import BleSwarm.Transport.Performs

/-!
# Every handler is made of the elementary changes

One lemma for each operation of the transport, up to the step that delivers an event.
-/

namespace BleSwarm.Core

variable {env : Env} {effects : Effects} {c c' c'' : Core}

/-! Streams. -/

/-- An update that leaves a stream on its carrier and pushes nothing into it. -/
theorem setStream_performs (st : Ref) {f : Stream → Stream}
    (keep : ∀ s, (f s).owner = s.owner ∧ (f s).pipe = s.pipe ∧ (f s).channel = s.channel ∧
      (f s).received = s.received) : Performs env effects c (c.setStream st f) := by
  refine .streams c _ (.of_modify st fun s => (keep s).1) (.of_modify c.streams st fun s => (keep s).2)
    (.of_modify c.streams st (fun s => (keep s).1) (.inr fun s => ?_)) (.inl rfl)
  obtain ⟨owner, pipe, -, received⟩ := keep s
  simp only [Stream.content, owner, pipe, received]

theorem destroyStream_performs (c : Core) (st : Ref) : Performs env effects c (c.destroyStream st) :=
  setStream_performs st fun _ => ⟨rfl, rfl, rfl, rfl⟩

theorem remoteEnd_performs (c : Core) (st : Ref) : Performs env effects c (c.remoteEnd st) :=
  setStream_performs st fun _ => ⟨rfl, rfl, rfl, rfl⟩

theorem receive_performs (st : Ref) (via : Pipe) (chunk : Bytes) (c : Core)
    (receives : effects.receives = true) : Performs env effects c (c.receive st via chunk) := by
  refine .streams c _ (.of_modify st ?_) (.of_receive c.streams st via chunk receives)
    (.of_modify c.streams st ?_ (.inl (.inl receives))) (.inl rfl)
  · exact fun _ => rfl
  · exact fun _ => rfl

/-! Dials. -/

theorem settleDevice_performs (id : PeripheralId) {f : Device → Device}
    (keep : ∀ device, device.timer = none → (f device).timer = none) (c : Core)
    (settles : effects.settles = true) : Performs env effects c (c.updateDevice id f) :=
  .rests c (.update c.dial id keep) (.inl settles)

/-- A record keeps its timer and its cooldown. -/
theorem updateDevice_performs (id : PeripheralId) {f : Device → Device}
    (keep : ∀ d, (f d).timer = d.timer ∧ (f d).coolUntil = d.coolUntil) (c : Core) :
    Performs env effects c (c.updateDevice id f) :=
  .rests c (.update c.dial id fun d none => (keep d).1.trans none)
    (.inr (c.dial.outlook_update id keep))

theorem modifyDevice_performs (id : PeripheralId) {f : Device → Device}
    (keep : ∀ d, (f d).timer = d.timer ∧ (f d).coolUntil = d.coolUntil) (c : Core) :
    Performs env effects c (c.modifyDevice id f) :=
  .rests c (.modify c.dial id fun d none => (keep d).1.trans none)
    (.inr (c.dial.outlook_modify id keep))

/-- Only a record without timer and cooldown is pruned. -/
theorem prune_dial (id : PeripheralId) (c : Core) : ∃ dial, c.prune id = { c with dial } ∧
    c.dial.Rests dial ∧ dial.outlook = c.dial.outlook := by
  have still : ∃ dial, c = { c with dial } ∧ c.dial.Rests dial ∧ dial.outlook = c.dial.outlook :=
    ⟨c.dial, rfl, ⟨fun idle => idle, le_refl _, .refl _⟩, rfl⟩
  unfold prune
  split
  · exact still
  · rename_i d entry
    split
    · rename_i blank
      simp only [Bool.and_eq_true, Option.isNone_iff_eq_none, beq_iff_eq] at blank
      obtain ⟨⟨⟨⟨⟨timer, -⟩, cool⟩, -⟩, -⟩, -⟩ := blank
      exact ⟨_, rfl, .delete c.dial id, c.dial.outlook_delete entry timer cool⟩
    · exact still

theorem prune_performs (id : PeripheralId) (c : Core) : Performs env effects c (c.prune id) := by
  obtain ⟨dial, pruned, rests, outlook⟩ := prune_dial id c
  rw [pruned]
  exact .rests c rests (.inr outlook)

theorem clearDial_performs (id : PeripheralId) (c : Core) (settles : effects.settles = true) :
    Performs env effects c (c.clearDial id) := by
  have untimed : Performs env effects c (c.modifyDevice id fun d => { d with timer := none }) :=
    .rests c (.modify c.dial id fun _ _ => rfl) (.inl settles)
  exact untimed.andThen (prune_performs id)

theorem unmark_performs (peripheralId : Option PeripheralId) (c : Core) :
    Performs env effects c (c.unmark peripheralId) := by
  cases peripheralId with
  | none => exact .refl c
  | some id =>
    refine Performs.andThen ?_ (prune_performs id)
    apply modifyDevice_performs
    exact fun _ => ⟨rfl, rfl⟩

theorem disconnect_performs (p : Ref) (c : Core) : Performs env effects c (c.disconnect p) :=
  .issue c rfl

theorem abortDial_performs (p : Ref) (c : Core) (scans : effects.scans = true)
    (settles : effects.settles = true) : Performs env effects c (c.abortDial env p) := by
  simp only [abortDial]
  refine Performs.andThen ?_ fun c => .startScan c scans
  refine Performs.andThen ?_ (disconnect_performs p)
  refine Performs.andThen ?_ fun c => clearDial_performs _ c settles
  refine settleDevice_performs _ ?_ c settles
  exact fun _ => id

theorem hold_performs (p : Ref) (deadline : Nat) (c : Core) (live : env.halted = false)
    (settles : effects.settles = true) : Performs env effects c (c.hold p deadline) := by
  have moved : ∀ dial : Dial, dial.devices = c.dial.devices → dial.strays = c.dial.strays →
      Performs env effects c { c with dial } :=
    fun dial same left => .dial c dial (fun halted => by simp [live] at halted)
      (.inr (by rw [Dial.inFlight, same]; exact le_refl _)) (left ▸ .refl _) (.inl settles)
  exact .ite (moved _ rfl rfl) (moved _ rfl rfl)

theorem dialPeripheral_performs (p : Ref) (c : Core) (live : env.halted = false)
    (dials : effects.dials = true) (scans : effects.scans = true)
    (settles : effects.settles = true) : Performs env effects c (c.dialPeripheral env p) := by
  let dialing : Core := { c with dial.lastDial := env.now }.updateDevice (c.peripheral p).id
    fun d => { d with timer := some (p, env.now + connectTimeout) }
  have dialed : Performs env effects c dialing :=
    .dial c dialing.dial (fun halted => by simp [live] at halted) (.inl dials) (.refl _)
      (.inl settles)
  have asked : Performs env effects c (dialing.stopScan.issue (.connect p)) :=
    (dialed.trans (.stopScan _ scans)).trans (.connect _ p live settles)
  exact .ite (asked.trans (abortDial_performs p _ scans settles)) asked

theorem onDiscover_performs (p : Ref) (c : Core) (dials : effects.dials = true)
    (scans : effects.scans = true) (settles : effects.settles = true) :
    Performs env effects c (c.onDiscover env p) := by
  unfold onDiscover
  split
  · exact .refl c
  · rename_i live
    have live : env.halted = false := by simpa using live
    exact .ite (.refl c) (.ite (.refl c) (.ite (hold_performs p _ c live settles)
      (dialPeripheral_performs p c live dials scans settles)))

theorem onDialTimer_performs (c : Core) (dials : effects.dials = true)
    (scans : effects.scans = true) (settles : effects.settles = true) :
    Performs env effects c (c.onDialTimer env) := by
  have opened : Performs env effects c
      { c with dial := { c.dial with dialTimer := none, candidates := ∅ } } :=
    .rests c ⟨fun idle => ⟨idle.timers, rfl⟩, le_refl _, .refl _⟩ (.inl settles)
  exact opened.trans (.foldl (fun c p => onDiscover_performs p c dials scans settles) _ _)

theorem onDialTimeout_performs (id : PeripheralId) (c : Core) (scans : effects.scans = true)
    (settles : effects.settles = true) : Performs env effects c (c.onDialTimeout env id) := by
  unfold onDialTimeout
  split
  · exact .ite (abortDial_performs _ c scans settles) (.refl c)
  · exact .refl c

theorem onStrayTimeout_performs (i : Nat) (c : Core) (scans : effects.scans = true)
    (settles : effects.settles = true) : Performs env effects c (c.onStrayTimeout env i) := by
  unfold onStrayTimeout
  split
  · have fired : Performs env effects c { c with dial.strays := c.dial.strays.eraseIdx i } :=
      .rests c ⟨fun idle => ⟨idle.timers, idle.candidates⟩, le_refl _, List.eraseIdx_sublist _ _⟩
        (.inr rfl)
    exact .ite (fired.trans (abortDial_performs _ _ scans settles)) (.refl c)
  · exact .refl c

theorem onCentralError_performs (ended : Bool) (c : Core) (settles : effects.settles = true) :
    Performs env effects c (c.onCentralError ended) := by
  apply Performs.ite
  · exact .foldl (fun c (e : PeripheralId × Device) =>
      .ite (clearDial_performs e.1 c settles) (.refl c)) c _
  · exact .refl c

/-! Objects of the central side. -/

/-- Slots of a peripheral are kept or emptied. -/
theorem setPeripheral_performs (p : Ref) {f : Peripheral → Peripheral}
    (keep : ∀ q, (f q).id = q.id ∧ ((f q).session = q.session ∨ (f q).session = none) ∧
      ((f q).stream = q.stream ∨ (f q).stream = none)) (c : Core) :
    Performs env effects c (c.setPeripheral p f) :=
  .central c _ (.of_update c.central p f (fun q => (keep q).1) (.inr fun q => (keep q).2.1)
    (.inr fun q => (keep q).2.2))

theorem setCentralSession_performs (r : Ref) {f : CentralSession → CentralSession}
    (keep : ∀ s, (f s).id = s.id) (c : Core) :
    Performs env effects c (c.setCentralSession r f) :=
  .central c _ (.of_sessions c.central (.inr (.modify c.central.sessions r keep)))

theorem centralChannels_performs (c : Core) (channels : OrderedMap PeripheralId Ref) :
    Performs env effects c { c with central.channels := channels } :=
  .central c _ { Central.Keeps.refl c.central with }

theorem attempts_performs (c : Core) {attempts : Heap OpenAttempt}
    (tries : Tries (effects.begins = true) (effects.resumes = true) c.central.attempts attempts) :
    Performs env effects c { c with central.attempts := attempts } :=
  .central c _ (.of_attempts c.central tries)

/-! Links. -/

theorem onChannel_performs (st : Ref) (isInitiator : Bool) (peripheralId : Option PeripheralId)
    (announced : Bytes) (c : Core) (scans : effects.scans = true) (begins : effects.begins = true)
    (settles : peripheralId = none ∨ effects.settles = true) :
    Performs env effects c (c.onChannel env st isInitiator peripheralId announced).1 := by
  have linked : Performs env effects c
      { c with links.conns := c.links.conns.alloc { stream := st, isInitiator, peripheralId, announced } } := by
    have holds := Links.Holds.of_alloc c.links st isInitiator peripheralId announced
    exact .links c _ holds.fades (.inr holds) (.inl begins)
  unfold onChannel
  split
  · exact destroyStream_performs c st
  · refine Performs.andThen ?_ fun c => .startScan c scans
    split
    · rename_i id
      have settles : effects.settles = true := settles.resolve_left (by simp)
      refine linked.andThen fun c => settleDevice_performs id ?_ c settles
      exact fun _ same => same
    · exact linked

theorem notePeerKey_performs (r : Ref) (c : Core) : Performs env effects c (c.notePeerKey r) := by
  simp only [notePeerKey]
  split
  · apply updateDevice_performs
    exact fun _ => ⟨rfl, rfl⟩
  · exact .refl c

theorem untrack_performs (r : Ref) (c : Core) (closes : effects.closes = true)
    (scans : effects.scans = true) : Performs env effects c (c.untrack env r) := by
  have untracked : Performs env effects c { c with links := c.links.untrack r } :=
    .links c _ (.untrack c.links r) (.inl closes) (.inr (.of_eq Links.untrack_conns))
  unfold untrack
  split
  · exact untracked
  · rename_i open_
    refine Performs.trans ?_ (.issue _ rfl)
    split
    · rename_i alone
      simp only [Bool.and_eq_true, Bool.not_eq_true'] at alone
      have live : env.halted = false := by
        have open_ : (env.life.closing || env.life.closed) = false := Bool.eq_false_iff.mpr open_
        rw [Env.halted, alone.2, Bool.false_or, open_]
      have hunting := untracked.trans (.hunt _ (env.now + huntWindow))
      exact (hunting.trans (.startScan _ scans)).trans (.armScanRestart _ live)
    · exact untracked

theorem onConnClose_performs (r : Ref) (c : Core) (closes : effects.closes = true)
    (scans : effects.scans = true) : Performs env effects c (c.onConnClose env r) := by
  have keep : ∀ conn : Conn, Conn.identity { conn with closed := true } = conn.identity := fun _ => rfl
  have alike : c.links.conns.Alike Conn.identity (c.links.markClosed r).conns :=
    .modify c.links.conns r keep
  have marked : Performs env effects c { c with links := c.links.markClosed r } :=
    .links c _ (.of_same rfl rfl) (.inl closes) (.inr alike)
  have untracked : ∀ c, Performs env effects c (c.untrack env r) :=
    fun c => untrack_performs r c closes scans
  exact .ite ((marked.andThen (unmark_performs _)).andThen untracked) (.refl c)

/-! The server side. -/

theorem notifyClose_performs (id : Hex) (reason : Option Byte) (c : Core) :
    Performs env effects c (c.notifyClose env id reason) :=
  .gatt c _ (NotifyQueue.notify_passes _ _ (.inl (encodeFrame_head? typeClose id _)))

theorem notifyHello_performs (id : Hex) (payload : Bytes) (c : Core)
    (serves : effects.serves = true) (begins : effects.begins = true) :
    Performs env effects c (c.notifyHello env id payload) :=
  .gatt c _ (NotifyQueue.notify_passes _ _ (.inr ⟨serves, begins⟩))

/-- An update of a session that no stream is bound by. -/
theorem setSession_performs (r : Ref) {f : ServerSession → ServerSession}
    (keep : ∀ s, (f s).identity = s.identity) (c : Core) (serves : effects.serves = true) :
    Performs env effects c (c.setSession r f) :=
  .sessions c _ _ serves (.inr fun _ _ => id) (.inr (.modify c.server.sessions r keep))

theorem delete_performs (id : Hex) (c : Core) (serves : effects.serves = true) :
    Performs env effects c { c with server.table := c.server.table.delete id } :=
  .sessions c _ _ serves (.inr fun _ _ => OrderedMap.get?_of_delete) (.inr (.refl _ _))

theorem reapSession_performs (id : Hex) (r : Ref) (c : Core) (serves : effects.serves = true) :
    Performs env effects c (c.reapSession env id r) := by
  have untimed : Performs env effects c (c.setSession r fun s => { s with pipeTimer := none }) := by
    refine setSession_performs r ?_ c serves
    exact fun _ => rfl
  have reaped := untimed.trans (delete_performs id _ serves)
  simp only [reapSession]
  split
  · rename_i live
    simp only [Bool.and_eq_true, decide_eq_true_eq, Bool.not_eq_true'] at live
    exact reaped.trans (.maybeCycle _ serves (.inl live))
  · exact reaped

theorem closeServerSession_performs (id : Hex) (c : Core) (serves : effects.serves = true) :
    Performs env effects c (c.closeServerSession env id) := by
  unfold closeServerSession
  split
  · exact .refl c
  · exact (reapSession_performs id _ c serves).andThen (notifyClose_performs id none)

/-- A stream that is bound may release the rotation that its session held up. -/
theorem bindServerStream_performs (r st : Ref) (c : Core) (serves : effects.serves = true)
    (binds : effects.binds = true) (scans : effects.scans = true) (begins : effects.begins = true) :
    Performs env effects c (c.bindServerStream env r st) := by
  have session : ∀ (c : Core) (f : ServerSession → ServerSession),
      Performs env effects c (c.setSession r f) :=
    fun c f => .sessions c _ _ serves (.inl begins) (.inl begins)
  simp only [bindServerStream]
  have linked := (session c fun s => { s with pipeTimer := none, stream := some st }).andThen
    fun c => onChannel_performs st false none (c.session r).announced c scans begins (.inl rfl)
  split
  · rename_i pending
    exact (linked.trans (session _ _)).trans (.maybeCycle _ serves (.inr ⟨binds, pending⟩))
  · exact linked.trans (session _ _)

theorem openServer_performs (r : Ref) (c : Core) (serves : effects.serves = true)
    (binds : effects.binds = true) (scans : effects.scans = true) (begins : effects.begins = true)
    (gatt : env.cfg.pipe = .gatt) : Performs env effects c (c.openServer env r) :=
  Performs.trans
    (.streams c _ (.of_alloc _ (.inl serves)) (.of_alloc c.streams rfl rfl)
      (.of_alloc c.streams (.inr begins) (.inr rfl)) (.inr gatt))
    (bindServerStream_performs r _ _ serves binds scans begins)

/-- An OPEN is accepted on the pipe that is configured, while the table has room. -/
theorem judgeOpen_room {key : Bytes} {flags : Byte} {name : Pipe}
    (accepted : c.judgeOpen env key flags = .accepted name) :
    env.cfg.pipe = name ∧ c.server.table.size < env.cfg.maxInbound := by
  obtain ⟨suits, -, -, room, -⟩ := (judgeOpen_accepted_iff env c key flags name).mp accepted
  exact ⟨Config.pipe_of_pipeFor suits, room⟩

theorem onOpen_performs (f : Frame) (c : Core) (serves : effects.serves = true)
    (binds : env.cfg.pipe = .gatt → effects.binds = true) (scans : effects.scans = true)
    (begins : effects.begins = true) : Performs env effects c (c.onOpen env f) := by
  simp only [onOpen]
  split
  · exact notifyClose_performs _ _ c
  · exact notifyClose_performs _ _ c
  · rename_i name verdict
    have enters : ∀ table sessions, Performs env effects c
        { c with server.table := table, server.sessions := sessions } :=
      fun table sessions => .sessions c _ _ serves (.inl begins) (.inl begins)
    split
    · exact (enters _ _).trans (notifyHello_performs _ _ _ serves begins)
    · let entered : Core := { c with
        server.sessions := c.server.sessions.alloc
          { id := f.id, announced := (decodeKeyPayload f.payload).key }
        server.table := c.server.table.set f.id c.server.sessions.next }
      have gatt : env.cfg.pipe = .gatt := (judgeOpen_room verdict).1
      have opened : Performs env effects entered (entered.openServer env c.server.sessions.next) :=
        openServer_performs _ entered serves (binds gatt) scans begins gatt
      exact ((enters _ _).trans opened).trans (notifyHello_performs _ _ _ serves begins)

/-- The stream that a frame to the server pushes its payload into. -/
def written? (c : Core) (data : Bytes) : Option Ref :=
  match decodeFrame (some data) with
  | none => none
  | some f =>
    match c.server.table.get? f.id with
    | none => none
    | some r => if f.type = typeData then (c.session r).stream else none

theorem onServerFrame_performs (data : Bytes) (c : Core) (serves : effects.serves = true)
    (binds : env.cfg.pipe = .gatt → effects.binds = true) (scans : effects.scans = true)
    (begins : effects.begins = true)
    (receives : c.written? data ≠ none → effects.receives = true) :
    Performs env effects c (c.onServerFrame env data) := by
  unfold written? at receives
  unfold onServerFrame
  cases decoded : decodeFrame (some data) with
  | none => exact .refl c
  | some f =>
    dsimp only
    cases entry : c.server.table.get? f.id with
    | none => exact .ite (onOpen_performs _ c serves binds scans begins) (.refl c)
    | some r =>
      simp only [decoded, entry] at receives
      dsimp only
      by_cases pushes : f.type = typeData
      · rw [if_pos pushes]
        rw [if_pos pushes] at receives
        cases bound : (c.session r).stream with
        | none => exact closeServerSession_performs _ c serves
        | some st => exact receive_performs _ _ _ c (receives (by simp [bound]))
      · rw [if_neg pushes]
        refine .ite ?_ (.refl c)
        split
        · exact (reapSession_performs _ _ c serves).trans (remoteEnd_performs _ _)
        · exact reapSession_performs _ _ c serves

theorem onWriteRequests_performs (requests : List (Bytes × Bool)) (c : Core)
    (serves : effects.serves = true) (binds : env.cfg.pipe = .gatt → effects.binds = true)
    (scans : effects.scans = true) (begins : effects.begins = true)
    (receives : effects.receives = true) :
    Performs env effects c (c.onWriteRequests env requests) := by
  refine Performs.foldl (fun c (req : Bytes × Bool) => ?_) c requests
  have answered : Performs env effects c (if req.2 then c.issue .respondToRequest else c) :=
    .ite (.issue c rfl) (.refl c)
  exact .ite answered (answered.trans
    (onServerFrame_performs req.1 _ serves binds scans begins fun _ => receives))

theorem onPipeTimeout_performs (r : Ref) (c : Core) (serves : effects.serves = true) :
    Performs env effects c (c.onPipeTimeout env r) := by
  have untimed : Performs env effects c (c.setSession r fun s => { s with pipeTimer := none }) := by
    refine setSession_performs r ?_ c serves
    exact fun _ => rfl
  unfold onPipeTimeout
  split
  · exact .refl c
  · refine .ite (.refl c) (.ite untimed ?_)
    exact (untimed.trans (delete_performs _ _ serves)).andThen (notifyClose_performs _ none)

/-- Preambles are read and readers come and go. -/
theorem readers_performs (c : Core) (acceptors : Heap Acceptor) (readers : Ref → List Reader)
    (channels : effects.channels = true) :
    Performs env effects c { c with server.acceptors := acceptors, server.readers := readers } :=
  .channels c c.streams acceptors readers (.refl c.streams) (fun _ _ => ⟨rfl, rfl⟩) (.refl c.streams)
    channels

theorem onServerChannel_performs (ch : Ref) (c : Core) (channels : effects.channels = true) :
    Performs env effects c (c.onServerChannel env ch) :=
  .ite (.issue c rfl) (readers_performs c _ _ channels)

theorem finishPreamble_performs (a : Ref) (id : Option Hex) (rest : Bytes) (c : Core)
    (channels : effects.channels = true) : Performs env effects c (c.finishPreamble a id rest) :=
  readers_performs c _ _ channels

theorem readData_performs (reader : Reader) (data : Bytes) (c : Core)
    (channels : effects.channels = true) (receives : effects.receives = true) :
    Performs env effects c (c.readData reader data) := by
  unfold readData
  split
  · have read : ∀ acceptors, Performs env effects c { c with server.acceptors := acceptors } :=
      fun acceptors => readers_performs c acceptors c.server.readers channels
    exact .ite ((read _).trans (finishPreamble_performs _ _ _ _ channels)) (read _)
  · exact receive_performs _ _ _ c receives

theorem onPreambleTimeout_performs (a : Ref) (c : Core) (channels : effects.channels = true) :
    Performs env effects c (c.onPreambleTimeout env a) := by
  unfold onPreambleTimeout
  split
  · exact .refl c
  · exact .ite (.refl c) (finishPreamble_performs _ _ _ c channels)

/-- A stream that takes a channel over reads it from then on. -/
theorem putOn_performs {s : Stream} (ch : Ref) (c : Core) (channels : effects.channels = true)
    (begins : effects.begins = true)
    (owner : effects.serves = true ∨ ∃ p sess, s.owner = .central p sess)
    (side : effects.settles = true ∨ s.owner.dialed = none) :
    Performs env effects c
      (addReader { c with streams := c.streams.alloc s } ch (.stream c.streams.next)) := by
  refine .channels c _ c.server.acceptors _ (.of_alloc s owner) (fun st lt => ?_)
    (.of_alloc c.streams (.inr begins) side) channels
  rw [c.streams.alloc_get_of_lt s lt]
  exact ⟨rfl, rfl⟩

theorem takeOver_performs (r ch : Ref) (rest : Bytes) (c : Core) (serves : effects.serves = true)
    (binds : effects.binds = true) (scans : effects.scans = true) (begins : effects.begins = true)
    (channels : effects.channels = true) (receives : effects.receives = true) :
    Performs env effects c (c.takeOver env r ch rest) := by
  let s : Stream := { pipe := .l2cap, owner := .server r, channel := some ch }
  have put : Performs env effects c
      (addReader { c with streams := c.streams.alloc s } ch (.stream c.streams.next)) :=
    putOn_performs ch c channels begins (.inl serves) (.inr rfl)
  have bound := put.trans (bindServerStream_performs r c.streams.next _ serves binds scans begins)
  exact .ite (bound.trans (receive_performs _ _ _ _ receives)) bound

theorem resumeAccept_performs (a : Ref) (c : Core) (serves : effects.serves = true)
    (binds : effects.binds = true) (scans : effects.scans = true) (begins : effects.begins = true)
    (channels : effects.channels = true) (receives : effects.receives = true) :
    Performs env effects c (c.resumeAccept env a) := by
  have resumed : Performs env effects c
      (c.setAcceptor a fun acceptor => { acceptor with resumed := true }) :=
    readers_performs c _ c.server.readers channels
  simp only [resumeAccept]
  split
  · exact .refl c
  · refine .ite (.refl c) ?_
    split
    · exact resumed.trans (.issue _ rfl)
    · exact .ite (resumed.trans (.issue _ rfl))
        (resumed.trans (takeOver_performs _ _ _ _ serves binds scans begins channels receives))

theorem forReaders_performs (ch : Ref) {handler : Core → Ref → Core}
    (step : ∀ c st, Performs env effects c (handler c st)) (c : Core) :
    Performs env effects c (c.forReaders ch handler) := by
  refine Performs.foldl (fun c reader => ?_) c _
  cases reader with
  | preamble a => exact .refl c
  | stream st => exact step c st

theorem onChannelClose_performs (ch : Ref) (c : Core) :
    Performs env effects c (c.onChannelClose ch) := by
  have closed : Performs env effects c (c.forReaders ch destroyStream) :=
    forReaders_performs ch destroyStream_performs c
  exact closed.trans (centralChannels_performs _ _)

/-! The central side. -/

theorem sendClose_performs (p : Ref) (id : Hex) (c : Core) :
    Performs env effects c (c.sendClose p id) :=
  .issue c (decide_eq_true (encodeFrame_head? typeClose id []))

theorem closeSession_performs (p : Ref) (sess : Option Ref) (c : Core) :
    Performs env effects c (c.closeSession p sess) := by
  cases sess with
  | none => exact .refl c
  | some s => exact sendClose_performs p _ c

theorem endCentral_performs (p : Ref) (sess : Option Ref) (keep : Bool) (c : Core)
    (scans : effects.scans = true) (settles : effects.settles = true) :
    Performs env effects c (c.endCentral env p sess keep) := by
  have dropped : ∀ c : Core, Performs env effects c
      (c.setPeripheral p fun q => { q with session := none }) := by
    intro c
    apply setPeripheral_performs
    exact fun _ => ⟨rfl, .inr rfl, .inl rfl⟩
  unfold endCentral
  refine Performs.andThen ?_ fun c => .startScan c scans
  refine Performs.trans ?_ (.ite (.refl _) (disconnect_performs p _))
  refine Performs.andThen ?_ fun c => clearDial_performs _ c settles
  refine ((closeSession_performs p sess c).andThen dropped).trans ?_
  refine settleDevice_performs _ ?_ _ settles
  exact fun _ => id

theorem sayGoodbye_performs (c : Core) : Performs env effects c (c.sayGoodbye env) := by
  have said : ∀ (c : Core) (id : Hex), Performs env effects c (c.notifyClose env id none) :=
    fun c id => notifyClose_performs id none c
  refine (Performs.foldl said c _).trans (.foldl (fun c (d : Device) => ?_) _ _)
  split
  · exact .refl c
  · split
    · exact .ite (sendClose_performs _ _ c) (.refl c)
    · exact .refl c

theorem onConnect_performs (p : Ref) (c : Core) : Performs env effects c (c.onConnect p) := by
  refine Performs.trans (updateDevice_performs _ ?_ c) (.issue _ rfl)
  exact fun _ => ⟨rfl, rfl⟩

theorem onPeripheralError_performs (p : Ref) (c : Core) (scans : effects.scans = true)
    (settles : effects.settles = true) : Performs env effects c (c.onPeripheralError env p) := by
  unfold onPeripheralError
  split
  · exact .ite (.refl c) (abortDial_performs p c scans settles)
  · exact abortDial_performs p c scans settles

theorem onServicesDiscover_performs (p : Ref) (found : Bool) (c : Core)
    (scans : effects.scans = true) (settles : effects.settles = true) :
    Performs env effects c (c.onServicesDiscover env p found) :=
  .ite (.issue c rfl) (abortDial_performs p c scans settles)

theorem onCharacteristicsDiscover_performs (p : Ref) (found : Bool) (c : Core)
    (scans : effects.scans = true) (settles : effects.settles = true) :
    Performs env effects c (c.onCharacteristicsDiscover env p found) :=
  .ite (.issue c rfl) (abortDial_performs p c scans settles)

theorem startCentralSession_performs (p : Ref) (c : Core) (starts : effects.starts = true)
    (begins : effects.begins = true) : Performs env effects c (c.startCentralSession env p) := by
  let s : Ref := c.central.sessions.next
  let id : Hex := env.cfg.randomId s
  let entered : Core := { c with central.sessions := c.central.sessions.alloc { id } }
  let named : Core := entered.setPeripheral p fun q => { q with session := some s, char := true }
  let sent : Core := named.sendOpen p id
    (encodeKeyPayload env.cfg.publicKey env.cfg.capabilities none)
  have enters : Performs env effects c entered :=
    .central c _ (.of_sessions c.central (.inl starts))
  have names : Performs env effects entered named :=
    .central entered _ (.of_update entered.central p
      (fun q => { q with session := some s, char := true }) (fun _ => rfl) (.inl starts)
      (.inr fun _ => .inl rfl))
  have sends : Performs env effects named sent := .sendOpen named p _ _ starts begins
  exact ((enters.trans names).trans sends).trans (.issue sent rfl)

theorem onMtuChanged_performs (p : Ref) (mtu : Nat) (c : Core) :
    Performs env effects c (c.onMtuChanged env p mtu) := by
  have noted : Performs env effects c (c.setPeripheral p fun q => { q with mtu := mtu }) := by
    apply setPeripheral_performs
    exact fun _ => ⟨rfl, .inl rfl, .inl rfl⟩
  simp only [onMtuChanged]
  split
  · refine noted.trans (setStream_performs _ ?_)
    exact fun _ => ⟨rfl, rfl, rfl, rfl⟩
  · exact noted

theorem bindCentralStream_performs (p st : Ref) (announced : Bytes) (c : Core)
    (scans : effects.scans = true) (settles : effects.settles = true)
    (begins : effects.begins = true) :
    Performs env effects c (c.bindCentralStream env p st announced) := by
  have placed : ∀ (c : Core) (st : Ref), Performs env effects c
      (c.setPeripheral p fun q => { q with stream := some st }) :=
    fun c st => .central c _ (.of_update c.central p (fun q => { q with stream := some st })
      (fun _ => rfl) (.inr fun _ => .inl rfl) (.inl begins))
  have noted : ∀ (c : Core) (conn : Option Ref), Performs env effects c
      (c.setPeripheral p fun q => { q with conn }) := by
    intro c conn
    apply setPeripheral_performs
    exact fun _ => ⟨rfl, .inl rfl, .inl rfl⟩
  simp only [bindCentralStream]
  refine Performs.trans ?_ (noted _ _)
  refine Performs.trans ?_ (onChannel_performs _ _ _ _ _ scans begins (.inr settles))
  exact (placed c st).trans (clearDial_performs _ _ settles)

theorem onCentralStreamClose_performs (p sess : Ref) (c : Core) :
    Performs env effects c (c.onCentralStreamClose p sess) := by
  have dropped : ∀ c : Core, Performs env effects c
      (c.setPeripheral p fun q => { q with stream := none, session := none }) := by
    intro c
    apply setPeripheral_performs
    exact fun _ => ⟨rfl, .inr rfl, .inr rfl⟩
  simp only [onCentralStreamClose]
  refine Performs.andThen ?_ (disconnect_performs p)
  refine ((sendClose_performs p _ c).andThen dropped).trans (modifyDevice_performs _ ?_ _)
  exact fun _ => ⟨rfl, rfl⟩

theorem destroyOwnChannel_performs (st : Ref) (c : Core) :
    Performs env effects c (c.destroyOwnChannel st) := by
  unfold destroyOwnChannel
  split
  · exact .issue c rfl
  · exact .refl c

theorem onStreamClose_performs (st : Ref) (c : Core) (serves : effects.serves = true) :
    Performs env effects c (c.onStreamClose env st) := by
  have destroyed : Performs env effects c
      ((c.setStream st fun s => { s with closed := true }).destroyOwnChannel st) := by
    refine Performs.andThen (setStream_performs st ?_) (destroyOwnChannel_performs st)
    exact fun _ => ⟨rfl, rfl, rfl, rfl⟩
  simp only [onStreamClose]
  refine .ite ?_ (.refl c)
  split
  · exact destroyed.trans (closeServerSession_performs _ _ serves)
  · exact destroyed.trans (onCentralStreamClose_performs _ _ _)

theorem openCentralGatt_performs (p sess : Ref) (announced : Bytes) (c : Core)
    (scans : effects.scans = true) (settles : effects.settles = true)
    (begins : effects.begins = true) (gatt : env.cfg.pipe = .gatt) :
    Performs env effects c (c.openCentralGatt env p sess announced) :=
  Performs.trans
    (.streams c _ (.of_alloc _ (.inr ⟨p, sess, rfl⟩)) (.of_alloc c.streams rfl rfl)
      (.of_alloc c.streams (.inr begins) (.inl settles)) (.inr gatt))
    (bindCentralStream_performs p _ _ _ scans settles begins)

theorem destroyChannel_performs (channel : Option Ref) (c : Core) :
    Performs env effects c (c.destroyChannel channel) := by
  unfold destroyChannel
  split
  · exact .issue c rfl
  · exact .refl c

/-- What `finish` makes of an attempt. -/
theorem Sound.finish (a : OpenAttempt) (channel : Option Ref) :
    OpenAttempt.Sound { a with timer := none, listening := false, result := some channel } :=
  ⟨fun listening => (Bool.false_ne_true listening).elim, fun _ => rfl⟩

/-- An attempt resolves once. -/
theorem finishOpen_performs {a : Ref} (channel : Option Ref) (c : Core)
    (busy : effects.begins = true ∨ ¬ Idle (c.central.attempts.get a)) :
    Performs env effects c (c.finishOpen a channel) := by
  unfold finishOpen
  split
  · exact destroyChannel_performs channel c
  · rename_i open_
    have unresolved : (c.central.attempts.get a).result = none := by simpa using open_
    refine attempts_performs c (.of_modify c.central.attempts busy (fun _ => rfl) ?_ (.inr rfl) ?_)
    · intro r resolved
      rw [unresolved] at resolved
      cases resolved
    · exact fun _ => Sound.finish _ channel

theorem destroyStale_performs (id : PeripheralId) (c : Core) :
    Performs env effects c (c.destroyStale id) := by
  unfold destroyStale
  split
  · rename_i stale _
    have destroys : Performs env effects c (c.issue (.destroyChannel stale)) := .issue c rfl
    exact destroys.trans (centralChannels_performs _ _)
  · exact .refl c

theorem openChannel_performs (p sess : Ref) (psm : Nat) (announced : Bytes) (c : Core)
    (begins : effects.begins = true) :
    Performs env effects c (c.openChannel env p sess psm announced) := by
  let attempt : OpenAttempt :=
    { peripheral := p, session := sess, announced, timer := some (env.now + env.cfg.timeout) }
  have sound : attempt.Sound := ⟨fun _ => rfl, fun resumed => (Bool.false_ne_true resumed).elim⟩
  have tried : Performs env effects c
      { c with central.attempts := c.central.attempts.alloc attempt } :=
    attempts_performs c (.of_alloc c.central.attempts begins rfl sound)
  have asked := tried.trans (.askChannel _ p psm begins)
  exact .ite (asked.trans (finishOpen_performs none _ (.inl begins))) asked

theorem openCentralL2cap_performs (p sess : Ref) (psm : Nat) (announced : Bytes) (c : Core)
    (begins : effects.begins = true) :
    Performs env effects c (c.openCentralL2cap env p sess psm announced) := by
  have upgrading : Performs env effects c
      (c.setCentralSession sess fun s => { s with upgrading := true }) := by
    apply setCentralSession_performs
    exact fun _ => rfl
  exact (upgrading.andThen (destroyStale_performs _)).andThen fun c =>
    openChannel_performs p sess psm announced c begins

/-- A listener of 'channelOpen' runs. -/
def hearChannel (c : Core) (a : Ref) (channel : Option Ref) : Core :=
  (c.setAttempt a fun attempt => { attempt with listening := false }).finishOpen a channel

theorem hearChannel_attempts (c : Core) (a : Ref) (channel : Option Ref) :
    ((c.hearChannel a channel).central.attempts.get a).result.isSome = true ∧
      ∀ k ≠ a, (c.hearChannel a channel).central.attempts.get k = c.central.attempts.get k := by
  have other : ∀ (c : Core) (f : OpenAttempt → OpenAttempt), ∀ k ≠ a,
      (c.setAttempt a f).central.attempts.get k = c.central.attempts.get k :=
    fun c f _ other => c.central.attempts.modify_get_of_ne f other
  unfold hearChannel finishOpen
  split
  · rename_i ended
    have same : ∀ c : Core, (c.destroyChannel channel).central = c.central := by
      cases channel <;> exact fun _ => rfl
    rw [same]
    exact ⟨ended, other c _⟩
  · refine ⟨?_, fun k ne => (other _ _ k ne).trans (other c _ k ne)⟩
    simp [setAttempt]

/-- It is deaf from then on, and its attempt resolves if it did not before. -/
theorem hearChannel_performs {a : Ref} (channel : Option Ref) (c : Core)
    (busy : effects.begins = true ∨ ¬ Idle (c.central.attempts.get a)) :
    Performs env effects c (c.hearChannel a channel) := by
  let deaf : OpenAttempt → OpenAttempt := fun attempt => { attempt with listening := false }
  let finish : OpenAttempt → OpenAttempt := fun attempt =>
    { attempt with timer := none, listening := false, result := some channel }
  have heard : Performs env effects c (c.setAttempt a deaf) := by
    refine attempts_performs c (.of_modify c.central.attempts busy (fun _ => rfl)
      (fun _ => id) (.inr rfl) ?_)
    exact fun sound => ⟨fun listening => (Bool.false_ne_true listening).elim, sound.2⟩
  unfold hearChannel finishOpen
  split
  · exact heard.andThen (destroyChannel_performs channel)
  · rename_i open_
    have unresolved : (c.central.attempts.get a).result = none := by simpa [setAttempt] using open_
    -- deaf and with nothing to wait for the attempt is idle, so both changes are one
    have both : (c.central.attempts.modify a deaf).modify a finish =
        c.central.attempts.modify a finish := by
      simp [Heap.modify, finish, deaf]
    have finished : Performs env effects c
        { c with central.attempts := c.central.attempts.modify a finish } := by
      refine attempts_performs c (.of_modify c.central.attempts busy (fun _ => rfl) ?_
        (.inr rfl) fun _ => Sound.finish _ channel)
      intro r resolved
      rw [unresolved] at resolved
      cases resolved
    rw [← both] at finished
    exact finished

theorem onChannelOpen_performs (p : Ref) (channel : Option Ref) (c : Core) :
    Performs env effects c (c.onChannelOpen p channel) := by
  have busy : ∀ a ∈ c.openListeners p, ¬ Idle (c.central.attempts.get a) := by
    intro a mem idle
    simp [openListeners, idle.1] at mem
  unfold onChannelOpen
  generalize c.openListeners p = as at busy
  induction as generalizing c with
  | nil => exact .refl c
  | cons a as ih =>
    obtain ⟨ended, others⟩ := hearChannel_attempts c a channel
    refine (hearChannel_performs channel c (.inr (busy a List.mem_cons_self))).trans (ih _ fun k mem => ?_)
    by_cases same : k = a
    · subst same
      exact fun idle => by simp [idle.2.2] at ended
    · rw [others k same]
      exact busy k (List.mem_cons_of_mem a mem)

theorem onOpenTimeout_performs (a : Ref) (c : Core) :
    Performs env effects c (c.onOpenTimeout env a) := by
  unfold onOpenTimeout
  split
  · exact .refl c
  · rename_i deadline timer
    refine .ite (.refl c) (finishOpen_performs none c (.inr fun idle => ?_))
    rw [idle.2.1] at timer
    cases timer

theorem bindCentral_performs (p sess ch : Ref) (announced : Bytes) (c : Core)
    (scans : effects.scans = true) (settles : effects.settles = true)
    (begins : effects.begins = true) (channels : effects.channels = true) :
    Performs env effects c (c.bindCentral env p sess ch announced) := by
  have written : Performs env effects c
      (c.issue (.writeChannel ch (fromHex (c.central.sessions.get sess).id))) := .issue c rfl
  refine .ite (written.trans (abortDial_performs p _ scans settles)) (written.trans ?_)
  exact (putOn_performs ch _ channels begins (.inr ⟨p, sess, rfl⟩) (.inl settles)).trans
    (bindCentralStream_performs p _ _ _ scans settles begins)

theorem settleOpen_performs (attempt : OpenAttempt) (channel : Option Ref) (c : Core)
    (scans : effects.scans = true) (settles : effects.settles = true)
    (begins : effects.begins = true) (channels : effects.channels = true) :
    Performs env effects c (c.settleOpen env attempt channel) := by
  refine .ite (destroyChannel_performs channel c) ?_
  split
  · exact bindCentral_performs _ _ _ _ c scans settles begins channels
  · exact abortDial_performs _ c scans settles

theorem setCentralChannel_performs (id : PeripheralId) (channel : Option Ref) (c : Core) :
    Performs env effects c (c.setCentralChannel id channel) := by
  cases channel with
  | none => exact .refl c
  | some ch => exact centralChannels_performs c _

theorem resumeOpen_performs (a : Ref) (c : Core) (scans : effects.scans = true)
    (settles : effects.settles = true) (begins : effects.begins = true)
    (resumes : effects.resumes = true) (channels : effects.channels = true) :
    Performs env effects c (c.resumeOpen env a) := by
  have landed : ∀ (c : Core) (sess : Ref), Performs env effects c
      (c.setCentralSession sess fun s => { s with upgrading := false }) := by
    intro c sess
    apply setCentralSession_performs
    exact fun _ => rfl
  simp only [resumeOpen]
  split
  · exact .refl c
  · rename_i channel result
    have marked : Performs env effects c
        (c.setAttempt a fun attempt => { attempt with resumed := true }) := by
      refine attempts_performs c (.of_modify c.central.attempts (.inl begins) (fun _ => rfl)
        (fun _ => id) (.inl resumes) ?_)
      exact fun sound => ⟨sound.1, fun _ => by rw [result]; rfl⟩
    refine .ite (.refl c) (Performs.trans ?_ (landed _ _))
    exact (marked.andThen (setCentralChannel_performs _ channel)).trans
      (settleOpen_performs _ channel _ scans settles begins channels)

theorem onHello_performs (p sess : Ref) (payload : Bytes) (c : Core) (scans : effects.scans = true)
    (settles : effects.settles = true) (begins : effects.begins = true) :
    Performs env effects c (c.onHello env p sess payload) := by
  have ended : ∀ (c : Core) keep, Performs env effects c (c.endCentral env p (some sess) keep) :=
    fun c keep => endCentral_performs p (some sess) keep c scans settles
  refine .ite (.refl c) (.ite (ended c _) (.ite ?_ ?_))
  · refine (updateDevice_performs _ ?_ c).andThen fun c => ended c _
    exact fun _ => ⟨rfl, rfl⟩
  · split
    · exact ended c _
    · exact ended c _
    · exact openCentralL2cap_performs _ _ _ _ c begins
    · rename_i suits
      exact openCentralGatt_performs _ _ _ c scans settles begins (Config.pipe_of_pipeFor suits)

/-- The stream that a notification from the peripheral pushes its payload into. -/
def notified? (c : Core) (p : Ref) (data : Bytes) : Option Ref :=
  match (c.peripheral p).session, decodeFrame (some data) with
  | some sess, some f =>
    if f.id = (c.central.sessions.get sess).id ∧ f.type = typeData then (c.peripheral p).stream else none
  | _, _ => none

theorem onCentralNotify_performs (p : Ref) (data : Bytes) (c : Core)
    (scans : effects.scans = true) (settles : effects.settles = true)
    (begins : effects.begins = true)
    (receives : c.notified? p data ≠ none → effects.receives = true) :
    Performs env effects c (c.onCentralNotify env p data) := by
  unfold notified? at receives
  unfold onCentralNotify
  split
  · rename_i sess f here decoded
    simp only [here, decoded] at receives
    split
    · exact .refl c
    · rename_i own
      refine .ite (onHello_performs _ _ _ c scans settles begins) ?_
      by_cases pushes : f.type = typeData
      · rw [if_pos pushes]
        rw [if_pos ⟨not_not.mp own, pushes⟩] at receives
        cases bound : (c.peripheral p).stream with
        | none => exact .refl c
        | some st => exact receive_performs _ _ _ c (receives (by simp [bound]))
      · rw [if_neg pushes]
        refine .ite ?_ (.refl c)
        split
        · refine Performs.trans (setPeripheral_performs p ?_ c) (remoteEnd_performs _ _)
          exact fun _ => ⟨rfl, .inr rfl, .inl rfl⟩
        · exact endCentral_performs _ _ _ c scans settles
  · exact .refl c

end BleSwarm.Core

namespace BleSwarm.Transport

open BleSwarm.Core

/-- The events whose handlers do more than the elementary changes. -/
def Special : Event → Prop
  | .serverState _ | .centralState _ | .serviceAdd | .connOpen _ _ => True
  | _ => False

/-- What the handlers of an event may do on a transport with the given pipe. -/
def scopeOf (pipe : Pipe) : Event → Scope
  | .writeRequests _ => { serves := true, binds := pipe = .gatt }
  | .resumeAccept _ => { serves := true, binds := true }
  | .pipeTimeout _ | .streamClose _ => { serves := true }
  | .notifyState _ isNotifying => { starts := isNotifying }
  | _ => {}

/-- The same in full. -/
def effectsOf (pipe : Pipe) : Event → Effects
  | .writeRequests _ =>
    { serves := true, binds := pipe = .gatt, receives := true, scans := true, begins := true }
  | .resumeAccept _ =>
    { serves := true, binds := true, channels := true, receives := true, scans := true, begins := true }
  | .pipeTimeout _ | .streamClose _ => { serves := true }
  | .notifyState _ isNotifying =>
    { starts := isNotifying, scans := !isNotifying, settles := !isNotifying, begins := isNotifying }
  | .discover _ _ | .dialTimer => { dials := true, scans := true, settles := true }
  | .notify _ _ => { receives := true, scans := true, settles := true, begins := true }
  | .channelData _ _ => { channels := true, receives := true }
  | .serverChannel _ | .preambleTimeout _ => { channels := true }
  | .resumeOpen _ =>
    { channels := true, scans := true, settles := true, begins := true, resumes := true }
  | .connClose _ => { closes := true, scans := true }
  | .scanTimer => { scans := true }
  | .centralError _ => { settles := true }
  | .peripheralError _ | .servicesDiscover _ _ | .characteristicsDiscover _ _ | .dialTimeout _
  | .strayTimeout _ => { scans := true, settles := true }
  | _ => {}

theorem effectsOf_scope (pipe : Pipe) (e : Event) : (effectsOf pipe e).toScope = scopeOf pipe e := by
  cases e <;> rfl

theorem notifyState_performs {effects : Effects} (env : Env) (p : Ref) (isNotifying : Bool)
    (starts : isNotifying = true → effects.starts = true ∧ effects.begins = true)
    (aborts : isNotifying = false → effects.scans = true ∧ effects.settles = true) (n : Nat)
    (t : Transport) :
    Performs env effects t.core ((fun t => onNotifyState env t p isNotifying)^[n] t).core := by
  induction n generalizing t with
  | zero => exact .refl t.core
  | succ n ih =>
    refine Performs.trans ?_ (ih _)
    unfold onNotifyState
    split
    · rename_i notifying
      exact startCentralSession_performs p t.core (starts notifying).1 (starts notifying).2
    · rename_i ended
      have ended := aborts (Bool.eq_false_iff.mpr ended)
      exact abortDial_performs p t.core ended.1 ended.2

/-- Every other event, but the one that reports a psm. -/
theorem handle_performs (t : Transport) (env : Env) {e : Event} (ordinary : ¬ Special e)
    (unpublished : ∀ psm, e ≠ .channelPublish psm) :
    Performs env (effectsOf env.cfg.pipe e) t.core (t.handle env e).core := by
  cases e with
  | serverState s => exact absurd trivial ordinary
  | serviceAdd => exact absurd trivial ordinary
  | centralState s => exact absurd trivial ordinary
  | connOpen r key => exact absurd trivial ordinary
  | channelPublish psm => exact absurd rfl (unpublished psm)
  | notifyState p b =>
    refine notifyState_performs env p b (fun up => ⟨up, up⟩) (fun down => ?_) _ (t.setListeners p _)
    subst down
    exact ⟨rfl, rfl⟩
  | writeRequests requests =>
    exact onWriteRequests_performs requests _ rfl (fun gatt => decide_eq_true gatt) rfl rfl rfl
  | readyToUpdate => exact .gatt _ _ (NotifyQueue.drain_passes _ _)
  | serverChannel ch => exact onServerChannel_performs ch _ rfl
  | discover p rssi =>
    refine Performs.trans (setPeripheral_performs p ?_ _) (onDiscover_performs p _ rfl rfl rfl)
    exact fun _ => ⟨rfl, .inl rfl, .inl rfl⟩
  | connect p => exact onConnect_performs p _
  | centralError ended => exact onCentralError_performs ended _ rfl
  | peripheralError p => exact .iterate (fun c => onPeripheralError_performs p c rfl rfl) _ _
  | servicesDiscover p found =>
    exact .iterate (fun c => onServicesDiscover_performs p found c rfl rfl) _ _
  | characteristicsDiscover p found =>
    exact .iterate (fun c => onCharacteristicsDiscover_performs p found c rfl rfl) _ _
  | notify p data =>
    exact .iterate (fun c => onCentralNotify_performs p data c rfl rfl rfl fun _ => rfl) _ _
  | mtuChanged p mtu => exact .iterate (onMtuChanged_performs p mtu) _ _
  | channelOpen p channel => exact onChannelOpen_performs p channel _
  | channelData ch data => exact .foldl (fun c reader => readData_performs reader data c rfl rfl) _ _
  | channelEnd ch => exact forReaders_performs ch remoteEnd_performs _
  | channelClose ch => exact onChannelClose_performs ch _
  | streamClose st => exact onStreamClose_performs st _ rfl
  | connClose r => exact onConnClose_performs r _ rfl rfl
  | scanTimer =>
    simp only [handle, coreHandler, withCore]
    split
    · exact .ite (.refl _) (.onScanTimer _ rfl)
    · exact .refl _
  | dialTimer =>
    simp only [handle, coreHandler, withCore]
    split
    · exact .ite (.refl _) (onDialTimer_performs _ rfl rfl rfl)
    · exact .refl _
  | dialTimeout id => exact onDialTimeout_performs id _ rfl rfl
  | strayTimeout i => exact onStrayTimeout_performs i _ rfl rfl
  | pipeTimeout r => exact onPipeTimeout_performs r _ rfl
  | openTimeout a => exact onOpenTimeout_performs a _
  | preambleTimeout a => exact onPreambleTimeout_performs a _ rfl
  | notifyRetry => exact .gatt _ _ (NotifyQueue.onRetry_passes _ _)
  | resumeOpen a => exact resumeOpen_performs a _ rfl rfl rfl rfl rfl
  | resumeAccept a => exact resumeAccept_performs a _ rfl rfl rfl rfl rfl rfl

/-- What is watched of them. -/
theorem handle_proceeds (t : Transport) (env : Env) {e : Event} (ordinary : ¬ Special e) :
    Proceeds env (scopeOf env.cfg.pipe e) t.core (t.handle env e).core := by
  by_cases published : ∃ psm, e = .channelPublish psm
  · obtain ⟨psm, rfl⟩ := published
    exact .rest rfl
  · rw [← effectsOf_scope]
    exact (handle_performs t env ordinary fun psm here => published ⟨psm, here⟩).proceeds

end BleSwarm.Transport
