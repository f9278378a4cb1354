import BleSwarm.Transport.Calls
import BleSwarm.Transport.Performs.Handlers
import BleSwarm.Transport.Tracking

/-!
# The session table of the server

`Booked` is what every reachable core satisfies: the table is within its cap, every
session stands under its own id, and its pipe timer runs exactly while it stands there
without a stream. An operation `Books` a core when it keeps that and takes no stream
away from a session.
-/

namespace BleSwarm

/-- What the table relies on of a session. -/
def ServerSession.seat (s : ServerSession) : Hex × Option Ref × Option Nat :=
  (s.id, s.stream, s.pipeTimer)

namespace Core

structure Booked (cfg : Config) (c : Core) : Prop where
  room : c.server.table.size ≤ cfg.maxInbound
  known : ∀ id r, c.server.table.get? id = some r → r < c.server.sessions.next
  own : ∀ id r, c.server.table.get? id = some r → (c.session r).id = id
  armed : ∀ id r, c.server.table.get? id = some r →
    ((c.session r).pipeTimer.isSome = true ↔ (c.session r).stream = none)
  unarmed : ∀ r, (∀ id, c.server.table.get? id ≠ some r) → (c.session r).pipeTimer = none
  streaming : cfg.pipe = .gatt → ∀ id r, c.server.table.get? id = some r →
    (c.session r).stream ≠ none
  /-- A stream is of one session, and a session of one stream. -/
  bound : ∀ st < c.streams.next, ∀ r, (c.streams.get st).owner = .server r →
    r < c.server.sessions.next ∧ (c.session r).stream = some st

structure Books (cfg : Config) (c c' : Core) : Prop where
  booked : Booked cfg c → Booked cfg c'
  grows : c.server.sessions.next ≤ c'.server.sessions.next
  firm : ∀ r < c.server.sessions.next, ∀ st, (c.session r).stream = some st →
    (c'.session r).stream = some st

variable {cfg : Config} {env : Env} {scope : Scope} {c c' c'' : Core}

namespace Books

theorem refl (c : Core) : Books cfg c c := ⟨id, le_refl _, fun _ _ _ => id⟩

theorem trans (h : Books cfg c c') (h' : Books cfg c' c'') : Books cfg c c'' where
  booked := h'.booked ∘ h.booked
  grows := h.grows.trans h'.grows
  firm r lt st bound := h'.firm r (lt.trans_le h.grows) st (h.firm r lt st bound)

theorem ite {p : Prop} [Decidable p] {a b : Core} (ha : Books cfg c a) (hb : Books cfg c b) :
    Books cfg c (if p then a else b) := by
  split
  · exact ha
  · exact hb

theorem foldl {α : Type*} {f : Core → α → Core} (step : ∀ c a, Books cfg c (f c a)) (c : Core)
    (as : List α) : Books cfg c (as.foldl f c) :=
  Runs.foldl_related refl trans step c as

end Books

/-- The table and the seats of its sessions are as before, and no stream is new to the
server side. -/
structure Aside (c c' : Core) : Prop where
  table : c'.server.table = c.server.table
  next : c'.server.sessions.next = c.server.sessions.next
  seats : ∀ r, (c'.session r).seat = (c.session r).seat
  streams : Joins False c.streams c'.streams

namespace Aside

theorem refl (c : Core) : Aside c c :=
  ⟨rfl, rfl, fun _ => rfl, le_refl _, fun _ _ => rfl, fun _ lt ge => absurd (lt.trans_le ge) (lt_irrefl _)⟩

theorem trans (h : Aside c c') (h' : Aside c' c'') : Aside c c'' where
  table := h'.table.trans h.table
  next := h'.next.trans h.next
  seats r := (h'.seats r).trans (h.seats r)
  streams := h.streams.trans h'.streams

theorem of_same (table : c'.server.table = c.server.table)
    (sessions : c'.server.sessions = c.server.sessions) (streams : Joins False c.streams c'.streams) :
    Aside c c' := ⟨table, by rw [sessions], fun r => by rw [session, sessions]; rfl, streams⟩

theorem of_rest (same : (c'.server.table, c'.server.sessions, c'.streams) =
    (c.server.table, c.server.sessions, c.streams)) : Aside c c' := by
  simp only [Prod.mk.injEq] at same
  obtain ⟨table, sessions, streams⟩ := same
  exact .of_same table sessions (streams ▸ (refl c).streams)

end Aside

theorem Quiet.aside (q : Quiet c c') :
    Aside c c' := .of_rest (by rw [q.table, q.sessions, q.streams])

/-- What handlers do that serve nothing. -/
theorem Proceeds.aside (h : Proceeds env scope c c') (idle : scope.serves = false) :
    Aside c c' := by
  induction h with
  | trans _ _ ih ih' => exact ih.trans ih'
  | rest same =>
    simp only [watched, Prod.mk.injEq] at same
    obtain ⟨-, -, -, table, sessions, -, -, streams, -⟩ := same
    exact .of_same table sessions (streams ▸ (Aside.refl _).streams)
  | maybeCycle c serves due => exact (maybeCycle_quiet env c).aside
  | startScan c => exact (startScan_radioOnly env c).quiet.aside
  | stopScan c => exact (stopScan_radioOnly c).quiet.aside
  | onScanTimer c => exact (onScanTimer_radioOnly env c).quiet.aside
  | streams c streams joins =>
    exact .of_same rfl rfl ⟨joins.grows, joins.owner, fun st lt ge =>
      (joins.new st lt ge).imp_left fun serves => by simp [idle] at serves⟩
  | sessions c table sessions serves => simp [idle] at serves
  | _ => exact .of_rest rfl

theorem Aside.books (h : Aside c c') : Books cfg c c' := by
  have seat : ∀ r, (c'.session r).id = (c.session r).id ∧
      (c'.session r).stream = (c.session r).stream ∧
      (c'.session r).pipeTimer = (c.session r).pipeTimer := by
    intro r
    simpa only [ServerSession.seat, Prod.mk.injEq] using h.seats r
  refine ⟨fun booked => ?_, h.next.ge, fun r _ st bound => (seat r).2.1.trans bound⟩
  constructor
  · rw [h.table]
    exact booked.room
  · rw [h.table, h.next]
    exact booked.known
  · intro id r entry
    rw [(seat r).1]
    exact booked.own id r (h.table ▸ entry)
  · intro id r entry
    rw [(seat r).2.1, (seat r).2.2]
    exact booked.armed id r (h.table ▸ entry)
  · intro r absent
    rw [(seat r).2.2]
    exact booked.unarmed r (h.table ▸ absent)
  · intro gatt id r entry
    rw [(seat r).2.1]
    exact booked.streaming gatt id r (h.table ▸ entry)
  · intro st lt r owner
    rw [h.next, (seat r).2.1]
    rcases lt_or_ge st c.streams.next with old | new
    · exact booked.bound st old r ((h.streams.owner st old).symm.trans owner)
    · rcases h.streams.new st lt new with none | ⟨p, sess, central⟩
      · exact none.elim
      · exact absurd (owner.symm.trans central) (by simp)

theorem Quiet.books (q : Quiet c c') : Books cfg c c' := q.aside.books

theorem Performs.aside {effects : Effects} (h : Performs env effects c c')
    (idle : effects.serves = false) : Aside c c' := h.proceeds.aside idle

theorem Performs.books {effects : Effects} (h : Performs env effects c c')
    (idle : effects.serves = false) : Books cfg c c' := (h.aside idle).books

theorem setSession_aside (c : Core) (r : Ref) {f : ServerSession → ServerSession}
    (keep : ∀ s, (f s).seat = s.seat) : Aside c (c.setSession r f) :=
  ⟨rfl, rfl, fun k => c.server.sessions.modify_get_view r k f ServerSession.seat keep,
    (Aside.refl c).streams⟩

/-- A change of one session `r` and its entry. -/
theorem Booked.change (h : Booked cfg c) {r : Ref}
    (grows : c.server.sessions.next ≤ c'.server.sessions.next)
    (others : ∀ k ≠ r, c'.session k = c.session k)
    (entries : ∀ id, ∀ k ≠ r, c'.server.table.get? id = some k ↔ c.server.table.get? id = some k)
    (room : c'.server.table.size ≤ cfg.maxInbound)
    (entry : ∀ id, c'.server.table.get? id = some r → r < c'.server.sessions.next ∧
      (c'.session r).id = id ∧
      ((c'.session r).pipeTimer.isSome = true ↔ (c'.session r).stream = none) ∧
      (cfg.pipe = .gatt → (c'.session r).stream ≠ none))
    (unarmed : (∀ id, c'.server.table.get? id ≠ some r) → (c'.session r).pipeTimer = none)
    (bound : ∀ st < c'.streams.next, ∀ k, (c'.streams.get st).owner = .server k →
      k < c'.server.sessions.next ∧ (c'.session k).stream = some st) : Booked cfg c' := by
  refine ⟨room, ?_, ?_, ?_, ?_, ?_, bound⟩
  · intro id k there
    by_cases here : k = r
    · subst here
      exact (entry id there).1
    · exact (h.known id k ((entries id k here).mp there)).trans_le grows
  · intro id k there
    by_cases here : k = r
    · subst here
      exact (entry id there).2.1
    · rw [others k here]
      exact h.own id k ((entries id k here).mp there)
  · intro id k there
    by_cases here : k = r
    · subst here
      exact (entry id there).2.2.1
    · rw [others k here]
      exact h.armed id k ((entries id k here).mp there)
  · intro k absent
    by_cases here : k = r
    · subst here
      exact unarmed absent
    · rw [others k here]
      exact h.unarmed k fun id there => absent id ((entries id k here).mpr there)
  · intro gatt id k there
    by_cases here : k = r
    · subst here
      exact (entry id there).2.2.2 gatt
    · rw [others k here]
      exact h.streaming gatt id k ((entries id k here).mp there)

/-! Sessions that leave the table. -/

/-- A session in the table leaves it, with its timer. -/
theorem leave_books {id : Hex} {r : Ref} (entry : c.server.table.get? id = some r) :
    Books cfg c { c.setSession r fun s => { s with pipeTimer := none } with
      server.table := c.server.table.delete id } := by
  let timed : ServerSession → ServerSession := fun s => { s with pipeTimer := none }
  have stream : ∀ k, ((c.setSession r timed).session k).stream = (c.session k).stream :=
    fun k => c.setSession_view r k ServerSession.stream fun _ => rfl
  refine ⟨fun booked => ?_, le_refl _, fun k _ st bound => (stream k).trans bound⟩
  have gone : ∀ k, (c.server.table.delete id).get? k ≠ some r := by
    intro k there
    rw [OrderedMap.get?_delete] at there
    split at there
    · cases there
    · rename_i other
      exact other ((booked.own k r there).symm.trans (booked.own id r entry))
  refine booked.change (r := r) (le_refl _) (fun k other => ?_) (fun k r' other => ?_) ?_ ?_ ?_ ?_
  · exact c.setSession_of_ne timed other
  · simp only [OrderedMap.get?_delete]
    split
    · rename_i here
      simp [here, entry, other.symm]
    · exact Iff.rfl
  · exact (c.server.table.size_delete_le id).trans booked.room
  · exact fun k there => absurd there (gone k)
  · exact fun _ => congrArg ServerSession.pipeTimer (c.setSession_self r timed)
  · intro st lt k owner
    obtain ⟨known, bound⟩ := booked.bound st lt k owner
    exact ⟨known, (stream k).trans bound⟩

theorem reapSession_books {id : Hex} {r : Ref} (entry : c.server.table.get? id = some r) :
    Books env.cfg c (c.reapSession env id r) :=
  .trans (leave_books entry) (.ite (maybeCycle_quiet env _).aside.books (.refl _))

theorem closeServerSession_books (id : Hex) : Books env.cfg c (c.closeServerSession env id) := by
  unfold closeServerSession
  split
  · exact .refl c
  · rename_i r entry
    exact (reapSession_books entry).trans (notifyClose_quiet env _ id none).aside.books

/-- A timer that fires is of a session that waits in the table. -/
theorem onPipeTimeout_books (r : Ref) : Books env.cfg c (c.onPipeTimeout env r) := by
  unfold onPipeTimeout
  split
  · exact .refl c
  · rename_i deadline timer
    let timed : ServerSession → ServerSession := fun s => { s with pipeTimer := none }
    have stream : ∀ k, ((c.setSession r timed).session k).stream = (c.session k).stream :=
      fun k => c.setSession_view r k ServerSession.stream fun _ => rfl
    refine .ite (.refl c) ?_
    simp only [setSession_self]
    split
    · rename_i stale
      refine ⟨fun booked => ?_, le_refl _, fun k _ st bound => (stream k).trans bound⟩
      exfalso
      have entered : ∃ id, c.server.table.get? id = some r := by
        by_contra absent
        have none := booked.unarmed r fun id there => absent ⟨id, there⟩
        simp [none] at timer
      obtain ⟨k, entry⟩ := entered
      have waits := (booked.armed k r entry).mp (by simp [timer])
      simp only [booked.own k r entry, waits, Option.isSome_none, Bool.or_false,
        decide_eq_true_eq] at stale
      exact stale entry
    · rename_i waits
      simp only [Bool.or_eq_true, decide_eq_true_eq, not_or, not_not] at waits
      have entry : c.server.table.get? (c.session r).id = some r := waits.1
      exact (leave_books entry).trans (notifyClose_quiet env _ _ none).aside.books

/-! Sessions that enter the table or get their stream. -/

/-- The first stream of a session. -/
theorem Booked.first (booked : Booked cfg c) {r : Ref} {s : Stream} (owner : s.owner = .server r)
    (alone : ∀ st < c.streams.next, (c.streams.get st).owner ≠ .server r)
    (streams : c'.streams = c.streams.alloc s)
    (grows : c.server.sessions.next ≤ c'.server.sessions.next)
    (known : r < c'.server.sessions.next) (others : ∀ k ≠ r, c'.session k = c.session k)
    (here : (c'.session r).stream = some c.streams.next) :
    ∀ st < c'.streams.next, ∀ k, (c'.streams.get st).owner = .server k →
      k < c'.server.sessions.next ∧ (c'.session k).stream = some st := by
  intro st lt k own
  rw [streams] at lt own
  rcases Nat.lt_succ_iff_lt_or_eq.mp lt with old | rfl
  · rw [c.streams.alloc_get_of_lt s old] at own
    have other : k ≠ r := fun same => alone st old (same ▸ own)
    obtain ⟨before, bound⟩ := booked.bound st old k own
    exact ⟨before.trans_le grows, by rw [others k other, bound]⟩
  · rw [c.streams.alloc_get_next, owner] at own
    obtain rfl := Owner.server.inj own
    exact ⟨known, here⟩

/-- What `_bindServerStream` does once the session has its stream. -/
theorem bindServerStream_aside (env : Env) (c : Core) (r st : Ref) :
    Aside (c.setSession r fun s => { s with pipeTimer := none, stream := some st })
      (c.bindServerStream env r st) := by
  have linked : ∀ (c : Core) announced, Aside c (c.onChannel env st false none announced).1 := by
    intro c announced
    have links : Performs env { scans := true, begins := true } c
        (c.onChannel env st false none announced).1 :=
      onChannel_performs st false none announced c rfl rfl (.inl rfl)
    exact links.aside rfl
  have noted : ∀ (c : Core) conn, Aside c (c.setSession r fun s => { s with conn := conn }) :=
    fun c conn => setSession_aside c r fun _ => rfl
  simp only [bindServerStream]
  split
  · exact ((linked _ _).trans (noted _ _)).trans (maybeCycle_quiet env _).aside
  · exact (linked _ _).trans (noted _ _)

/-- A stream for a session that waits in the table. -/
theorem bindServerStream_books {id : Hex} {r : Ref} {s : Stream} (readers : Ref → List Reader)
    (owner : s.owner = .server r) (entry : c.server.table.get? id = some r)
    (waits : (c.session r).stream = none) :
    Books env.cfg c (bindServerStream env
      { c with streams := c.streams.alloc s, server.readers := readers } r c.streams.next) := by
  refine Books.trans ?_ (bindServerStream_aside env _ r c.streams.next).books
  let made : Core := { c with streams := c.streams.alloc s, server.readers := readers }
  let bind : ServerSession → ServerSession :=
    fun s => { s with pipeTimer := none, stream := some c.streams.next }
  have others : ∀ k ≠ r, (made.setSession r bind).session k = c.session k :=
    fun k other => made.setSession_of_ne bind other
  have here : (made.setSession r bind).session r = bind (c.session r) := made.setSession_self r bind
  refine ⟨fun booked => ?_, le_refl _, fun k _ st bound => ?_⟩
  · have known := booked.known id r entry
    have own := booked.own id r entry
    have alone : ∀ st < c.streams.next, (c.streams.get st).owner ≠ .server r := by
      intro st lt mine
      have bound := (booked.bound st lt r mine).2
      simp [waits] at bound
    refine booked.change (le_refl _) others (fun _ _ _ => Iff.rfl) booked.room ?_ ?_
      (booked.first owner alone rfl (le_refl _) known others (congrArg ServerSession.stream here))
    · intro k there
      refine ⟨known, ?_, ?_, ?_⟩ <;> simp only [made, bind] at here
      · rw [here]
        exact booked.own k r there
      · simp [here]
      · simp [here]
    · exact fun _ => congrArg ServerSession.pipeTimer here
  · by_cases same : k = r
    · rw [same, waits] at bound
      cases bound
    · exact (congrArg ServerSession.stream (others k same)).trans bound

/-- The session of an accepted OPEN, under an id that is free. -/
theorem enter_entries {id : Hex} (absent : c.server.table.get? id = none) {r : Ref} (k : Hex) (r' : Ref)
    (other : r' ≠ r) : (c.server.table.set id r).get? k = some r' ↔ c.server.table.get? k = some r' := by
  rw [OrderedMap.get?_set]
  split
  · rename_i here
    simp [here, absent, other.symm]
  · exact Iff.rfl

theorem onOpen_books (f : Frame) (absent : c.server.table.get? f.id = none) :
    Books env.cfg c (c.onOpen env f) := by
  simp only [onOpen]
  split
  · exact (notifyClose_quiet env c _ _).aside.books
  · exact (notifyClose_quiet env c _ _).aside.books
  · rename_i name verdict
    obtain ⟨pipe, free⟩ := judgeOpen_room verdict
    let r := c.server.sessions.next
    let s : ServerSession := { id := f.id, announced := (decodeKeyPayload f.payload).key }
    let entered : Core := { c with
      server.sessions := c.server.sessions.alloc s
      server.table := c.server.table.set f.id r }
    have fresh : entered.session r = s := c.server.sessions.alloc_get_next s
    have old : ∀ k ≠ r, entered.session k = c.session k :=
      fun k other => c.server.sessions.alloc_get_of_ne s other
    have room : (c.server.table.set f.id r).size ≤ env.cfg.maxInbound := by
      rw [OrderedMap.size_set_of_absent r absent]
      exact free
    have mine :
        Booked env.cfg c → ∀ id, (c.server.table.set f.id r).get? id = some r → id = f.id := by
      intro booked id there
      rw [OrderedMap.get?_set] at there
      split at there
      · rename_i here
        exact here
      · exact absurd (booked.known id r there) (lt_irrefl r)
    cases name with
    | l2cap =>
      let timed : ServerSession → ServerSession :=
        fun s => { s with pipeTimer := some (env.now + pipePendingTimeout) }
      have others : ∀ k ≠ r, (entered.setSession r timed).session k = c.session k :=
        fun k other => (entered.setSession_of_ne timed other).trans (old k other)
      have here : (entered.setSession r timed).session r = timed s :=
        (entered.setSession_self r timed).trans (congrArg timed fresh)
      refine Books.trans ⟨fun booked => ?_, Nat.le_succ _, ?_⟩
        (notifyHello_quiet env _ _ _).aside.books
      · refine booked.change (Nat.le_succ _) others (enter_entries absent) room ?_ ?_ ?_
        · intro id there
          rw [here]
          exact ⟨Nat.lt_succ_self r, (mine booked id there).symm, by simp [timed, s], by simp [pipe]⟩
        · intro away
          exact absurd (c.server.table.get?_set_self f.id r) (away f.id)
        · intro st lt k owner
          obtain ⟨known, bound⟩ := booked.bound st lt k owner
          exact ⟨known.trans (Nat.lt_succ_self _), (congrArg ServerSession.stream
            (others k known.ne)).trans bound⟩
      · exact fun k lt st bound => (congrArg ServerSession.stream (others k lt.ne)).trans bound
    | gatt =>
      let st : Stream := { pipe := .gatt, owner := .server r, maxPayload := some defaultPayload }
      let made : Core := { entered with streams := c.streams.alloc st }
      let bind : ServerSession → ServerSession :=
        fun s => { s with pipeTimer := none, stream := some c.streams.next }
      have others : ∀ k ≠ r, (made.setSession r bind).session k = c.session k :=
        fun k other => (made.setSession_of_ne bind other).trans (old k other)
      have here : (made.setSession r bind).session r = bind s :=
        (made.setSession_self r bind).trans (congrArg bind fresh)
      refine Books.trans ⟨fun booked => ?_, Nat.le_succ _, ?_⟩
        ((bindServerStream_aside env made r c.streams.next).trans
          (notifyHello_quiet env _ _ _).aside).books
      · have alone : ∀ st < c.streams.next, (c.streams.get st).owner ≠ .server r :=
          fun st lt owner => absurd (booked.bound st lt r owner).1 (lt_irrefl r)
        refine booked.change (Nat.le_succ _) others (enter_entries absent) room ?_ ?_
          (booked.first rfl alone rfl (Nat.le_succ _) (Nat.lt_succ_self r) others
            (congrArg ServerSession.stream here))
        · intro id there
          rw [here]
          exact ⟨Nat.lt_succ_self r, (mine booked id there).symm, by simp [bind], by simp [bind]⟩
        · exact fun _ => congrArg ServerSession.pipeTimer here
      · exact fun k lt st bound => (congrArg ServerSession.stream (others k lt.ne)).trans bound

theorem onServerFrame_books (data : Bytes) : Books env.cfg c (c.onServerFrame env data) := by
  unfold onServerFrame
  split
  · exact .refl c
  · rename_i f _
    split
    · rename_i absent
      exact .ite (onOpen_books f absent) (.refl c)
    · rename_i r entry
      refine .ite ?_ (.ite ?_ (.refl c))
      · split
        · exact closeServerSession_books f.id
        · rename_i st _
          have received : Performs env { receives := true } c (c.receive st .gatt f.payload) :=
            receive_performs st .gatt f.payload c rfl
          exact received.books rfl
      · have reaped : Books env.cfg c (c.reapSession env f.id r) := reapSession_books entry
        dsimp only
        split
        · rename_i st _
          have ended : Performs env {} (c.reapSession env f.id r)
              ((c.reapSession env f.id r).remoteEnd st) := remoteEnd_performs _ st
          exact reaped.trans (ended.books rfl)
        · exact reaped

/-- So also after each frame of the batch. -/
theorem onWriteRequests_books (requests : List (Bytes × Bool)) (c : Core) :
    Books env.cfg c (c.onWriteRequests env requests) := by
  refine Books.foldl (fun c (req : Bytes × Bool) => ?_) c requests
  have answered : Books env.cfg c (if req.2 then c.issue .respondToRequest else c) :=
    .ite (issue_quiet c _).aside.books (.refl c)
  exact .ite answered (answered.trans (onServerFrame_books req.1))

theorem takeOver_books {id : Hex} {r : Ref} (ch : Ref) (rest : Bytes)
    (entry : c.server.table.get? id = some r) (waits : (c.session r).stream = none) :
    Books env.cfg c (c.takeOver env r ch rest) := by
  let st := c.streams.next
  let s : Stream := { pipe := .l2cap, owner := .server r, channel := some ch }
  have bound : Books env.cfg c (bindServerStream env (addReader
      { c with streams := c.streams.alloc s } ch (.stream c.streams.next)) r c.streams.next) :=
    bindServerStream_books _ rfl entry waits
  have received : ∀ c : Core, Performs env { receives := true } c (c.receive st .l2cap rest) :=
    fun c => receive_performs st .l2cap rest c rfl
  exact .ite (bound.trans ((received _).books rfl)) bound

theorem resumeAccept_books (a : Ref) : Books env.cfg c (c.resumeAccept env a) := by
  have resumed : Aside c (c.setAcceptor a fun acceptor => { acceptor with resumed := true }) :=
    .of_rest rfl
  simp only [resumeAccept]
  split
  · exact .refl c
  · refine .ite (.refl c) ?_
    split
    · exact (resumed.trans (issue_quiet _ _).aside).books
    · rename_i r named
      obtain ⟨id, -, entry⟩ := Option.bind_eq_some_iff.mp named
      split
      · exact (resumed.trans (issue_quiet _ _).aside).books
      · rename_i waits
        have waits : (c.session r).stream = none := by simpa [session, setAcceptor] using waits
        exact resumed.books.trans (takeOver_books _ _ entry waits)

theorem onStreamClose_books (st : Ref) : Books env.cfg c (c.onStreamClose env st) := by
  have destroyed : Performs env {} c
      ((c.setStream st fun s => { s with closed := true }).destroyOwnChannel st) := by
    refine Performs.andThen (setStream_performs st ?_) (destroyOwnChannel_performs st)
    exact fun _ => ⟨rfl, rfl, rfl, rfl⟩
  simp only [onStreamClose]
  refine .ite ?_ (.refl c)
  split
  · exact (destroyed.books rfl).trans (closeServerSession_books _)
  · exact (destroyed.andThen (onCentralStreamClose_performs _ _)).books rfl

/-! The end of all sessions. -/

/-- Sessions keep their ids and streams, and lose timers at most. -/
structure Untimes (c c' : Core) : Prop where
  next : c'.server.sessions.next = c.server.sessions.next
  ids : ∀ r, (c'.session r).id = (c.session r).id
  stream : ∀ r, (c'.session r).stream = (c.session r).stream
  timer : ∀ r, (c.session r).pipeTimer = none → (c'.session r).pipeTimer = none
  streams : Joins False c.streams c'.streams

namespace Untimes

theorem refl (c : Core) : Untimes c c :=
  ⟨rfl, fun _ => rfl, fun _ => rfl, fun _ => id, (Aside.refl c).streams⟩

theorem trans (h : Untimes c c') (h' : Untimes c' c'') : Untimes c c'' :=
  ⟨h'.next.trans h.next, fun r => (h'.ids r).trans (h.ids r), fun r => (h'.stream r).trans (h.stream r),
    fun r none => h'.timer r (h.timer r none), h.streams.trans h'.streams⟩

/-- A fold that stops the timer of each session it is given. -/
theorem foldl {f : Core → Ref → Core} (step : ∀ c r, Untimes c (f c r))
    (stops : ∀ c r, ((f c r).session r).pipeTimer = none) (c : Core) (rs : List Ref) :
    Untimes c (rs.foldl f c) ∧ ∀ r ∈ rs, ((rs.foldl f c).session r).pipeTimer = none := by
  induction rs generalizing c with
  | nil => exact ⟨refl c, List.forall_mem_nil _⟩
  | cons r rs ih =>
    obtain ⟨untimes, stopped⟩ := ih (f c r)
    refine ⟨(step c r).trans untimes, fun k mem => ?_⟩
    rcases List.mem_cons.mp mem with rfl | later
    · exact untimes.timer k (stops c k)
    · exact stopped k later

end Untimes

/-- The table is emptied once the timers of its sessions are stopped. -/
theorem Untimes.books (h : Untimes c c')
    (stopped : ∀ r ∈ c.server.table.values, (c'.session r).pipeTimer = none) :
    Books cfg c { c' with server.table := ∅ } := by
  refine ⟨fun booked => ?_, h.next.ge, fun r _ st bound => (h.stream r).trans bound⟩
  refine ⟨Nat.zero_le _, by simp, by simp, by simp, fun r _ => ?_, by simp, fun st lt r owner => ?_⟩
  · by_cases entered : ∃ id, c.server.table.get? id = some r
    · obtain ⟨id, entry⟩ := entered
      exact stopped r (OrderedMap.mem_values entry)
    · exact h.timer r (booked.unarmed r fun id there => entered ⟨id, there⟩)
  · rcases lt_or_ge st c.streams.next with old | new
    · obtain ⟨known, bound⟩ := booked.bound st old r ((h.streams.owner st old).symm.trans owner)
      exact ⟨known.trans_eq h.next.symm, (h.stream r).trans bound⟩
    · rcases h.streams.new st lt new with none | ⟨p, sess, central⟩
      · exact none.elim
      · exact absurd (owner.symm.trans central) (by simp)

/-- A loop over the table stops the timers, and then the table is emptied. -/
theorem Untimes.foldl_books {f : Core → Ref → Core} (step : ∀ c r, Untimes c (f c r))
    (stops : ∀ c r, ((f c r).session r).pipeTimer = none) (c : Core) :
    Books cfg c { c.server.table.values.foldl f c with server.table := ∅ } := by
  obtain ⟨untimes, stopped⟩ := foldl step stops c c.server.table.values
  exact untimes.books stopped

/-- The timer of one session is stopped. -/
theorem untime_untimes (c : Core) (r : Ref) :
    Untimes c (c.setSession r fun s => { s with pipeTimer := none }) where
  next := rfl
  ids k := c.setSession_view r k ServerSession.id fun _ => rfl
  stream k := c.setSession_view r k ServerSession.stream fun _ => rfl
  timer k none := by
    by_cases here : k = r
    · rw [here, setSession_self]
    · rw [c.setSession_of_ne _ here, none]
  streams := (Aside.refl c).streams

theorem Aside.untimes (h : Aside c c') : Untimes c c' := by
  have seat : ∀ r, (c'.session r).id = (c.session r).id ∧
      (c'.session r).stream = (c.session r).stream ∧
      (c'.session r).pipeTimer = (c.session r).pipeTimer := by
    intro r
    simpa only [ServerSession.seat, Prod.mk.injEq] using h.seats r
  exact ⟨h.next, fun r => (seat r).1, fun r => (seat r).2.1, fun r none => (seat r).2.2.trans none, h.streams⟩

theorem reapAllSessions_books (c : Core) : Books cfg c c.reapAllSessions := by
  have destroyed : ∀ (c : Core) st, Aside c (c.destroyStream st) := fun c st =>
    .of_same rfl rfl (.of_modify (f := fun s => { s with destroyed := true }) st fun _ => rfl)
  unfold reapAllSessions
  apply Untimes.foldl_books
  · intro c r
    simp only
    split
    · exact (untime_untimes c r).trans (destroyed _ _).untimes
    · exact untime_untimes c r
  · intro c r
    simp only
    split
    · exact congrArg ServerSession.pipeTimer (c.setSession_self r _)
    · exact congrArg ServerSession.pipeTimer (c.setSession_self r _)

/-! Power cycles and the lifecycle. -/

theorem onRadioDown_books (c : Core) : Books cfg c c.onRadioDown := by
  have down : Aside c { c with
      radio := { c.radio with
        radioWasDown := true, radioCycled := true, serviceAdded := false,
        advertising := false, scanning := false } }.clearDeviceTimers := .of_rest rfl
  have parted :
      ∀ c : Core, Aside c { c with dial.devices := ∅ }.destroyPeers := fun _ => .of_rest rfl
  have reset : ∀ c : Core, Aside c { c with gatt := c.gatt.reset } := fun _ => .of_rest rfl
  exact ((down.trans (parted _)).books.trans (reapAllSessions_books _)).trans (reset _).books

theorem forget_books (c : Core) : Books cfg c c.forget := by
  have cleared : Aside c { c.destroyPeers with links.peers := ∅ } := .of_rest rfl
  have ended : ∀ c : Core, Aside c { c with gatt := c.gatt.reset, server.cyclePending := false } :=
    fun _ => .of_rest rfl
  exact (cleared.books.trans (reapAllSessions_books _)).trans (ended _).books

theorem doClose_books (c : Core) : Books env.cfg c (c.doClose env) := by
  apply Books.trans (Untimes.foldl_books untime_untimes ?_ c) (Aside.of_rest ?_).books
  · exact fun c r => congrArg ServerSession.pipeTimer (c.setSession_self r _)
  · rw [doClose_eq, foldl_setSession]

/-! Steps. -/

theorem books_spans : Spans (Books cfg) := ⟨Quiet.books, Books.trans⟩

theorem onConnOpen_books (r : Ref) (key : Bytes) : Books env.cfg c (c.onConnOpen env r key) := by
  obtain ⟨-, streams, table, sessions⟩ := onConnOpen_rest env c r key
  exact (Aside.of_same table sessions (streams ▸ (Aside.refl c).streams)).books

theorem Calls.books (h : Calls env c c') : Books env.cfg c c' :=
  books_spans.calls forget_books doClose_books h

end Core

namespace Transport

open BleSwarm.Core

theorem handle_books (t : Transport) (env : Env) (e : Event) :
    Books env.cfg t.core (t.handle env e).core := by
  cases e with
  | serverState s => exact books_spans.onServerState onRadioDown_books env t.core s
  | centralState s => exact books_spans.onCentralState onRadioDown_books env t.core s
  | serviceAdd => exact (onServiceAdd_radioOnly _).quiet.books
  | connOpen r key => exact onConnOpen_books r key
  | writeRequests requests => exact onWriteRequests_books requests _
  | resumeAccept a => exact resumeAccept_books a
  | pipeTimeout r => exact onPipeTimeout_books r
  | streamClose st => exact onStreamClose_books st
  | _ => exact ((handle_proceeds t env (by simp [Special])).aside rfl).books

theorem act_books (t : Transport) (a : Action) : Books t.cfg t.core (t.act a).core := by
  have begun : ∀ native, Books t.cfg t.core (t.begin native).core :=
    fun native => (begin_quiet t native).books
  rcases t.act_split a with ⟨i, rfl, -, run⟩ | ⟨i, rfl, -, run⟩ | ⟨-, env, cfg, -, -, calls⟩
  · rw [run]
    exact begun i.native
  · rw [run]
    exact (begun i.native).trans (handle_books (t.begin i.native) (t.env i.now i.native) i.event)
  · exact (begun env.native).trans (cfg ▸ calls.books)

theorem create_booked (cfg : Config) (topic : Option Bytes) (online : Bool)
    (ids : Ref → PeripheralId) : Booked cfg (create cfg topic online ids).core where
  room := Nat.zero_le _
  known := by simp [create]
  own := by simp [create]
  armed := by simp [create]
  unarmed _ _ := rfl
  streaming := by simp [create]
  bound st lt := absurd lt (Nat.not_lt_zero st)

/-- No session loses the stream it has. -/
def Firm (t : Transport) (a : Action) : Prop :=
  ∀ r < t.core.server.sessions.next, ∀ st, (t.core.session r).stream = some st →
    ((t.act a).core.session r).stream = some st

/-- Every run keeps the session table in order, and binds no session twice. -/
theorem sessions_booked (cfg : Config) (topic : Option Bytes) (online : Bool)
    (ids : Ref → PeripheralId) (actions : List Action) :
    Booked cfg (Runs.run act (create cfg topic online ids) actions).core ∧
      Runs.Each act Firm (create cfg topic online ids) actions := by
  have keep : ∀ (t : Transport) (a : Action), t.cfg = cfg ∧ Booked cfg t.core →
      (t.act a).cfg = cfg ∧ Booked cfg (t.act a).core := by
    rintro t a ⟨rfl, booked⟩
    exact ⟨act_cfg t a, (act_books t a).booked booked⟩
  have start :
      (create cfg topic online ids).cfg = cfg ∧ Booked cfg (create cfg topic online ids).core :=
    ⟨rfl, create_booked cfg topic online ids⟩
  exact ⟨(Runs.always keep start actions).2, Runs.each_of_forall (fun t a => (act_books t a).firm) _ _⟩

end Transport

end BleSwarm
