import BleSwarm.Codec
import BleSwarm.Transport.Grounded
import BleSwarm.Transport.Reuse
import Mathlib.Data.List.ReduceOption

/-!
# A server's streams and the mail

Which frames a server took decides what its streams received: those of a session hold the
payloads of its DATA frames, in order, from the OPEN that began it to its end. Nothing else
that happens to a transport adds to them.
-/

namespace BleSwarm.Core

/-- What a frame says to the session of an id: nothing, OPEN or DATA. -/
def said (id : Hex) (frame : Bytes) : Option (Option Bytes) :=
  match decodeFrame (some frame) with
  | some f =>
    if f.id = id then
      if f.type = typeOpen then some none
      else if f.type = typeData then some (some f.payload)
      else none
    else none
  | none => none

/-- What frames say to the session of an id, in order. -/
def mail (id : Hex) (frames : List Bytes) : List (Option Bytes) := frames.filterMap (said id)

@[simp] theorem mail_append (id : Hex) (frames frames' : List Bytes) :
    mail id (frames ++ frames') = mail id frames ++ mail id frames' := List.filterMap_append

/-- The chunks of a stream that came in DATA frames. -/
def fromFrames (s : Stream) : List Bytes :=
  s.received.filterMap fun chunk => if chunk.1 = .gatt then some chunk.2 else none

/-- The session began with an OPEN and took the DATA that followed, all of it while it lasts. -/
def Follows (mail : List (Option Bytes)) (chunks : List Bytes) (lasts : Prop) : Prop :=
  ∃ before mid after, mail = before ++ none :: mid ++ after ∧ mid.reduceOption = chunks ∧
    (lasts → after = [])

/-- How many sessions the server accepted under an id. -/
def acceptances (c : Core) (id : Hex) : Nat :=
  (List.range c.server.sessions.next).countP fun k => decide ((c.session k).id = id)

/-- What the streams of the server hold is what the frames said that the server took, and a
session takes an OPEN. -/
structure Mailed (frames : List Bytes) (c : Core) : Prop where
  opens : ∀ id, c.acceptances id ≤ (mail id frames).count none
  waits : ∀ id r, c.server.table.get? id = some r → (c.session r).stream = none →
    Follows (mail id frames) [] True
  holds : ∀ st < c.streams.next, ∀ r, (c.streams.get st).owner = .server r →
    Follows (mail (c.session r).id frames) (fromFrames (c.streams.get st))
      (c.server.table.get? (c.session r).id = some r)

/-- No session begins, none loses its stream, and no stream of the server receives a frame. -/
structure Keeps (c c' : Core) : Prop where
  sessions : c'.server.sessions.next = c.server.sessions.next
  table : ∀ id r, c'.server.table.get? id = some r → c.server.table.get? id = some r
  session : ∀ r, (c'.session r).id = (c.session r).id ∧
    ((c'.session r).stream = none → (c.session r).stream = none)
  stream : ∀ st < c'.streams.next, ∀ r, (c'.streams.get st).owner = .server r →
    st < c.streams.next ∧ (c.streams.get st).owner = .server r ∧
      fromFrames (c'.streams.get st) = fromFrames (c.streams.get st)

variable {env : Env} {ev : Evidence} {cfg : Config} {c c' c'' : Core}

variable {frames : List Bytes} {frame : Bytes}

theorem decoded_head? {f : Frame} (decoded : decodeFrame (some frame) = some f) :
    frame.head? = some f.type := by
  obtain ⟨long, parts⟩ := decodeFrame_eq_some decoded
  have rebuilt : frameCodec (frameCodec.symm frame) = frame := frameCodec.right_inv long
  rw [parts] at rebuilt
  rw [← rebuilt]
  exact encodeFrame_head? f.type f.id f.payload

/-- A CLOSE says nothing that a session takes. -/
theorem said_of_close (close : frame.head? = some typeClose) (id : Hex) : said id frame = none := by
  unfold said
  cases decoded : decodeFrame (some frame) with
  | none => rfl
  | some f =>
    have type : f.type = typeClose := Option.some.inj ((decoded_head? decoded).symm.trans close)
    simp [type, typeClose, typeOpen, typeData]

theorem mail_eq_nil {id : Hex} (silent : ∀ frame ∈ frames, said id frame = none) :
    mail id frames = [] := List.filterMap_eq_nil_iff.mpr silent

theorem Follows.imp {mail : List (Option Bytes)} {chunks : List Bytes} {lasts lasts' : Prop}
    (h : Follows mail chunks lasts) (imp : lasts' → lasts) : Follows mail chunks lasts' := by
  obtain ⟨before, mid, after, split, chunks, all⟩ := h
  exact ⟨before, mid, after, split, chunks, all ∘ imp⟩

/-- More mail for a session that lasts is taken, and for one that does not is not. -/
theorem Follows.more {mail more : List (Option Bytes)} {chunks : List Bytes} {lasts lasts' : Prop}
    (h : Follows mail chunks lasts) (imp : lasts' → lasts) (taken : lasts' → more.reduceOption = []) :
    Follows (mail ++ more) chunks lasts' := by
  obtain ⟨before, mid, after, rfl, rfl, all⟩ := h
  by_cases last : lasts'
  · obtain rfl := all (imp last)
    refine ⟨before, mid ++ more, [], by simp, ?_, fun _ => rfl⟩
    rw [List.reduceOption_append, taken last, List.append_nil]
  · exact ⟨before, mid, after ++ more, by simp, rfl, fun last' => absurd last' last⟩

theorem Follows.take {mail more : List (Option Bytes)} {chunks : List Bytes} {lasts : Prop}
    (h : Follows mail chunks lasts) (last : lasts) :
    Follows (mail ++ more) (chunks ++ more.reduceOption) lasts := by
  obtain ⟨before, mid, after, rfl, rfl, all⟩ := h
  obtain rfl := all last
  exact ⟨before, mid ++ more, [], by simp, List.reduceOption_append mid more, fun _ => rfl⟩

/-- Sessions of one id are the same where no more than one was accepted. -/
theorem session_unique {id : Hex} (once : c.acceptances id ≤ 1) {k k' : Ref}
    (lt : k < c.server.sessions.next) (lt' : k' < c.server.sessions.next)
    (own : (c.session k).id = id) (own' : (c.session k').id = id) : k = k' := by
  rw [acceptances, List.countP_eq_length_filter] at once
  have mem : ∀ r < c.server.sessions.next, (c.session r).id = id →
      r ∈ (List.range c.server.sessions.next).filter fun r => decide ((c.session r).id = id) :=
    fun r lt own => List.mem_filter.mpr ⟨List.mem_range.mpr lt, decide_eq_true own⟩
  have here := mem k lt own
  have there := mem k' lt' own'
  cases all : (List.range c.server.sessions.next).filter fun r => decide ((c.session r).id = id) with
  | nil =>
    rw [all] at here
    cases here
  | cons r rest =>
    rw [all] at once here there
    obtain rfl : rest = [] := List.eq_nil_of_length_eq_zero (by simpa using once)
    exact (List.mem_singleton.mp here).trans (List.mem_singleton.mp there).symm

/-! Whatever is no frame for the server. -/

namespace Keeps

theorem refl (c : Core) : Keeps c c :=
  ⟨rfl, fun _ _ => id, fun _ => ⟨rfl, id⟩, fun _ lt _ owner => ⟨lt, owner, rfl⟩⟩

theorem trans (h : Keeps c c') (h' : Keeps c' c'') : Keeps c c'' where
  sessions := h'.sessions.trans h.sessions
  table id r entry := h.table id r (h'.table id r entry)
  session r := ⟨(h'.session r).1.trans (h.session r).1,
    fun none => (h.session r).2 ((h'.session r).2 none)⟩
  stream st lt r owner := by
    obtain ⟨lt, owner, same⟩ := h'.stream st lt r owner
    obtain ⟨lt, owner, same'⟩ := h.stream st lt r owner
    exact ⟨lt, owner, same.trans same'⟩

theorem acceptances (h : Keeps c c') (id : Hex) : c'.acceptances id = c.acceptances id := by
  simp only [Core.acceptances, h.sessions, fun k => (h.session k).1]

/-- Frames that bring no DATA to a session that lasts. -/
theorem mailed (h : Keeps c c') (m : Mailed frames c)
    (silent : ∀ id r, c'.server.table.get? id = some r → (mail id [frame]).reduceOption = []) :
    Mailed (frames ++ [frame]) c' where
  opens id := by
    rw [h.acceptances, mail_append, List.count_append]
    exact Nat.le_add_right_of_le (m.opens id)
  waits id r entry unbound := by
    rw [mail_append]
    have waits := m.waits id r (h.table id r entry) ((h.session r).2 unbound)
    exact waits.more (fun last => last) fun _ => silent id r entry
  holds st lt r owner := by
    obtain ⟨made, owns, same⟩ := h.stream st lt r owner
    rw [(h.session r).1, same, mail_append]
    exact (m.holds st made r owns).more (h.table _ r) fun entry => silent _ r entry

theorem mailed' (h : Keeps c c') (m : Mailed frames c) : Mailed frames c' where
  opens id := (h.acceptances id).trans_le (m.opens id)
  waits id r entry unbound := m.waits id r (h.table id r entry) ((h.session r).2 unbound)
  holds st lt r owner := by
    obtain ⟨made, owns, same⟩ := h.stream st lt r owner
    rw [(h.session r).1, same]
    exact (m.holds st made r owns).imp (h.table _ r)

end Keeps

theorem NoneBegins.keeps (h : NoneBegins c c') : Keeps c c' where
  sessions := h.sessions.next
  table := h.table
  session r := by
    have same := h.sessions.view r
    simp only [ServerSession.identity, Prod.mk.injEq] at same
    exact ⟨same.1, fun none => same.2.2.symm.trans none⟩
  stream st lt r owner := by
    have same := h.streams.view st
    simp only [Stream.content, Prod.mk.injEq] at same
    refine ⟨h.streams.next ▸ lt, same.2.1.symm.trans owner, ?_⟩
    unfold fromFrames
    rw [same.2.2]

/-! Whatever begins without a frame for the server. -/

/-- What traces back to some evidence traces back to more. -/
theorem Traces.mono {ev' : Evidence} (le : ev ≤ ev') (h : Traces env ev c c') :
    Traces env ev' c c' := by
  have invited : ∀ {c : Core} {p sess key}, Invited ev env.cfg c p sess key →
      Invited ev' env.cfg c p sess key := by
    rintro c p sess key (⟨flags, psm, told, accepts⟩ | attempt)
    · exact .inl ⟨flags, psm, told.mono le, accepts⟩
    · exact .inr attempt
  induction h with
  | trans _ _ ih ih' => exact ih.trans ih'
  | noneBegins h => exact .noneBegins h
  | listen c published => exact .listen c (le.published _ published)
  | accept c asked accepted suits absent => exact .accept c (asked.mono le) accepted suits absent
  | greet c entry known => exact .greet c entry known
  | serve c s owner empty entry unbound => exact .serve c s owner empty entry unbound
  | start c clear => exact .start c fun st bound => le.reused st (clear st bound)
  | attempt c timer current told accepted suits =>
    exact .attempt c timer current (told.mono le) accepted suits
  | dial c s owner empty current invites => exact .dial c s owner empty current (invited invites)
  | link c conn riding rides =>
    refine .link c conn riding ?_
    cases owner : (c.streams.get conn.stream).owner with
    | server r =>
      rw [owner] at rides
      exact rides
    | central p sess =>
      rw [owner] at rides
      exact ⟨rides.1, invited rides.2⟩
  | receive c delivered =>
    refine .receive c ?_
    cases delivered with
    | server entry bound written decoded => exact .server entry bound (le.written _ written) decoded
    | central current bound notified decoded =>
      exact .central current bound (le.notified _ _ notified) decoded
    | channel => exact .channel _
  | send c ackWrites handed => exact .send c ackWrites (le.handed _ _ handed)

theorem Grounded.mailed_serve (g : Grounded ev cfg c) (m : Mailed frames c) (s : Stream)
    {id : Hex} {r : Ref}
    (owner : s.owner = .server r) (empty : s.received = [])
    (entry : c.server.table.get? id = some r) (unbound : (c.session r).stream = none) :
    Mailed frames ({ c with streams := c.streams.alloc s }.setSession r fun x =>
      { x with pipeTimer := none, stream := some c.streams.next }) := by
  let bind : ServerSession → ServerSession :=
    fun x => { x with pipeTimer := none, stream := some c.streams.next }
  let made : Core := { c with streams := c.streams.alloc s }.setSession r bind
  have ids : ∀ k, (made.session k).id = (c.session k).id :=
    fun k => c.server.sessions.modify_get_view r k bind ServerSession.id fun _ => rfl
  have here : (made.session r).stream = some c.streams.next :=
    congrArg ServerSession.stream (c.server.sessions.modify_get_self r bind)
  have others : ∀ k ≠ r, made.session k = c.session k :=
    fun k other => c.server.sessions.modify_get_of_ne bind other
  constructor
  · intro key
    have same : made.acceptances key = c.acceptances key := by
      simp only [acceptances, ids]
      rfl
    exact same.trans_le (m.opens key)
  · intro key k table free
    have free : (made.session k).stream = none := free
    by_cases same : k = r
    · subst same
      rw [here] at free
      cases free
    · rw [others k same] at free
      exact m.waits key k table free
  · intro st lt k owns
    change Follows (mail (made.session k).id frames) (fromFrames (made.streams.get st))
      (c.server.table.get? (made.session k).id = some k)
    have owns : (made.streams.get st).owner = .server k := owns
    rw [ids]
    by_cases new : st = c.streams.next
    · subst new
      have get : made.streams.get c.streams.next = s := c.streams.alloc_get_next s
      rw [get] at owns ⊢
      obtain rfl := Owner.server.inj (owner.symm.trans owns)
      have waits := m.waits id r entry unbound
      rw [← (g.table id r entry).2] at waits
      have nothing : fromFrames s = [] := by
        unfold fromFrames
        rw [empty]
        rfl
      rw [nothing]
      exact waits.imp fun _ => trivial
    · have get : made.streams.get st = c.streams.get st := c.streams.alloc_get_of_ne s new
      rw [get] at owns ⊢
      exact m.holds st (Nat.lt_of_le_of_ne (Nat.le_of_lt_succ lt) new) k owns

/-- A chunk that came by another way than a frame for the server. -/
theorem Grounded.receive_keeps {ev' : Evidence} (g : Grounded ev' cfg c)
    (mute : ∀ frame, ¬ ev.written frame) {st : Ref} {via : Pipe} {chunk : Bytes}
    (delivered : Delivered ev c st via chunk) :
    Keeps c (c.receive st via chunk) := by
  let push : Stream → Stream := fun s => { s with received := s.received ++ [(via, chunk)] }
  have owner : ∀ k, ((c.receive st via chunk).streams.get k).owner = (c.streams.get k).owner :=
    fun k => c.streams.modify_get_view st k push Stream.owner fun _ => rfl
  refine { Keeps.refl c with stream := fun k lt r owns => ?_ }
  rw [owner] at owns
  refine ⟨lt, owns, ?_⟩
  have get : (c.receive st via chunk).streams.get k =
      if k = st then push (c.streams.get st) else c.streams.get k := c.streams.modify_get st k push
  rw [get]
  split
  · rename_i here
    subst here
    cases delivered with
    | server entry bound written decoded => exact absurd written (mute _)
    | @central p sess frame _ current bound notified decoded =>
      obtain ⟨-, s, central, -⟩ := g.slots p k bound
      rw [central] at owns
      cases owns
    | channel => simp [fromFrames, push]
  · rfl

theorem sendFragment_keeps (env : Env) (c : Core) (st : Ref) (payload : Bytes) (ackWrites : Bool) :
    Keeps c (c.sendFragment env st payload ackWrites) := by
  simp only [sendFragment]
  split
  · split <;> exact { Keeps.refl c with }
  · exact .refl c

theorem Traces.mailed (h : Traces env ev c c') {ev' : Evidence} (le : ev ≤ ev')
    (mute : ∀ frame, ¬ ev.written frame) (g : Grounded ev' env.cfg c) (m : Mailed frames c) :
    Mailed frames c' := by
  induction h with
  | trans h _ ih ih' => exact ih' ((h.mono le).grounded g) (ih g m)
  | noneBegins h => exact h.keeps.mailed' m
  | accept c asked =>
    obtain ⟨frame, psm, written, -⟩ := asked
    exact absurd written (mute frame)
  | serve c s owner empty entry unbound => exact g.mailed_serve m s owner empty entry unbound
  | dial c s owner empty current invited =>
    refine Keeps.mailed' { Keeps.refl c with stream := fun st lt r owns => ?_ } m
    by_cases new : st = c.streams.next
    · subst new
      have owns : ((c.streams.alloc s).get c.streams.next).owner = .server r := owns
      rw [Heap.alloc_get_next, owner] at owns
      cases owns
    · have owns : ((c.streams.alloc s).get st).owner = .server r := owns
      have get : (c.streams.alloc s).get st = c.streams.get st := c.streams.alloc_get_of_ne s new
      rw [get] at owns
      exact ⟨Nat.lt_of_le_of_ne (Nat.le_of_lt_succ lt) new, owns, congrArg fromFrames get⟩
  | receive c delivered => exact (g.receive_keeps mute delivered).mailed' m
  | send c ackWrites handed => exact (sendFragment_keeps env c _ _ ackWrites).mailed' m
  | _ => exact { m with }

/-! A frame for the server. -/

section

variable {f : Frame} (decoded : decodeFrame (some frame) = some f)

include decoded

theorem mail_of_ne {id : Hex} (other : f.id ≠ id) : mail id [frame] = [] := by
  simp [mail, said, decoded, other]

theorem mail_of_control (control : f.type ≠ typeData) (id : Hex) :
    (mail id [frame]).reduceOption = [] := by
  simp only [mail, said, decoded, control, if_false, List.filterMap_cons, List.filterMap_nil]
  by_cases own : f.id = id
  · by_cases opens : f.type = typeOpen
    · simp [own, opens]
    · simp [own, opens]
  · simp [own]

theorem mail_of_open (opens : f.type = typeOpen) : mail f.id [frame] = [none] := by
  simp [mail, said, decoded, opens]

theorem mail_of_data (data : f.type = typeData) : mail f.id [frame] = [some f.payload] := by
  simp [mail, said, decoded, data, typeData, typeOpen]

/-- An OPEN begins a session. -/
theorem Grounded.mailed_enter (g : Grounded ev cfg c) (m : Mailed frames c) (key : Bytes)
    (opens : f.type = typeOpen) :
    Mailed (frames ++ [frame]) (c.enter f.id key) := by
  have control : f.type ≠ typeData := by
    rw [opens]
    decide
  have sessions : ∀ r < c.server.sessions.next, (c.enter f.id key).session r = c.session r :=
    fun r lt => c.server.sessions.alloc_get_of_lt _ lt
  have entries : ∀ id, (c.enter f.id key).server.table.get? id =
      if id = f.id then some c.server.sessions.next else c.server.table.get? id := by
    intro id
    simp [enter, OrderedMap.get?_set]
  constructor
  · intro id
    have old : (List.range c.server.sessions.next).countP
          (fun k => decide (((c.enter f.id key).session k).id = id)) = c.acceptances id := by
      refine List.countP_congr fun k mem => ?_
      rw [sessions k (List.mem_range.mp mem)]
    have new : ((c.enter f.id key).session c.server.sessions.next).id = f.id :=
      congrArg ServerSession.id (c.server.sessions.alloc_get_next _)
    have next : (c.enter f.id key).server.sessions.next = c.server.sessions.next + 1 := rfl
    rw [acceptances, next, List.range_succ, List.countP_append, old, mail_append, List.count_append]
    refine Nat.add_le_add (m.opens id) ?_
    by_cases own : f.id = id
    · subst own
      simp [new, mail_of_open decoded opens]
    · simp [new, own]
  · intro id r entry unbound
    rw [entries] at entry
    split at entry
    · rename_i own
      subst own
      refine ⟨mail f.id frames, [], [], ?_, rfl, fun _ => rfl⟩
      rw [mail_append, mail_of_open decoded opens, List.append_nil]
    · rename_i other
      have lt := (g.table id r entry).1
      rw [sessions r lt] at unbound
      rw [mail_append]
      exact (m.waits id r entry unbound).more (fun last => last) fun _ =>
        mail_of_control decoded control id
  · intro st made r owner
    have made : st < c.streams.next := made
    have owner : (c.streams.get st).owner = .server r := owner
    have owned := g.owners st made
    rw [owner] at owned
    rw [sessions r owned.1, entries, mail_append]
    refine (m.holds st made r owner).more (fun entry => ?_) fun _ => mail_of_control decoded control _
    split at entry
    · obtain rfl := Option.some.inj entry
      exact absurd owned.1 (Nat.lt_irrefl _)
    · exact entry

/-- DATA for a session goes to its stream. -/
theorem Grounded.mailed_data (g : Grounded ev cfg c) (m : Mailed frames c) (data : f.type = typeData)
    {r st : Ref} (entry : c.server.table.get? f.id = some r)
    (bound : (c.session r).stream = some st) :
    Mailed (frames ++ [frame]) (c.receive st .gatt f.payload) := by
  let push : Stream → Stream := fun s => { s with received := s.received ++ [(.gatt, f.payload)] }
  have owner : ∀ k, ((c.receive st .gatt f.payload).streams.get k).owner = (c.streams.get k).owner :=
    fun k => c.streams.modify_get_view st k push Stream.owner fun _ => rfl
  have own : (c.session r).id = f.id := (g.table f.id r entry).2
  constructor
  · intro id
    rw [mail_append, List.count_append]
    exact Nat.le_add_right_of_le (m.opens id)
  · intro id k here unbound
    have here : c.server.table.get? id = some k := here
    have unbound : (c.session k).stream = none := unbound
    have other : f.id ≠ id := by
      rintro rfl
      obtain rfl := Option.some.inj (entry.symm.trans here)
      rw [bound] at unbound
      cases unbound
    rw [mail_append, mail_of_ne decoded other, List.append_nil]
    exact m.waits id k here unbound
  · intro k made q owns
    rw [owner] at owns
    have made : k < c.streams.next := made
    have owned := g.owners k made
    rw [owns] at owned
    have held := m.holds k made q owns
    change Follows (mail (c.session q).id (frames ++ [frame])) _
      (c.server.table.get? (c.session q).id = some q)
    rw [mail_append]
    by_cases here : k = st
    · subst here
      have served := (g.binds r (g.table f.id r entry).1 k bound).2
      obtain rfl := Owner.server.inj (served.symm.trans owns)
      have chunks : fromFrames ((c.receive k .gatt f.payload).streams.get k) =
          fromFrames (c.streams.get k) ++ (mail (c.session r).id [frame]).reduceOption := by
        have get : (c.receive k .gatt f.payload).streams.get k = push (c.streams.get k) :=
          c.streams.modify_get_self k push
        rw [get, own, mail_of_data decoded data]
        simp [fromFrames, push]
      rw [chunks]
      exact held.take (own ▸ entry)
    · have get : (c.receive st .gatt f.payload).streams.get k = c.streams.get k :=
        c.streams.modify_get_of_ne push here
      rw [get]
      by_cases same : f.id = (c.session q).id
      · refine held.more (fun last => last) fun last => ?_
        rw [← same] at last
        obtain rfl := Option.some.inj (entry.symm.trans last)
        exact absurd (Option.some.inj (owned.2.symm.trans bound)) here
      · rw [mail_of_ne decoded same]
        exact held.more (fun last => last) fun _ => rfl

end

theorem onServerFrame_mailed (g : Grounded ev env.cfg c) (m : Mailed frames c) (frame : Bytes) :
    Mailed (frames ++ [frame]) (c.onServerFrame env frame) := by
  unfold onServerFrame
  cases decoded : decodeFrame (some frame) with
  | none =>
    refine (Keeps.refl c).mailed m fun id r _ => ?_
    simp [mail, said, decoded]
  | some f =>
    dsimp only
    cases entry : c.server.table.get? f.id with
    | none =>
      have absent : ∀ {c'}, Keeps c c' → ∀ id r, c'.server.table.get? id = some r →
          (mail id [frame]).reduceOption = [] := by
        intro c' keeps id r here
        have other : f.id ≠ id := by
          rintro rfl
          rw [keeps.table _ r here] at entry
          cases entry
        rw [mail_of_ne decoded other]
        rfl
      dsimp only
      split
      · rename_i opens
        rcases onOpen_enters env c f with refused | ⟨accepted, suits, served⟩
        · exact refused.keeps.mailed m (absent refused.keeps)
        · have asked : Evidence.all.OpenWritten f.id (decodeKeyPayload f.payload).key
              (decodeKeyPayload f.payload).flags := by
            refine ⟨frame, (decodeKeyPayload f.payload).psm, trivial, f.payload, ?_, rfl⟩
            rw [decoded, ← opens]
          have grounded := (g.mono ev.le_all).accept asked accepted suits
          exact (served .unwritten).mailed (Evidence.le_all _) (fun _ => not_false) grounded
            (g.mailed_enter decoded m _ opens)
      · exact (Keeps.refl c).mailed m (absent (.refl c))
    | some r =>
      dsimp only
      split
      · rename_i data
        cases bound : (c.session r).stream with
        | none =>
          have closes : NoneBegins c (c.closeServerSession env f.id) :=
            .of_performs env (closeServerSession_performs f.id c rfl)
          refine closes.keeps.mailed m fun id k here => ?_
          have other : f.id ≠ id := by
            rintro rfl
            have left : (c.closeServerSession env f.id).server.table =
              c.server.table.delete f.id := by
              simp only [closeServerSession, entry]
              exact (reapSession_rest env c f.id r).1
            rw [left, OrderedMap.get?_delete_self] at here
            cases here
          rw [mail_of_ne decoded other]
          rfl
        | some st => exact g.mailed_data decoded m data entry bound
      · rename_i control
        have reaped : NoneBegins c (c.reapSession env f.id r) :=
          .of_performs env (reapSession_performs f.id r c rfl)
        refine Keeps.mailed ?_ m fun id _ _ => mail_of_control decoded control id
        split
        · split
          · exact (reaped.trans (.of_performs env (remoteEnd_performs _ _))).keeps
          · exact reaped.keeps
        · exact .refl c

theorem onWriteRequests_mailed (requests : List (Bytes × Bool)) (g : Grounded .all env.cfg c)
    (m : Mailed frames c) :
    Mailed (frames ++ if env.life.suspended then [] else requests.map Prod.fst)
      (c.onWriteRequests env requests) := by
  unfold onWriteRequests
  induction requests generalizing c frames with
  | nil => simpa using m
  | cons req requests ih =>
    have responds : NoneBegins c (if req.2 then c.issue .respondToRequest else c) :=
      .ite (.issue c trivial) (.refl c)
    have grounded := responds.grounded g
    have mailed := responds.keeps.mailed' m
    rw [List.foldl_cons]
    cases suspended : env.life.suspended with
    | true =>
      simp only [suspended, if_true] at ih ⊢
      exact ih grounded mailed
    | false =>
      simp only [suspended, Bool.false_eq_true, if_false] at ih ⊢
      let responded : Core := if req.2 then c.issue .respondToRequest else c
      have traced : Traces env .all responded (responded.onServerFrame env req.1) :=
        onServerFrame_traces trivial responded
      have more := ih (traced.grounded grounded) (onServerFrame_mailed grounded mailed req.1)
      rwa [List.append_assoc] at more

end BleSwarm.Core

namespace BleSwarm.Transport

open BleSwarm.Core

/-- The frames that a step hands to the server. -/
def takes (t : Transport) : Action → List Bytes
  | .input i =>
    match i.event with
    | .writeRequests requests => if t.life.opened && !t.life.suspended then requests.map Prod.fst else []
    | _ => []
  | _ => []

/-- A step adds to the streams of the server what it takes. -/
theorem act_mailed {t : Transport} {frames : List Bytes} (g : Grounded .all t.cfg t.core)
    (m : Mailed frames t.core) (a : Action) : Mailed (frames ++ t.takes a) (t.act a).core := by
  have others (brings : Brings .unwritten t a) (takes : t.takes a = []) :
      Mailed (frames ++ t.takes a) (t.act a).core := by
    obtain ⟨env, cfg, traces⟩ := t.act_traces brings
    have begun : Grounded .all env.cfg (t.begin env.native).core := cfg ▸ begin_grounded env.native g
    rw [takes, List.append_nil]
    exact traces.mailed (Evidence.le_all _) (fun _ => not_false) begun { m with }
  cases a with
  | input i =>
    obtain ⟨now, native, event⟩ := i
    cases event with
    | writeRequests requests =>
      cases opened : t.life.opened with
      | false =>
        rw [act_input_unopened opened]
        simp only [takes, opened, Bool.false_and, Bool.false_eq_true, if_false, List.append_nil]
        exact { m with }
      | true =>
        rw [act_input opened]
        have begun : Grounded .all t.cfg (t.begin native).core := begin_grounded native g
        have mailed : Mailed
            (frames ++ if (t.env now native).life.suspended then [] else requests.map Prod.fst)
            ((t.begin native).core.onWriteRequests (t.env now native) requests) :=
          onWriteRequests_mailed requests begun { m with }
        cases suspended : t.life.suspended with
        | true =>
          have env : (t.env now native).life.suspended = true := suspended
          simp only [takes, opened, suspended, Bool.not_true, Bool.and_false, Bool.false_eq_true,
            if_false]
          rwa [if_pos env] at mailed
        | false =>
          have env : ¬ (t.env now native).life.suspended = true := by simp [Transport.env, suspended]
          simp only [takes, opened, suspended, Bool.not_false, Bool.and_self, if_true]
          rwa [if_neg env] at mailed
    | notifyState p isNotifying => exact others (fun _ _ _ _ => trivial) rfl
    | _ => exact others trivial rfl
  | _ => exact others trivial rfl

end BleSwarm.Transport
