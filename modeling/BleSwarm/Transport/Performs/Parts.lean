import BleSwarm.Transport.Frame
import BleSwarm.Transport.Proceeds

/-!
# What may become of each part

Dial records, streams, links, sessions and openings change in a few ways. What a change
keeps of its part is said here, for the list of changes that handlers are made of.
-/

namespace BleSwarm

/-! Commands. -/

/-- The native server is asked for a channel, or gets one back. -/
def Command.listens : Command → Bool
  | .publishChannel | .unpublishChannel _ => true
  | _ => false

/-- The native scan is started or stopped. -/
def Command.toggles : Command → Bool
  | .startScan _ | .stopScan => true
  | _ => false

def Command.connects : Command → Option Ref
  | .connect p => some p
  | _ => none

/-- No frame but CLOSE, and no channel is asked for. -/
def Command.plain : Command → Prop
  | .send _ frame _ => frame.head? = some typeClose
  | .openL2CAPChannel _ _ => False
  | _ => True

/-- An answer, a question or a goodbye: nothing is started or hosted by it. -/
def Command.minor : Command → Bool
  | .send _ frame _ => frame.head? = some typeClose
  | .respondToRequest | .disconnect _ | .discoverServices _ | .discoverCharacteristics _
  | .subscribe _ | .requestMtu _ _ | .writeChannel _ _ | .destroyChannel _ | .emitUpdate => true
  | _ => false

namespace Command

variable {command : Command}

theorem idle_of_minor (minor : command.minor = true) : command.idle = true := by
  cases command with
  | send p frame withResponse =>
    have close : frame.head? = some typeClose := by simpa [Command.minor] using minor
    simp [idle, close, typeClose, typeOpen]
  | _ => first | rfl | cases minor

theorem deaf_of_minor (minor : command.minor = true) : command.listens = false := by
  cases command <;> first | rfl | cases minor

theorem plain_of_minor (minor : command.minor = true) : command.plain := by
  cases command with
  | send p frame withResponse =>
    have close : frame.head? = some typeClose := of_decide_eq_true minor
    exact close
  | _ => trivial

theorem toggles_of_minor (minor : command.minor = true) : command.toggles = false := by
  cases command <;> first | rfl | cases minor

theorem connects_of_minor (minor : command.minor = true) : command.connects = none := by
  cases command <;> first | rfl | cases minor

theorem plain_of_peerless (peerless : command.peerless = true) : command.plain := by
  cases command <;> trivial

theorem connects_of_peerless (peerless : command.peerless = true) : command.connects = none := by
  cases command <;> first | rfl | cases peerless

end Command

/-! Dials. -/

namespace Dial

variable {d d' : Dial}

def inFlight (d : Dial) : Nat := d.devices.values.countP fun device => device.timer.isSome

/-- What is known of dials: the timers, the cooldowns, and what is held for the next window. -/
def outlook (d : Dial) : (PeripheralId → Option (Ref × Nat)) × (PeripheralId → Nat) ×
    OrderedMap PeripheralId Ref × Option Nat × Nat :=
  (fun id => (d.devices.get? id).bind Device.timer,
    fun id => ((d.devices.get? id).map Device.coolUntil).getD 0, d.candidates, d.dialTimer,
    d.lastDial)

/-- No dial begins, and no timer of one is left behind. -/
structure Rests (d d' : Dial) : Prop where
  idle : d.Idle → d'.Idle
  inFlight : d'.inFlight ≤ d.inFlight
  strays : d'.strays.Sublist d.strays

namespace Rests

theorem update (d : Dial) (id : PeripheralId) {f : Device → Device}
    (keep : ∀ device, device.timer = none → (f device).timer = none) :
    d.Rests { d with devices := d.devices.set id (f ((d.devices.get? id).getD {})) } := by
  refine ⟨fun idle => idle.update id keep, OrderedMap.countP_le fun k device entry timed => ?_, .refl _⟩
  rw [OrderedMap.get?_set] at entry
  split at entry
  · rename_i here
    obtain rfl := Option.some.inj entry
    subst here
    cases old : d.devices.get? k with
    | none =>
      rw [old, Option.getD_none, keep {} rfl] at timed
      cases timed
    | some before =>
      refine ⟨before, rfl, ?_⟩
      by_contra untimed
      rw [old, Option.getD_some, keep before (by simpa using untimed)] at timed
      cases timed
  · exact ⟨device, entry, timed⟩

theorem modify (d : Dial) (id : PeripheralId) {f : Device → Device}
    (keep : ∀ device, device.timer = none → (f device).timer = none) :
    d.Rests { d with devices := d.devices.modify id f } := by
  refine ⟨fun idle => idle.modify id keep, OrderedMap.countP_le fun k device entry timed => ?_, .refl _⟩
  rw [OrderedMap.get?_modify] at entry
  split at entry
  · rename_i here
    obtain ⟨before, found, rfl⟩ := Option.map_eq_some_iff.mp entry
    refine ⟨before, here ▸ found, ?_⟩
    by_contra untimed
    rw [keep before (by simpa using untimed)] at timed
    cases timed
  · exact ⟨device, entry, timed⟩

theorem delete (d : Dial) (id : PeripheralId) :
    d.Rests { d with devices := d.devices.delete id } := by
  refine ⟨fun idle => idle.delete id, OrderedMap.countP_le fun k device entry timed => ?_, .refl _⟩
  exact ⟨device, OrderedMap.get?_of_delete entry, timed⟩

end Rests

/-- A record keeps its timer and its cooldown. -/
theorem outlook_update (d : Dial) (id : PeripheralId) {f : Device → Device}
    (keep : ∀ x, (f x).timer = x.timer ∧ (f x).coolUntil = x.coolUntil) :
    outlook { d with devices := d.devices.set id (f ((d.devices.get? id).getD {})) } = d.outlook := by
  have record : ∀ k, ((d.devices.set id (f ((d.devices.get? id).getD {}))).get? k).bind Device.timer =
        (d.devices.get? k).bind Device.timer ∧
      (((d.devices.set id (f ((d.devices.get? id).getD {}))).get? k).map Device.coolUntil).getD 0 =
        ((d.devices.get? k).map Device.coolUntil).getD 0 := by
    intro k
    rw [OrderedMap.get?_set]
    split
    · rename_i here
      subst here
      cases d.devices.get? k with
      | none => simp [(keep {}).1, (keep {}).2]
      | some x => simp [(keep x).1, (keep x).2]
    · exact ⟨rfl, rfl⟩
  simp only [outlook, record]

theorem outlook_modify (d : Dial) (id : PeripheralId) {f : Device → Device}
    (keep : ∀ x, (f x).timer = x.timer ∧ (f x).coolUntil = x.coolUntil) :
    outlook { d with devices := d.devices.modify id f } = d.outlook := by
  have record : ∀ k, ((d.devices.modify id f).get? k).bind Device.timer =
        (d.devices.get? k).bind Device.timer ∧
      (((d.devices.modify id f).get? k).map Device.coolUntil).getD 0 =
        ((d.devices.get? k).map Device.coolUntil).getD 0 := by
    intro k
    rw [OrderedMap.get?_modify]
    split
    · rename_i here
      subst here
      cases d.devices.get? k with
      | none => exact ⟨rfl, rfl⟩
      | some x => simp [(keep x).1, (keep x).2]
    · exact ⟨rfl, rfl⟩
  simp only [outlook, record]

/-- A record without timer and cooldown is not missed. -/
theorem outlook_delete (d : Dial) {id : PeripheralId} {x : Device} (entry : d.devices.get? id = some x)
    (timer : x.timer = none) (cool : x.coolUntil = 0) :
    outlook { d with devices := d.devices.delete id } = d.outlook := by
  have record : ∀ k, ((d.devices.delete id).get? k).bind Device.timer =
        (d.devices.get? k).bind Device.timer ∧
      (((d.devices.delete id).get? k).map Device.coolUntil).getD 0 =
        ((d.devices.get? k).map Device.coolUntil).getD 0 := by
    intro k
    rw [OrderedMap.get?_delete]
    split
    · rename_i here
      subst here
      simp [entry, timer, cool]
    · exact ⟨rfl, rfl⟩
  simp only [outlook, record]

end Dial

/-! Streams. -/

/-- The peripheral and the session of a stream of the central side. -/
def Owner.dialed : Owner → Option (Ref × Ref)
  | .central p sess => some (p, sess)
  | .server _ => none

/-- What stays of a stream that receives nothing. -/
def Stream.content (s : Stream) : Pipe × Owner × List (Pipe × Bytes) := (s.pipe, s.owner, s.received)

/-- Streams stay on their carriers, a new one is on gatt, and nothing is received unless
`receives`. -/
structure Flows (receives : Prop) (streams streams' : Heap Stream) : Prop where
  pipe : ∀ st < streams.next, (streams'.get st).pipe = (streams.get st).pipe
  beyond : ∀ st, streams'.next ≤ st → (streams'.get st).pipe = (streams.get st).pipe
  channel : ∀ st < streams.next, (streams'.get st).channel = (streams.get st).channel
  received : ∀ st < streams.next, (streams'.get st).received = (streams.get st).received ∨
    receives ∧ (streams.get st).received <+: (streams'.get st).received
  new : ∀ st < streams'.next, streams.next ≤ st →
    (streams'.get st).pipe = .gatt ∧ (receives ∨ (streams'.get st).received = [])

namespace Flows

variable {receives : Prop} {streams streams' streams'' : Heap Stream}

theorem refl (streams : Heap Stream) : Flows receives streams streams :=
  ⟨fun _ _ => rfl, fun _ _ => rfl, fun _ _ => rfl, fun _ _ => .inl rfl,
    fun _ lt ge => absurd (lt.trans_le ge) (lt_irrefl _)⟩

theorem trans (grows : streams.next ≤ streams'.next) (grows' : streams'.next ≤ streams''.next)
    (h : Flows receives streams streams') (h' : Flows receives streams' streams'') :
    Flows receives streams streams'' where
  pipe st lt := (h'.pipe st (lt.trans_le grows)).trans (h.pipe st lt)
  beyond st ge := (h'.beyond st ge).trans (h.beyond st (grows'.trans ge))
  channel st lt := (h'.channel st (lt.trans_le grows)).trans (h.channel st lt)
  received st lt := by
    rcases h'.received st (lt.trans_le grows) with same | ⟨yes, more⟩
    · rw [same]
      exact h.received st lt
    · rcases h.received st lt with same | ⟨-, before⟩
      · exact .inr ⟨yes, same ▸ more⟩
      · exact .inr ⟨yes, before.trans more⟩
  new st lt ge := by
    rcases lt_or_ge st streams'.next with old | new
    · obtain ⟨pipe, received⟩ := h.new st old ge
      refine ⟨(h'.pipe st old).trans pipe, received.elim .inl fun empty => ?_⟩
      exact (h'.received st old).elim (fun same => .inr (same.trans empty)) fun more => .inl more.1
    · exact h'.new st lt new

theorem of_modify (streams : Heap Stream) (st : Ref) {f : Stream → Stream}
    (keep : ∀ s, (f s).pipe = s.pipe ∧ (f s).channel = s.channel ∧ (f s).received = s.received) :
    Flows receives streams (streams.modify st f) := by
  have pipe : ∀ k, ((streams.modify st f).get k).pipe = (streams.get k).pipe :=
    fun k => streams.modify_get_view st k f Stream.pipe fun s => (keep s).1
  refine ⟨fun k _ => pipe k, fun k _ => pipe k, fun k _ => ?_, fun k _ => .inl ?_,
    fun _ lt ge => absurd (lt.trans_le ge) (lt_irrefl _)⟩
  · exact streams.modify_get_view st k f Stream.channel fun s => (keep s).2.1
  · exact streams.modify_get_view st k f Stream.received fun s => (keep s).2.2

/-- A chunk is pushed. -/
theorem of_receive (streams : Heap Stream) (st : Ref) (via : Pipe) (chunk : Bytes)
    (yes : receives) :
    Flows receives streams
      (streams.modify st fun s => { s with received := s.received ++ [(via, chunk)] }) := by
  let push : Stream → Stream := fun s => { s with received := s.received ++ [(via, chunk)] }
  have pipe : ∀ k, ((streams.modify st push).get k).pipe = (streams.get k).pipe :=
    fun k => streams.modify_get_view st k push Stream.pipe fun _ => rfl
  refine ⟨fun k _ => pipe k, fun k _ => pipe k, fun k _ => ?_, fun k _ => ?_,
    fun _ lt ge => absurd (lt.trans_le ge) (lt_irrefl _)⟩
  · exact streams.modify_get_view st k push Stream.channel fun _ => rfl
  · refine .inr ⟨yes, ?_⟩
    rw [streams.modify_get]
    split
    · rename_i here
      subst here
      exact List.prefix_append _ _
    · exact List.prefix_refl _

theorem of_alloc (streams : Heap Stream) {s : Stream} (pipe : s.pipe = .gatt)
    (fresh : s.received = []) : Flows receives streams (streams.alloc s) := by
  have old : ∀ st < streams.next, (streams.alloc s).get st = streams.get st :=
    fun st lt => streams.alloc_get_of_lt s lt
  refine ⟨fun st lt => ?_, fun st ge => ?_, fun st lt => ?_, fun st lt => .inl ?_, fun st lt ge => ?_⟩
  · rw [old st lt]
  · have other : st ≠ streams.next := (Nat.lt_of_succ_le ge).ne'
    rw [streams.alloc_get_of_ne s other]
  · rw [old st lt]
  · rw [old st lt]
  · obtain rfl : st = streams.next := Nat.le_antisymm (Nat.lt_succ_iff.mp lt) ge
    rw [streams.alloc_get_next]
    exact ⟨pipe, .inr fresh⟩

end Flows

namespace Core

/-- The streams of the central side. -/
def boundStreams (streams : Heap Stream) : List (Ref × Ref) :=
  (List.range streams.next).filterMap fun st => (streams.get st).owner.dialed

theorem boundStreams_alike {streams streams' : Heap Stream}
    (alike : streams.Alike Stream.owner streams') : boundStreams streams' = boundStreams streams := by
  simp only [boundStreams, alike.next, alike.view]

theorem boundStreams_alloc (streams : Heap Stream) (s : Stream) :
    boundStreams (streams.alloc s) = boundStreams streams ++ s.owner.dialed.toList := by
  have old : (List.range streams.next).filterMap (fun st => ((streams.alloc s).get st).owner.dialed) =
      boundStreams streams := by
    apply List.filterMap_congr
    intro st mem
    rw [streams.alloc_get_of_lt s (List.mem_range.mp mem)]
  rw [boundStreams, Heap.alloc_next, List.range_succ, List.filterMap_append, old]
  congr 1
  cases dialed : s.owner.dialed <;> simp [dialed]

end Core

/-- No stream is made nor receives anything unless `begins`, and none of the central side is
made unless `settles`. -/
structure Makes (begins settles : Prop) (streams streams' : Heap Stream) : Prop where
  content : begins ∨ streams.Alike Stream.content streams'
  bound : settles ∨ Core.boundStreams streams' = Core.boundStreams streams

namespace Makes

variable {begins settles : Prop}

theorem refl (streams : Heap Stream) : Makes begins settles streams streams :=
  ⟨.inr (.refl _ _), .inr rfl⟩

theorem of_modify (streams : Heap Stream) (st : Ref) {f : Stream → Stream}
    (keep : ∀ s, (f s).owner = s.owner) (content : begins ∨ ∀ s, (f s).content = s.content) :
    Makes begins settles streams (streams.modify st f) :=
  ⟨content.imp_right fun same => .modify streams st same, .inr (Core.boundStreams_alike (.modify streams st keep))⟩

theorem of_alloc (streams : Heap Stream) {s : Stream} (yes : begins)
    (side : settles ∨ s.owner.dialed = none) : Makes begins settles streams (streams.alloc s) := by
  refine ⟨.inl yes, side.imp_right fun serves => ?_⟩
  rw [Core.boundStreams_alloc, serves]
  exact List.append_nil _

end Makes

/-! Links. -/

/-- What stays of a link for good. -/
def Conn.identity (conn : Conn) : Ref × Bool × Bytes :=
  (conn.stream, conn.isInitiator, conn.announced)

namespace Links

/-- What an 'open' or a 'close' event sets of a stream. -/
def mark (l : Links) (r : Ref) : Bytes × Option Hex × Bool × Bool :=
  let conn := l.conns.get r
  (conn.remotePublicKey, conn.peerKey, conn.opened, conn.closed)

/-- No link opens, closes, is delivered or is entered in `peers`. -/
structure Holds (l l' : Links) : Prop where
  peers : ∀ key r, l'.peers.get? key = some r → l.peers.get? key = some r
  delivered : l'.delivered = l.delivered
  retired : l'.retired = l.retired
  grows : l.conns.next ≤ l'.conns.next
  marks : ∀ r < l.conns.next, l'.mark r = l.mark r
  new : ∀ r < l'.conns.next, l.conns.next ≤ r → l'.mark r = ([], none, false, false)

namespace Holds

variable {l l' l'' : Links}

theorem of_same (l : Links) {peers : OrderedMap Hex Ref}
    (fewer : ∀ key r, peers.get? key = some r → l.peers.get? key = some r) :
    l.Holds { l with peers } :=
  ⟨fewer, rfl, rfl, le_refl _, fun _ _ => rfl, fun _ lt ge => absurd (lt.trans_le ge) (lt_irrefl _)⟩

theorem refl (l : Links) : l.Holds l := .of_same l fun _ _ => id

theorem trans (h : l.Holds l') (h' : l'.Holds l'') : l.Holds l'' where
  peers key r entry := h.peers key r (h'.peers key r entry)
  delivered := h'.delivered.trans h.delivered
  retired := h'.retired.trans h.retired
  grows := h.grows.trans h'.grows
  marks r lt := (h'.marks r (lt.trans_le h.grows)).trans (h.marks r lt)
  new r lt ge := by
    rcases lt_or_ge r l'.conns.next with old | new
    · exact (h'.marks r old).trans (h.new r old ge)
    · exact h'.new r lt new

theorem fades (h : l.Holds l') : l.Fades l' := by
  refine ⟨h.delivered, fun key absent => Option.eq_none_iff_forall_ne_some.mpr fun r entry => ?_⟩
  rw [h.peers key r entry] at absent
  cases absent

theorem of_alloc (l : Links) (stream : Ref) (isInitiator : Bool)
    (peripheralId : Option PeripheralId) (announced : Bytes) :
    l.Holds { l with conns := l.conns.alloc { stream, isInitiator, peripheralId, announced } } := by
  refine ⟨fun _ _ => id, rfl, rfl, Nat.le_succ _, fun r lt => ?_, fun r lt ge => ?_⟩
  · simp only [mark, l.conns.alloc_get_of_lt _ lt]
  · obtain rfl : r = l.conns.next := Nat.le_antisymm (Nat.lt_succ_iff.mp lt) ge
    simp only [mark, l.conns.alloc_get_next]

theorem of_destroy (l : Links) (r : Ref) : l.Holds (l.destroy r) := by
  refine ⟨fun _ _ => id, rfl, rfl, le_refl _, fun k _ => ?_,
    fun _ lt ge => absurd (lt.trans_le ge) (lt_irrefl _)⟩
  simp only [mark, Links.destroy, Heap.modify_get]
  split
  · rename_i here
    rw [here]
  · rfl

theorem of_destroys (l : Links) (rs : List Ref) : l.Holds (rs.foldl Links.destroy l) :=
  Runs.foldl_related refl trans of_destroy l rs

end Holds

end Links

/-! Sessions and openings. -/

/-- What stays of a server session that no stream is bound to. -/
def ServerSession.identity (s : ServerSession) : Hex × Bytes × Option Ref :=
  (s.id, s.announced, s.stream)

/-- What stays of an attempt for good. -/
def OpenAttempt.identity (a : OpenAttempt) : Ref × Ref × Bytes :=
  (a.peripheral, a.session, a.announced)

/-- An attempt that listens has not resolved, and one that was resumed has. -/
def OpenAttempt.Sound (a : OpenAttempt) : Prop :=
  (a.listening = true → a.result = none) ∧ (a.resumed = true → a.result.isSome = true)

/-- An attempt that waits for nothing and has no result. -/
def Core.Idle (a : OpenAttempt) : Prop := a.listening = false ∧ a.timer = none ∧ a.result = none

/-- Attempts keep what they are for and what they got. None is made unless `begins`, and none
goes on behind its await unless `resumes`. -/
structure Tries (begins resumes : Prop) (attempts attempts' : Heap OpenAttempt) : Prop where
  grows : attempts.next ≤ attempts'.next
  identity : ∀ a < attempts.next, (attempts'.get a).identity = (attempts.get a).identity
  result : ∀ a < attempts.next, ∀ r, (attempts.get a).result = some r →
    (attempts'.get a).result = some r
  resumed : resumes ∨ ∀ a < attempts'.next, (attempts'.get a).resumed = true →
    a < attempts.next ∧ (attempts.get a).resumed = true
  sound : resumes ∨ ((∀ a < attempts.next, (attempts.get a).Sound) →
    ∀ a < attempts'.next, (attempts'.get a).Sound)
  fixed : begins ∨ attempts.Alike OpenAttempt.identity attempts' ∧
    ∀ a, Core.Idle (attempts.get a) → Core.Idle (attempts'.get a)

namespace Tries

variable {begins resumes : Prop}

theorem mono {attempts attempts' : Heap OpenAttempt} {begins' resumes' : Prop}
    (h : Tries begins resumes attempts attempts') (begin : begins → begins')
    (resume : resumes → resumes') : Tries begins' resumes' attempts attempts' :=
  { h with
    resumed := h.resumed.imp_left resume
    sound := h.sound.imp_left resume
    fixed := h.fixed.imp_left begin }

theorem refl (attempts : Heap OpenAttempt) : Tries begins resumes attempts attempts where
  grows := le_refl _
  identity _ _ := rfl
  result _ _ _ := id
  resumed := .inr fun _ lt resumed => ⟨lt, resumed⟩
  sound := .inr id
  fixed := .inr ⟨.refl _ _, fun _ => id⟩

/-- An update of one attempt that is under way. -/
theorem of_modify (attempts : Heap OpenAttempt) {a : Ref} {f : OpenAttempt → OpenAttempt}
    (busy : begins ∨ ¬ Core.Idle (attempts.get a)) (keep : ∀ x, (f x).identity = x.identity)
    (result : ∀ r, (attempts.get a).result = some r → (f (attempts.get a)).result = some r)
    (rests : resumes ∨ (f (attempts.get a)).resumed = (attempts.get a).resumed)
    (sound : (attempts.get a).Sound → (f (attempts.get a)).Sound) :
    Tries begins resumes attempts (attempts.modify a f) where
  grows := le_refl _
  identity k _ := attempts.modify_get_view a k f OpenAttempt.identity keep
  result k _ r before := by
    rw [Heap.modify_get]
    split
    · rename_i here
      exact result r (here ▸ before)
    · exact before
  resumed := by
    refine rests.imp_right fun same k lt after => ⟨lt, ?_⟩
    rw [Heap.modify_get] at after
    split at after
    · rename_i here
      rw [here, ← same, after]
    · exact after
  sound := by
    refine .inr fun sound' k lt => ?_
    rw [Heap.modify_get]
    split
    · rename_i here
      exact sound (sound' a (here ▸ lt))
    · exact sound' k lt
  fixed := by
    refine busy.imp_right fun busy => ⟨.modify attempts a keep, fun k idle => ?_⟩
    have other : k ≠ a := fun same => busy (same ▸ idle)
    rw [Heap.modify_get_of_ne _ _ other]
    exact idle

theorem of_alloc (attempts : Heap OpenAttempt) {x : OpenAttempt} (yes : begins)
    (new : x.resumed = false) (sound : x.Sound) :
    Tries begins resumes attempts (attempts.alloc x) where
  grows := Nat.le_succ _
  identity a lt := by rw [attempts.alloc_get_of_lt x lt]
  result a lt r result := by rwa [attempts.alloc_get_of_lt x lt]
  resumed := by
    refine .inr fun a lt resumed => ?_
    rcases Nat.lt_succ_iff_lt_or_eq.mp lt with old | rfl
    · rw [attempts.alloc_get_of_lt x old] at resumed
      exact ⟨old, resumed⟩
    · rw [attempts.alloc_get_next, new] at resumed
      cases resumed
  sound := .inr fun sound' => Heap.alloc_forall (P := fun _ => OpenAttempt.Sound) sound' sound
  fixed := .inl yes

end Tries

/-- Peripherals keep their ids. No session is made or put on one unless `starts`, and no stream
is put on one unless `begins`. -/
structure Central.Keeps (starts begins resumes : Prop) (k k' : Central) : Prop where
  ids : ∀ p, (k'.peripherals p).id = (k.peripherals p).id
  session : starts ∨ ∀ p s, (k'.peripherals p).session = some s → (k.peripherals p).session = some s
  stream : begins ∨ ∀ p st, (k'.peripherals p).stream = some st → (k.peripherals p).stream = some st
  sessions : starts ∨ k.sessions.Alike CentralSession.id k'.sessions
  attempts : Tries begins resumes k.attempts k'.attempts

namespace Central.Keeps

variable {starts begins resumes : Prop}

theorem refl (k : Central) : k.Keeps starts begins resumes k :=
  ⟨fun _ => rfl, .inr fun _ _ => id, .inr fun _ _ => id, .inr (.refl _ _), .refl _⟩

theorem mono {k k' : Central} {starts' begins' resumes' : Prop} (h : k.Keeps starts begins resumes k')
    (start : starts → starts') (begin : begins → begins') (resume : resumes → resumes') :
    k.Keeps starts' begins' resumes' k' where
  ids := h.ids
  session := h.session.imp_left start
  stream := h.stream.imp_left begin
  sessions := h.sessions.imp_left start
  attempts := h.attempts.mono begin resume

theorem of_attempts (k : Central) {attempts : Heap OpenAttempt}
    (tries : Tries begins resumes k.attempts attempts) :
    k.Keeps starts begins resumes { k with attempts } :=
  ⟨fun _ => rfl, .inr fun _ _ => id, .inr fun _ _ => id, .inr (.refl _ _), tries⟩

theorem of_sessions (k : Central) {sessions : Heap CentralSession}
    (alike : starts ∨ k.sessions.Alike CentralSession.id sessions) :
    k.Keeps starts begins resumes { k with sessions } :=
  ⟨fun _ => rfl, .inr fun _ _ => id, .inr fun _ _ => id, alike, .refl _⟩

/-- Of a peripheral that is updated, a slot is kept or emptied. -/
theorem of_update (k : Central) (p : Ref) (f : Peripheral → Peripheral)
    (id : ∀ q, (f q).id = q.id)
    (session : starts ∨ ∀ q, (f q).session = q.session ∨ (f q).session = none)
    (stream : begins ∨ ∀ q, (f q).stream = q.stream ∨ (f q).stream = none) :
    k.Keeps starts begins resumes
      { k with peripherals := Function.update k.peripherals p (f (k.peripherals p)) } := by
  have slot : ∀ {view : Peripheral → Option Ref}, (∀ q, view (f q) = view q ∨ view (f q) = none) →
      ∀ q s, view (Function.update k.peripherals p (f (k.peripherals p)) q) = some s →
        view (k.peripherals q) = some s := by
    intro view keep q s current
    rw [Function.update_apply] at current
    split at current
    · rename_i here
      rcases keep (k.peripherals p) with same | none
      · rw [here, ← same, current]
      · rw [none] at current
        cases current
    · exact current
  refine ⟨fun q => ?_, session.imp_right slot, stream.imp_right slot, .inr (.refl _ _), .refl _⟩
  dsimp only
  rw [Function.update_apply]
  split
  · rename_i here
    rw [here, id]
  · rfl

end Central.Keeps

end BleSwarm
