import BleSwarm.Air.Justified

/-!
# What two devices agree on

No frame names its sender, and a notification reaches whoever subscribed. Session ids are
what tells one session from another, so where these differ the two ends of every link belong
together: the keys they announced, their pipe, and what comes through.
-/

namespace BleSwarm

namespace Core

variable {frame : Bytes} {type type' : Byte} {id id' : Hex} {said said' : KeyPayload}

theorem Reads.head? (reads : Reads frame type id said) : frame.head? = some type := by
  obtain ⟨payload, decoded, -⟩ := reads
  exact decoded_head? decoded

/-- A frame reads in one way. -/
theorem Reads.unique (reads : Reads frame type id said) (reads' : Reads frame type' id' said') :
    id = id' ∧ said = said' := by
  obtain ⟨payload, decoded, rfl⟩ := reads
  obtain ⟨payload', decoded', rfl⟩ := reads'
  obtain ⟨-, rfl, rfl⟩ := Frame.mk.inj (Option.some.inj (decoded.symm.trans decoded'))
  exact ⟨rfl, rfl⟩

end Core

open BleSwarm.Core BleSwarm.Transport

namespace Airspace

variable {ι : Type*}

/-- Keys and session ids have their lengths. -/
structure Lawful (w : Airspace ι) : Prop where
  key : ∀ i, (w.cfg i).publicKey.length = keyLen
  id : ∀ i n, ∃ sid, sid.length = sidLen ∧ (w.cfg i).randomId n = toHex sid

/-- No two sessions that were started have one id. -/
def Distinct (w : Airspace ι) (s : Sky ι) : Prop :=
  ∀ i j, ∀ m < (s.nodes i).core.central.sessions.next, ∀ n < (s.nodes j).core.central.sessions.next,
    (w.cfg i).randomId m = (w.cfg j).randomId n → i = j ∧ m = n

/-- The `n`-th session that `a` started is the `k`-th that `b` accepted. -/
structure Paired (w : Airspace ι) (s : Sky ι) (a : ι) (n : Ref) (b : ι) (k : Ref) : Prop where
  started : n < (s.nodes a).core.central.sessions.next
  asked : .write a b (openFrame (w.cfg a) ((w.cfg a).randomId n)) ∈ s.air
  accepted : k < (s.nodes b).core.server.sessions.next
  id : ((s.nodes b).core.session k).id = (w.cfg a).randomId n
  announced : ((s.nodes b).core.session k).announced = (w.cfg a).publicKey
  accepts : (w.cfg b).accept (w.cfg a).publicKey = true
  pipe : (w.cfg a).pipe = (w.cfg b).pipe

variable {w : Airspace ι} {s : Sky ι} {a b : ι} {frame : Bytes} {id : Hex} {said : KeyPayload}

/-- Who wrote an OPEN started the session. -/
theorem open_origin (lawful : w.Lawful) (vouched : Network.Vouched w.Vouches s)
    (written : .write a b frame ∈ s.air) (reads : Reads frame typeOpen id said) :
    ∃ n < (s.nodes a).core.central.sessions.next, frame = openFrame (w.cfg a) ((w.cfg a).randomId n) ∧
      id = (w.cfg a).randomId n ∧ said = ⟨(w.cfg a).publicKey, (w.cfg a).capabilities, none⟩ := by
  obtain ⟨p, withResponse, -, stated⟩ := vouched _ written
  have head := reads.head?
  rcases stated with close | ⟨n, started, rfl⟩ | ⟨st, -, n, payload, -, -, rfl⟩
  · rw [head] at close
    cases close
  · obtain ⟨sid, whole, drawn⟩ := lawful.id a n
    have opens := openFrame_reads whole (lawful.key a)
    rw [← drawn] at opens
    obtain ⟨rfl, rfl⟩ := reads.unique opens
    exact ⟨n, started, rfl, rfl, rfl⟩
  · rw [encodeFrame_head?] at head
    cases head

/-- Every session that a server accepted was started by a device. -/
theorem accepted_paired (lawful : w.Lawful) (justified : w.Justified s)
    (vouched : Network.Vouched w.Vouches s) {k : Ref}
    (accepted : k < (s.nodes b).core.server.sessions.next) :
    ∃ a n, w.Paired s a n b k := by
  obtain ⟨flags, ⟨frame, psm, ⟨a, written⟩, reads⟩, accepts, suits⟩ :=
    (justified.grounded b).asked k accepted
  obtain ⟨n, started, rfl, id, said⟩ := open_origin lawful vouched written reads
  obtain ⟨announced, rfl, -⟩ := KeyPayload.mk.inj said
  refine ⟨a, n, started, written, accepted, id, announced, announced ▸ accepts, ?_⟩
  rw [Config.pipeFor_capabilities] at suits
  split at suits
  · rename_i same
    exact same.symm
  · cases suits

/-- Who notified a HELLO accepted the session. -/
theorem hello_origin (lawful : w.Lawful) (justified : w.Justified s)
    (vouched : Network.Vouched w.Vouches s) (notified : .notification b frame ∈ s.air)
    (reads : Reads frame typeHello id said) :
    ∃ k < (s.nodes b).core.server.sessions.next, ((s.nodes b).core.session k).id = id ∧
      said.key = (w.cfg b).publicKey ∧ said.flags = (w.cfg b).capabilities ∧
      ∀ port, said.psm = some port → port ∈ (s.nodes b).published := by
  have noted := vouched _ notified
  have head := reads.head?
  rcases noted with close | ⟨k, accepted, psm, published, rfl⟩ | ⟨st, -, k, payload, -, -, -, rfl⟩
  · rw [head] at close
    cases close
  · obtain ⟨a, n, paired⟩ := accepted_paired lawful justified vouched accepted
    obtain ⟨sid, whole, drawn⟩ := lawful.id a n
    have small : ∀ port ∈ psm, port < 65536 :=
      fun port is => justified.small b port (published port is)
    have hello := helloFrame_reads whole (lawful.key b) small
    rw [← drawn, ← paired.id] at hello
    obtain ⟨rfl, rfl⟩ := reads.unique hello
    refine ⟨k, accepted, rfl, rfl, rfl, fun port is => published port ?_⟩
    simp only at is
    split at is
    · exact is
    · cases is
  · rw [encodeFrame_head?] at head
    cases head

/-- A session that its device took a HELLO for is paired with one of the greeter. -/
theorem told_paired (lawful : w.Lawful) (distinct : w.Distinct s) (justified : w.Justified s)
    (vouched : Network.Vouched w.Vouches s) {p n : Ref}
    (started : n < (s.nodes a).core.central.sessions.next)
    (told : (w.evidence s a).HelloNotified p ((w.cfg a).randomId n) said) :
    said.key = (w.cfg (w.peer a p)).publicKey ∧
      (∀ port, said.psm = some port → port ∈ (s.nodes (w.peer a p)).published) ∧
      ∃ k, w.Paired s a n (w.peer a p) k := by
  obtain ⟨frame, notified, reads⟩ := told
  obtain ⟨k, accepted, id, key, -, psm⟩ := hello_origin lawful justified vouched notified reads
  obtain ⟨a', n', paired⟩ := accepted_paired lawful justified vouched accepted
  obtain ⟨rfl, rfl⟩ := distinct a' a n' paired.started n started (paired.id.symm.trans id)
  exact ⟨key, psm, k, paired⟩

/-- Who wrote DATA for a session has the stream that it was handed to. -/
theorem data_origin (lawful : w.Lawful) (justified : w.Justified s)
    (vouched : Network.Vouched w.Vouches s) {chunk : Bytes} (written : .write a b frame ∈ s.air)
    (decoded : decodeFrame (some frame) = some ⟨typeData, id, chunk⟩) :
    ∃ p n st, w.peer a p = b ∧ n < (s.nodes a).core.central.sessions.next ∧
      st < (s.nodes a).core.streams.next ∧ ((s.nodes a).core.streams.get st).owner = .central p n ∧
      id = (w.cfg a).randomId n ∧ (st, chunk) ∈ (s.nodes a).handed := by
  obtain ⟨p, withResponse, there, stated⟩ := vouched _ written
  have head := decoded_head? decoded
  rcases stated with close | ⟨n, -, rfl⟩ | ⟨st, bound, n, payload, owner, handed, rfl⟩
  · rw [head] at close
    cases close
  · rw [openFrame, encodeFrame_head?] at head
    cases head
  · obtain ⟨sid, whole, drawn⟩ := lawful.id a n
    rw [drawn, decodeFrame_encodeFrame typeData whole payload] at decoded
    obtain ⟨-, rfl, rfl⟩ := Frame.mk.inj (Option.some.inj decoded)
    have owned := (justified.grounded a).owners st bound
    rw [owner] at owned
    exact ⟨p, n, st, there, owned.1, bound, owner, drawn.symm, handed⟩

/-- Who notified DATA for a session has the stream that it was handed to. -/
theorem notified_origin (lawful : w.Lawful) (justified : w.Justified s)
    (vouched : Network.Vouched w.Vouches s) {chunk : Bytes} (notified : .notification b frame ∈ s.air)
    (decoded : decodeFrame (some frame) = some ⟨typeData, id, chunk⟩) :
    ∃ k st, k < (s.nodes b).core.server.sessions.next ∧ st < (s.nodes b).core.streams.next ∧
      ((s.nodes b).core.streams.get st).owner = .server k ∧
      ((s.nodes b).core.session k).id = id ∧ (st, chunk) ∈ (s.nodes b).handed := by
  have noted := vouched _ notified
  have head := decoded_head? decoded
  rcases noted with close | ⟨k, -, psm, -, rfl⟩ |
    ⟨st, bound, k, payload, owner, accepted, handed, rfl⟩
  · rw [head] at close
    cases close
  · rw [helloFrame, encodeFrame_head?] at head
    cases head
  · obtain ⟨a, n, paired⟩ := accepted_paired lawful justified vouched accepted
    obtain ⟨sid, whole, drawn⟩ := lawful.id a n
    rw [paired.id, drawn, decodeFrame_encodeFrame typeData whole payload] at decoded
    obtain ⟨-, rfl, rfl⟩ := Frame.mk.inj (Option.some.inj decoded)
    exact ⟨k, st, accepted, bound, owner, paired.id.trans drawn, handed⟩

/-- The streams are at the two ends of a session: the one of its central, the other of the
server behind the peripheral. -/
def Bridge (w : Airspace ι) (s : Sky ι) (a : ι) (st : Ref) (b : ι) (st' : Ref) : Prop :=
  ∃ p n k, ((s.nodes a).core.streams.get st).owner = .central p n ∧ w.peer a p = b ∧
    w.Paired s a n b k ∧ ((s.nodes b).core.streams.get st').owner = .server k

/-- The streams are at opposite ends of a session. -/
def Opposite (w : Airspace ι) (s : Sky ι) (i : ι) (st : Ref) (j : ι) (st' : Ref) : Prop :=
  w.Bridge s i st j st' ∨ w.Bridge s j st' i st

variable [DecidableEq ι]

/-- Whoever dials a link has it with the device that it dialed: that device announced its own
key, is on the same pipe, and accepted the very session under the key of the dialer. -/
theorem initiator_agrees (lawful : w.Lawful) (reachable : w.Reachable s)
    (distinct : w.Distinct s) (a : ι) (r : Ref) (link : r < (s.nodes a).core.links.conns.next)
    (dials : ((s.nodes a).core.links.conns.get r).isInitiator = true) :
    ∃ p n k, ((s.nodes a).core.streams.get ((s.nodes a).core.links.conns.get r).stream).owner =
        .central p n ∧
      ((s.nodes a).core.links.conns.get r).announced = (w.cfg (w.peer a p)).publicKey ∧
      (w.cfg a).accept (w.cfg (w.peer a p)).publicKey = true ∧ w.Paired s a n (w.peer a p) k := by
  obtain ⟨justified, vouched⟩ := reachable.justified
  obtain ⟨riding, joined⟩ := (justified.grounded a).links r link
  have owned := (justified.grounded a).owners _ riding
  cases owner : ((s.nodes a).core.streams.get ((s.nodes a).core.links.conns.get r).stream).owner with
  | server k =>
    rw [owner] at joined
    exact absurd (joined.1.symm.trans dials) nofun
  | central p n =>
    rw [owner] at joined owned
    obtain ⟨-, flags, psm, told, accepts, -⟩ := joined
    obtain ⟨announced, -, k, paired⟩ := told_paired lawful distinct justified vouched owned.1 told
    exact ⟨p, n, k, rfl, announced, announced ▸ accepts, paired⟩

/-- Two devices on one pipe, each behind every peripheral of the other. -/
def twoDevices (pipe : Pipe) : Airspace Bool where
  cfg d := Config.plain (List.replicate 32 (if d then 2 else 1)) pipe .ios
  peer d _ := !d

/-- One device hears what came. -/
def hears (now : Nat) (event : Event) : Deed := .act (.input { now, event })

/-- The one dials the other up to its HELLO, and more. -/
def acquaint (pipe : Pipe) (psm : Option Nat) (more : List (Bool × Deed)) : List (Bool × Deed) :=
  let w := twoDevices pipe
  let id := (w.cfg false).randomId 0
  [(false, .act (.open .poweredOn .poweredOn 0)), (true, .act (.open .poweredOn .poweredOn 0))] ++
    psm.toList.map (fun psm => (true, hears 1 (.channelPublish psm))) ++
    [(false, hears 1 (.discover 0 none)), (false, hears 2 (.connect 0)),
      (false, hears 3 (.servicesDiscover 0 true)), (false, hears 4 (.characteristicsDiscover 0 true)),
      (false, hears 5 (.notifyState 0 true)),
      (true, hears 6 (.writeRequests [(openFrame (w.cfg false) id, true)])),
      (false, hears 7 (.notify 0 (helloFrame (w.cfg true) id psm)))] ++ more

def acquainted (pipe : Pipe) (psm : Option Nat) (more : List (Bool × Deed)) : Sky Bool :=
  Runs.run (twoDevices pipe).network.act
    ((twoDevices pipe).silent (fun _ => none) (fun _ => false) fun _ p => p) (acquaint pipe psm more)

theorem twoDevices_lawful (pipe : Pipe) : (twoDevices pipe).Lawful where
  key _ := List.length_replicate
  id _ n := ⟨List.replicate sidLen (Fin.ofNat 256 n), List.length_replicate, rfl⟩

theorem distinct_of_one {w : Airspace Bool} {s : Sky Bool}
    (one : (s.nodes false).core.central.sessions.next = 1)
    (none : (s.nodes true).core.central.sessions.next = 0) : w.Distinct s := by
  intro i j m started n started' _
  cases i with
  | true => omega
  | false =>
    cases j with
    | true => omega
    | false => exact ⟨rfl, by omega⟩

theorem initiator_agrees_of_two :
    let w := twoDevices .gatt
    let s := acquainted .gatt none []
    ∃ p n k,
      ((s.nodes false).core.streams.get ((s.nodes false).core.links.conns.get 0).stream).owner =
        .central p n ∧
      ((s.nodes false).core.links.conns.get 0).announced = (w.cfg (w.peer false p)).publicKey ∧
      (w.cfg false).accept (w.cfg (w.peer false p)).publicKey = true ∧
      w.Paired s false n (w.peer false p) k := by
  intro w s
  have reachable : w.Reachable s := ⟨_, _, _, acquaint .gatt none [], by decide +kernel, rfl⟩
  exact initiator_agrees (twoDevices_lawful .gatt) reachable
    (distinct_of_one (by decide +kernel) (by decide +kernel))
    false 0 (by decide +kernel) (by decide +kernel)

/-- Whoever answers a link has it with the one device that opened its session, and announced
its own key. -/
theorem responder_agrees (lawful : w.Lawful) (reachable : w.Reachable s)
    (distinct : w.Distinct s) (b : ι) (r : Ref) (link : r < (s.nodes b).core.links.conns.next)
    (answers : ((s.nodes b).core.links.conns.get r).isInitiator = false) :
    ∃ k a n, ((s.nodes b).core.streams.get ((s.nodes b).core.links.conns.get r).stream).owner =
        .server k ∧
      ((s.nodes b).core.links.conns.get r).announced = (w.cfg a).publicKey ∧ w.Paired s a n b k ∧
      ∀ a' n', w.Paired s a' n' b k → a' = a ∧ n' = n := by
  obtain ⟨justified, vouched⟩ := reachable.justified
  obtain ⟨riding, joined⟩ := (justified.grounded b).links r link
  have owned := (justified.grounded b).owners _ riding
  cases owner : ((s.nodes b).core.streams.get ((s.nodes b).core.links.conns.get r).stream).owner with
  | central p n =>
    rw [owner] at joined
    exact absurd (joined.1.symm.trans answers) nofun
  | server k =>
    rw [owner] at joined owned
    obtain ⟨a, n, paired⟩ := accepted_paired lawful justified vouched owned.1
    refine ⟨k, a, n, rfl, joined.2.trans paired.announced, paired, fun a' n' other => ?_⟩
    exact distinct a' a n' other.started n paired.started (other.id.symm.trans paired.id)

theorem responder_agrees_of_two :
    let w := twoDevices .gatt
    let s := acquainted .gatt none []
    ∃ k a n, ((s.nodes true).core.streams.get ((s.nodes true).core.links.conns.get 0).stream).owner =
        .server k ∧
      ((s.nodes true).core.links.conns.get 0).announced = (w.cfg a).publicKey ∧
        w.Paired s a n true k ∧
      ∀ a' n', w.Paired s a' n' true k → a' = a ∧ n' = n := by
  intro w s
  have reachable : w.Reachable s := ⟨_, _, _, acquaint .gatt none [], by decide +kernel, rfl⟩
  exact responder_agrees (twoDevices_lawful .gatt) reachable
    (distinct_of_one (by decide +kernel) (by decide +kernel))
    true 0 (by decide +kernel) (by decide +kernel)

/-- Whatever comes through a gatt stream was handed to a stream at the opposite end of the same
session, unless the stream was still bound to its peripheral object when a further session was
started on that. -/
theorem chunk_origin (lawful : w.Lawful) (reachable : w.Reachable s)
    (distinct : w.Distinct s) (i : ι) (st : Ref) (made : st < (s.nodes i).core.streams.next)
    (chunk : Bytes)
    (received : (.gatt, chunk) ∈ ((s.nodes i).core.streams.get st).received) :
    (∃ p n, ((s.nodes i).core.streams.get st).owner = .central p n ∧ st ∈ (s.nodes i).reused) ∨
    ∃ j st', w.Opposite s i st j st' ∧ (st', chunk) ∈ (s.nodes j).handed := by
  obtain ⟨justified, vouched⟩ := reachable.justified
  have owned := (justified.grounded i).owners st made
  have fed := (justified.grounded i).received st made chunk received
  cases owner : ((s.nodes i).core.streams.get st).owner with
  | server k =>
    rw [owner] at owned fed
    obtain ⟨frame, ⟨a, written⟩, decoded⟩ := fed
    obtain ⟨p, n, st', there, started, -, owns, id, handed⟩ :=
      data_origin lawful justified vouched written decoded
    obtain ⟨a', n', paired⟩ := accepted_paired lawful justified vouched owned.1
    obtain ⟨rfl, rfl⟩ := distinct a' a n' paired.started n started (paired.id.symm.trans id)
    exact .inr ⟨a', st', .inr ⟨p, n', k, owns, there, paired, owner⟩, handed⟩
  | central p n =>
    rw [owner] at owned fed
    rcases fed with reused | ⟨frame, notified, decoded⟩
    · exact .inl ⟨p, n, rfl, reused⟩
    · obtain ⟨k, st', accepted, -, owns, id, handed⟩ :=
        notified_origin lawful justified vouched notified decoded
      obtain ⟨a', n', paired⟩ := accepted_paired lawful justified vouched accepted
      obtain ⟨rfl, rfl⟩ := distinct a' i n' paired.started n owned.1 (paired.id.symm.trans id)
      exact .inr ⟨w.peer a' p, st', .inl ⟨p, n', k, owner, rfl, paired, owns⟩, handed⟩

/-- The one hands a byte to its stream, and it comes to the other. -/
theorem chunk_origin_of_two :
    let w := twoDevices .gatt
    let data := encodeFrame typeData ((w.cfg false).randomId 0) [7]
    let more := [(false, .transmit 0 [7] true 8 {}), (true, hears 9 (.writeRequests [(data, true)]))]
    let s := acquainted .gatt none more
    (∃ p n, ((s.nodes true).core.streams.get 0).owner = .central p n ∧ 0 ∈ (s.nodes true).reused) ∨
    ∃ j st', w.Opposite s true 0 j st' ∧ (st', [7]) ∈ (s.nodes j).handed := by
  intro w data more s
  have reachable : w.Reachable s := ⟨_, _, _, acquaint .gatt none more, by decide +kernel, rfl⟩
  have received : ((s.nodes true).core.streams.get 0).received = [(.gatt, [7])] := by decide +kernel
  exact chunk_origin (twoDevices_lawful .gatt) reachable
    (distinct_of_one (by decide +kernel) (by decide +kernel)) true 0 (by decide +kernel) [7]
    (received ▸ List.mem_singleton_self _)

/-- A channel is only ever asked for by an attempt of a session whose HELLO named the psm. The server
behind the peripheral accepted that session, and its native server reported the psm. -/
theorem psm_origin (lawful : w.Lawful) (reachable : w.Reachable s)
    (distinct : w.Distinct s) (i : ι) (p : Ref) (psm : Nat)
    (asks : .openL2CAPChannel p psm ∈ (s.nodes i).core.out) :
    psm ∈ (s.nodes (w.peer i p)).published ∧
    ∃ a < (s.nodes i).core.central.attempts.next, ∃ n k key flags,
      ((s.nodes i).core.central.attempts.get a).identity = (p, n, key) ∧
      (w.evidence s i).HelloNotified p ((w.cfg i).randomId n) ⟨key, flags, some psm⟩ ∧
      w.Paired s i n (w.peer i p) k := by
  obtain ⟨justified, vouched⟩ := reachable.justified
  obtain ⟨a, made, n, started, key, flags, same, told, -, -⟩ := (justified.grounded i).commands _ asks
  obtain ⟨-, published, k, paired⟩ := told_paired lawful distinct justified vouched started told
  exact ⟨published psm rfl, a, made, n, k, key, flags, same, told, paired⟩

theorem psm_origin_of_two :
    let w := twoDevices .l2cap
    let s := acquainted .l2cap (some 128) []
    128 ∈ (s.nodes (w.peer false 0)).published ∧
    ∃ a < (s.nodes false).core.central.attempts.next, ∃ n k key flags,
      ((s.nodes false).core.central.attempts.get a).identity = (0, n, key) ∧
      (w.evidence s false).HelloNotified 0 ((w.cfg false).randomId n) ⟨key, flags, some 128⟩ ∧
      w.Paired s false n (w.peer false 0) k := by
  intro w s
  have reachable : w.Reachable s := ⟨_, _, _, acquaint .l2cap (some 128) [], by decide +kernel, rfl⟩
  have asks : (s.nodes false).core.out = [.openL2CAPChannel 0 128] := by decide +kernel
  exact psm_origin (twoDevices_lawful .l2cap) reachable
    (distinct_of_one (by decide +kernel) (by decide +kernel))
    false 0 128 (asks ▸ List.mem_singleton_self _)

end Airspace

end BleSwarm
