import BleSwarm.Gatt.Multiplex
import BleSwarm.Transport.Frames
import BleSwarm.Transport.Listener

/-!
# Negotiation

Two transports agree on a session by an OPEN and a HELLO or a CLOSE. Each side decides its
pipe alone, from the flags that the other sent, and each server breaks the tie of two dials
that cross from its own point of view.
-/

namespace BleSwarm

namespace Config

variable {central server : Config}

/-- Of two keys that differ the one wins against the other or the other against the one. -/
theorem initiatorWins_total (distinct : central.publicKey ≠ server.publicKey) :
    server.initiatorWins central.publicKey = true ∨ central.initiatorWins server.publicKey = true := by
  simp only [initiatorWins, compare_neg_iff, decide_eq_true_eq]
  exact lt_or_gt_of_ne distinct

end Config

namespace Core

variable {env : Env} {c : Core}

variable {sid : Bytes}

/-! The server. -/

/-- An OPEN under an id that no session has is judged. -/
theorem onServerFrame_openFrame (whole : sid.length = sidLen)
    (absent : c.server.table.get? (toHex sid) = none) (remote : Config) :
    c.onServerFrame env (openFrame remote (toHex sid)) =
      c.onOpen env ⟨typeOpen, toHex sid, encodeKeyPayload remote.publicKey remote.capabilities none⟩ := by
  unfold onServerFrame openFrame
  rw [decodeFrame_encodeFrame typeOpen whole]
  simp only [absent, if_true]

theorem onOpen_hello {f : Frame} {name : Pipe}
    (accepted : c.judgeOpen env (decodeKeyPayload f.payload).key (decodeKeyPayload f.payload).flags =
      .accepted name) :
    (c.onOpen env f).gatt = c.gatt.notify env.now (helloFrame env.cfg f.id c.server.psm) := by
  have chosen : env.cfg.pipe = name := (judgeOpen_room accepted).1
  unfold helloFrame
  rw [chosen]
  cases name with
  | l2cap =>
    rcases onOpen_cases chosen c f with ⟨psm, -, promised⟩ | ⟨refused, -⟩
    · rw [promised.hello, promised.recorded]
    · exact absurd accepted refused
  | gatt => exact (onOpen_gatt env c f accepted).1

theorem onOpen_final {f : Frame}
    (unsuited : env.cfg.pipeFor (decodeKeyPayload f.payload).flags = none) :
    (c.onOpen env f).gatt = c.gatt.notify env.now (finalFrame f.id) := by
  have refused : c.judgeOpen env (decodeKeyPayload f.payload).key (decodeKeyPayload f.payload).flags =
      .final := by
    unfold judgeOpen
    rw [unsuited]
  unfold onOpen
  simp only [refused]
  rfl

/-! The central. -/

/-- The peripheral's session waits for the answer to its OPEN. -/
structure Awaits (c : Core) (p sess : Ref) (id : Hex) : Prop where
  session : (c.peripheral p).session = some sess
  id : (c.central.sessions.get sess).id = id
  unbound : (c.peripheral p).stream = none
  idle : (c.central.sessions.get sess).upgrading = false

/-- `openCentral` of the pipe that a HELLO selects. -/
def openCentral (env : Env) (c : Core) (p sess : Ref) (psm : Option Nat) (announced : Bytes) : Pipe → Core
  | .l2cap =>
    match psm with
    | some psm => c.openCentralL2cap env p sess psm announced
    | none => c
  | .gatt => c.openCentralGatt env p sess announced

/-- A HELLO that comes from a peer to link with opens the pipe. -/
theorem onCentralNotify_hello {frame : Bytes} {p sess : Ref} {id : Hex} (awaits : c.Awaits p sess id)
    {said : KeyPayload} (reads : Reads frame typeHello id said) (accept : env.cfg.accept said.key = true)
    (unlinked : c.links.peers.get? (toHex said.key) = none) {name : Pipe}
    (suits : env.cfg.pipeFor said.flags = some name) (psm : name = .l2cap → said.psm ≠ none) :
    c.onCentralNotify env p frame = c.openCentral env p sess said.psm said.key name := by
  obtain ⟨payload, decoded, rfl⟩ := reads
  have greets : c.onCentralNotify env p frame = c.onHello env p sess payload := by
    simp only [onCentralNotify, awaits.session, decoded, awaits.id, ne_eq, not_true_eq_false, if_false,
      if_true]
  rw [greets]
  simp only [onHello, awaits.unbound, awaits.idle, Option.isSome_none, Bool.or_self, Bool.false_eq_true,
    if_false, accept, Bool.not_true, unlinked, suits]
  cases name with
  | gatt => rfl
  | l2cap =>
    obtain ⟨port, known⟩ := Option.ne_none_iff_exists'.mp (psm rfl)
    simp only [known]
    rfl

/-- A session that is ended without keeping the link hangs up. -/
theorem endCentral_disconnects (env : Env) (c : Core) (p : Ref) (sess : Option Ref) :
    .disconnect p ∈ (c.endCentral env p sess false).out := by
  have grows : ∀ c : Core, ∀ command ∈ c.out, command ∈ (c.startScan env).out := by
    intro c command mem
    unfold startScan
    split
    · exact mem
    · split
      · exact mem
      · exact List.mem_append_left _ mem
  simp only [endCentral, Bool.false_eq_true, if_false]
  apply grows
  exact List.mem_append_right _ List.mem_cons_self

theorem onCentralNotify_final {p sess : Ref} (whole : sid.length = sidLen)
    (awaits : c.Awaits p sess (toHex sid)) :
    .disconnect p ∈ (c.onCentralNotify env p (finalFrame (toHex sid))).out := by
  have closes : c.onCentralNotify env p (finalFrame (toHex sid)) = c.endCentral env p none false := by
    unfold onCentralNotify finalFrame
    rw [decodeFrame_encodeFrame typeClose whole, awaits.session]
    simp only [awaits.id, awaits.unbound, decodeCloseReason_encodeCloseReason, ne_eq, not_true_eq_false,
      if_false, decide_false]
    rfl
  rw [closes]
  exact endCentral_disconnects env c p none

/-- What a central asks is what the server hears. If the server accepts, the central hears its
key, flags and psm and opens the same pipe; if the pipes differ, the central hangs up; and of
two servers that were asked by each other, one does not yield. -/
theorem negotiation_agrees (central server : Env) (centralKey : central.cfg.publicKey.length = keyLen)
    (serverKey : server.cfg.publicKey.length = keyLen)
    (distinct : central.cfg.publicKey ≠ server.cfg.publicKey) (sid : Bytes) (whole : sid.length = sidLen)
    (c s : Core) (p : Ref) (drawn : central.cfg.randomId c.central.sessions.next = toHex sid)
    (small : ∀ port ∈ s.server.psm, port < 65536) :
    let asks := openFrame central.cfg (toHex sid)
    let hello := helloFrame server.cfg (toHex sid) s.server.psm
    (.send p asks true ∈ (c.startCentralSession central p).out ∧
      Reads asks typeOpen (toHex sid) ⟨central.cfg.publicKey, central.cfg.capabilities, none⟩) ∧
    (∀ name, s.server.table.get? (toHex sid) = none →
      s.judgeOpen server central.cfg.publicKey central.cfg.capabilities = .accepted name →
      (s.onServerFrame server asks).gatt = s.gatt.notify server.now hello ∧
      Reads hello typeHello (toHex sid) ⟨server.cfg.publicKey, server.cfg.capabilities,
        if name = .l2cap then s.server.psm else none⟩ ∧
      central.cfg.pipeFor server.cfg.capabilities = some name ∧
      ∀ c' sess, Awaits c' p sess (toHex sid) → central.cfg.accept server.cfg.publicKey = true →
        c'.links.peers.get? (toHex server.cfg.publicKey) = none →
        c'.onCentralNotify central p hello =
          c'.openCentral central p sess s.server.psm server.cfg.publicKey name) ∧
    (s.server.table.get? (toHex sid) = none → central.cfg.pipe ≠ server.cfg.pipe →
      (s.onServerFrame server asks).gatt = s.gatt.notify server.now (finalFrame (toHex sid)) ∧
      (∃ payload, decodeFrame (some (finalFrame (toHex sid))) = some ⟨typeClose, toHex sid, payload⟩ ∧
        decodeCloseReason payload = reasonFinal) ∧
      ∀ c' sess, Awaits c' p sess (toHex sid) →
        .disconnect p ∈ (c'.onCentralNotify central p (finalFrame (toHex sid))).out) ∧
    ∀ c' s' : Core, c'.yields central server.cfg.publicKey = false ∨
      s'.yields server central.cfg.publicKey = false := by
  have asked := openFrame_reads whole centralKey
  have heard : decodeKeyPayload (encodeKeyPayload central.cfg.publicKey central.cfg.capabilities none) =
      ⟨central.cfg.publicKey, central.cfg.capabilities, none⟩ := by
    rw [decodeKeyPayload_encodeKeyPayload centralKey _ (by simp)]
    simp
  refine ⟨⟨?_, asked⟩, fun name absent accepted => ?_, fun absent differ => ⟨?_, ?_, ?_⟩, fun c' s' => ?_⟩
  · rw [openFrame, ← drawn]
    exact List.mem_append_left _ (List.mem_append_right _ List.mem_cons_self)
  · obtain ⟨suited, -, ready, -⟩ := (judgeOpen_accepted_iff server s _ _ _).mp accepted
    have chosen : server.cfg.pipe = name := Config.pipe_of_pipeFor suited
    have same : central.cfg.pipe = server.cfg.pipe := by
      rw [Config.pipeFor_capabilities] at suited
      split at suited
      · rename_i same
        exact same.symm
      · cases suited
    have suits : central.cfg.pipeFor server.cfg.capabilities = some name := by
      rw [Config.pipeFor_capabilities, if_pos same, same, chosen]
    have hello := helloFrame_reads whole serverKey small
    rw [chosen] at hello
    refine ⟨?_, hello, suits, fun c' sess awaits accept unlinked => ?_⟩
    · rw [onServerFrame_openFrame whole absent]
      apply onOpen_hello
      rw [heard]
      exact accepted
    · rw [onCentralNotify_hello awaits hello accept unlinked suits fun l2cap => by simpa [l2cap] using ready l2cap]
      cases name <;> rfl
  · rw [onServerFrame_openFrame whole absent]
    apply onOpen_final
    rw [heard, Config.pipeFor_capabilities, if_neg (Ne.symm differ)]
  · exact ⟨_, decodeFrame_encodeFrame typeClose whole _, decodeCloseReason_encodeCloseReason reasonFinal⟩
  · exact fun c' sess awaits => onCentralNotify_final whole awaits
  · rcases Config.initiatorWins_total distinct with wins | wins
    · exact .inr (by simp [yields, wins])
    · exact .inl (by simp [yields, wins])

/-- A central on iOS hears the psm 128 from a server on macOS. -/
theorem negotiation_agrees_on_psm :
    let server := Config.plain (List.replicate 32 2) .l2cap .mac
    Reads (helloFrame server (toHex (List.replicate 8 0)) (some 128)) typeHello (toHex (List.replicate 8 0))
      ⟨server.publicKey, pipeL2cap, some 128⟩ := by
  let central : Env := { cfg := Config.plain (List.replicate 32 1) .l2cap .ios, life := {}, now := 0 }
  let server : Env := { cfg := Config.plain (List.replicate 32 2) .l2cap .mac, life := {}, now := 0 }
  let c : Core := (Transport.create central.cfg none false id).core
  let s : Core := { (Transport.create server.cfg none false id).core with server.psm := some 128 }
  have agreed := negotiation_agrees central server rfl rfl (by decide) (List.replicate 8 0) rfl c s 0 rfl
    (by simp [s])
  have accepted : s.judgeOpen server central.cfg.publicKey central.cfg.capabilities = .accepted .l2cap := by
    decide
  exact (agreed.2.1 .l2cap rfl accepted).2.1

end Core

end BleSwarm
