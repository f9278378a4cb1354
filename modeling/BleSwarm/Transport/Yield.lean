import BleSwarm.Transport.Grounded
import BleSwarm.Transport.Peers

/-!
# Who hangs up when a duplicate goes

Both directions of a pair share one physical link, and closing a stream of the
central side disconnects its peripheral. A retired duplicate therefore takes the
link down exactly when the transport that retires it had dialed it; the close of a
duplicate that the remote dialed leaves the link alone.
-/

namespace BleSwarm.Core

variable {env : Env} {c c' c'' : Core}

/-- No peripheral is disconnected that was not before. -/
def Spares (c c' : Core) : Prop := ∀ p, .disconnect p ∈ c'.out → .disconnect p ∈ c.out

namespace Spares

theorem of_eq (h : c'.out = c.out) : Spares c c' := fun _ hp => h ▸ hp

theorem trans (h : Spares c c') (h' : Spares c' c'') : Spares c c'' := fun p hp => h p (h' p hp)

theorem ite {p : Prop} [Decidable p] {a b : Core} (ha : Spares c a) (hb : Spares c b) :
    Spares c (if p then a else b) := by
  split
  · exact ha
  · exact hb

end Spares

theorem issue_spares (c : Core) (command : Command) (other : ∀ p, command ≠ .disconnect p) :
    Spares c (c.issue command) := by
  intro p hp
  rcases List.mem_append.mp hp with old | new
  · exact old
  · exact absurd (List.mem_singleton.mp new).symm (other p)

theorem startScan_spares (env : Env) (c : Core) : Spares c (c.startScan env) := by
  unfold startScan
  refine .ite (.of_eq rfl) (.ite (.of_eq rfl) ?_)
  exact (issue_spares { c with radio.scanning := true } (.startScan _)
      fun _ eq => by cases eq).trans (.of_eq rfl)

theorem cycle_spares (env : Env) (c : Core) : Spares c (c.cycle env) := by
  have unpublished : Spares c (c.unpublish env) := by
    unfold unpublish
    split
    · exact .of_eq rfl
    · refine Spares.trans (.ite (issue_spares c (.unpublishChannel _) fun _ eq => by cases eq)
        (.of_eq rfl)) (.of_eq rfl)
  exact unpublished.trans (.ite (.of_eq rfl)
    (issue_spares _ .publishChannel fun _ eq => by cases eq))

theorem maybeCycle_spares (env : Env) (c : Core) : Spares c (c.maybeCycle env) :=
  .ite (.of_eq rfl) (cycle_spares env { c with server.cyclePending := false })

theorem closeServerSession_spares (env : Env) (c : Core) (id : Hex) :
    Spares c (c.closeServerSession env id) := by
  unfold closeServerSession
  split
  · exact .of_eq rfl
  · refine Spares.trans ?_ (.of_eq rfl)
    unfold reapSession
    exact Spares.trans (.of_eq rfl) (.ite (maybeCycle_spares env _) (.of_eq rfl))

/-- The close of a stream of the server side. -/
theorem onStreamClose_spares {st r : Ref} (owner : (c.streams.get st).owner = .server r) :
    Spares c (c.onStreamClose env st) := by
  simp only [onStreamClose, owner]
  refine .ite ?_ (.of_eq rfl)
  refine Spares.trans ?_ (closeServerSession_spares env _ _)
  unfold destroyOwnChannel
  split
  · exact issue_spares (c.setStream st fun s => { s with closed := true }) (.destroyChannel _)
      fun _ eq => by cases eq
  · exact .of_eq rfl

/-- The retirement itself. -/
theorem onConnOpen_spares (env : Env) (c : Core) (r : Ref) (key : Bytes) :
    Spares c (c.onConnOpen env r key) := by
  have noted : ∀ c : Core, (c.notePeerKey r).out = c.out := by
    intro c
    simp only [notePeerKey]
    split <;> rfl
  have tracked : ∀ c : Core, Spares c (c.track env r) := by
    intro c
    simp only [track]
    refine .ite (.of_eq (noted c)) (.ite (.of_eq (noted c)) ?_)
    refine Spares.trans ?_ (issue_spares _ .emitUpdate fun _ eq => by cases eq)
    exact .of_eq (noted c)
  simp only [onConnOpen]
  exact .ite (tracked { c with links := c.links.prove r key }) (.of_eq rfl)

theorem prune_out (c : Core) (id : PeripheralId) : (c.prune id).out = c.out := by
  unfold prune
  split
  · rfl
  · split <;> rfl

/-- The close of a link, on either side. -/
theorem onConnClose_spares (env : Env) (c : Core) (r : Ref) :
    Spares c (c.onConnClose env r) := by
  have unmarked : ∀ (c : Core) (peripheralId : Option PeripheralId),
      Spares c (c.unmark peripheralId) := by
    intro c peripheralId
    cases peripheralId with
    | none => exact .of_eq rfl
    | some id => exact .of_eq (prune_out _ id)
  have untracked : ∀ c : Core, Spares c (c.untrack env r) := by
    intro c
    simp only [untrack]
    refine .ite (.of_eq rfl) (Spares.trans ?_ (issue_spares _ .emitUpdate fun _ eq => by cases eq))
    refine .ite ?_ (.of_eq rfl)
    exact startScan_spares env
      { c with links := c.links.untrack r, radio.huntUntil := env.now + huntWindow }
  simp only [onConnClose]
  refine .ite (Spares.trans ?_ (untracked _)) (.of_eq rfl)
  exact unmarked { c with links := c.links.markClosed r } _

end BleSwarm.Core

namespace BleSwarm.Transport

open BleSwarm.Core

/-- The step issues no disconnect. -/
def Spared (t : Transport) (a : Action) : Prop := ∀ p, .disconnect p ∉ (t.act a).core.out

/-- Retiring a duplicate, and the close events of the duplicate while the stream it
lost against is tracked, disconnect nobody. -/
def KeepsLink (t : Transport) : Action → Prop
  | .input i =>
    match i.event with
    | .connOpen _ _ => t.Spared (.input i)
    | .connClose r => ∀ kept, (r, kept) ∈ t.core.links.retired →
      kept ∈ t.core.links.peers.values → t.Spared (.input i)
    | .streamClose st => ∀ r kept, (r, kept) ∈ t.core.links.retired →
      (t.core.links.conns.get r).stream = st → kept ∈ t.core.links.peers.values →
        t.Spared (.input i)
    | _ => True
  | _ => True

/-- Of two streams to a remote, the loser is one that the remote dialed: it dialed both,
or it dialed one of them and has the larger key. -/
def InboundLoses (t : Transport) (r existing : Ref) (key : Bytes) : Prop :=
  let dialed := fun k => (t.core.links.conns.get k).isInitiator
  (dialed r = false ∧ dialed existing = false) ∨
    (compare t.cfg.publicKey key < 0 ∧ (dialed r = false ∨ dialed existing = false))

/-- Where an 'open' event finds another link to the key it proved, the remote's loses. -/
def RetiresInbound (t : Transport) : Action → Prop
  | .input i =>
    match i.event with
    | .connOpen r key => ∀ existing ∈ t.core.links.peers.get? (toHex key),
      existing ≠ r → t.InboundLoses r existing key
    | _ => True
  | _ => True

instance (t : Transport) (r existing : Ref) (key : Bytes) :
    Decidable (t.InboundLoses r existing key) := by
  unfold InboundLoses
  infer_instance

instance (t : Transport) (a : Action) : Decidable (t.RetiresInbound a) := by
  unfold RetiresInbound
  rcases a with ⟨_, _, event⟩ | _
  · rcases event with _ | _ <;> infer_instance
  all_goals infer_instance

/-- Every stream retired so far is one that the remote dialed. -/
def Yielding (t : Transport) : Prop :=
  ∀ d ∈ t.core.links.retired, d.1 < t.core.links.conns.next ∧
    (t.core.links.conns.get d.1).isInitiator = false

/-- An 'open' event retires a stream that exists. -/
theorem loser_lt {l : Links} (sound : l.Sound) {me : Bytes} {r loser : Ref} {key : Bytes}
    (bound : r < l.conns.next) (lost : l.loser? me r key = some loser) : loser < l.conns.next := by
  simp only [Links.loser?, Option.map_eq_some_iff] at lost
  obtain ⟨existing, hexisting, eq⟩ := lost
  simp only [Links.existing?, Option.filter_eq_some_iff] at hexisting
  split at eq
  · exact eq ▸ (sound.entry _ _ hexisting.1).made
  · exact eq ▸ bound

theorem loser_inbound {t : Transport} {r loser : Ref} {key : Bytes}
    (inbound : ∀ existing ∈ t.core.links.peers.get? (toHex key),
      existing ≠ r → t.InboundLoses r existing key)
    (lost : t.core.links.loser? t.cfg.publicKey r key = some loser) :
    (t.core.links.conns.get loser).isInitiator = false := by
  simp only [Links.loser?, Links.existing?, Links.preferred, Links.prove, Heap.modify_get_self,
    Option.map_eq_some_iff, Option.filter_eq_some_iff, decide_eq_true_eq] at lost
  obtain ⟨existing, ⟨entry, ne⟩, eq⟩ := lost
  have loses := inbound existing entry ne
  simp only [InboundLoses] at loses
  split at eq
  · rename_i rank
    subst eq
    rcases loses with both | ⟨smaller, one⟩
    · exact both.2
    · simp only [smaller, decide_true, beq_true] at rank
      exact one.resolve_left fun dialed => by simp [rank] at dialed
  · rename_i rank
    subst eq
    rcases loses with both | ⟨smaller, -⟩
    · exact both.1
    · simpa [smaller] using rank

def YieldInv (t : Transport) : Prop :=
  Grounded .all t.cfg t.core ∧ t.core.links.Sound ∧ t.Yielding

theorem yielding_step {t : Transport} (h : t.YieldInv) (a : Action) (inbound : t.RetiresInbound a) :
    (t.act a).YieldInv := by
  obtain ⟨grounded, sound, yielding⟩ := h
  refine ⟨act_grounded_all grounded, act_sound sound a, ?_⟩
  have lasts := t.act_lasts a
  have keep : ∀ k, k < t.core.links.conns.next ∧ (t.core.links.conns.get k).isInitiator = false →
      k < (t.act a).core.links.conns.next ∧
        ((t.act a).core.links.conns.get k).isInitiator = false := by
    intro k ⟨bound, remote⟩
    have same := lasts.link k bound
    simp only [Conn.identity, Prod.mk.injEq] at same
    exact ⟨bound.trans_le lasts.links, same.2.1.trans remote⟩
  intro d hd
  rcases act_links t a with held | ⟨i, r, key, rfl, event, run⟩ | ⟨i, r, rfl, -, run⟩
  · rw [held.retired] at hd
    exact keep _ (yielding d hd)
  · rw [run] at hd
    rcases onConnOpen_retired (t.env i.now i.native) (t.begin i.native).core r key with
      retired | ⟨bound, loser, kept, lost, retired⟩
    · rw [retired] at hd
      exact keep _ (yielding d hd)
    · rw [retired] at hd
      rcases List.mem_append.mp hd with old | new
      · exact keep _ (yielding d old)
      · rw [List.mem_singleton.mp new]
        simp only [RetiresInbound, event] at inbound
        exact keep _ ⟨loser_lt sound bound lost, loser_inbound inbound lost⟩
  · rw [run, (Links.onClose_lists _ _).2] at hd
    exact keep _ (yielding d hd)

theorem spared_of_spares {t : Transport} {i : Input}
    (spares : Spares (t.begin i.native).core
      ((t.begin i.native).handle (t.env i.now i.native) i.event).core) : t.Spared (.input i) := by
  intro p hp
  simp only [act, input] at hp
  split at hp
  · exact List.not_mem_nil (spares p hp)
  · exact List.not_mem_nil hp

/-- The close of a stream that the remote dialed ends a session of the server side. -/
theorem keepsLink_of_yielding {t : Transport} (h : t.YieldInv) (a : Action) :
    t.KeepsLink a := by
  obtain ⟨grounded, -, yielding⟩ := h
  cases a with
  | input i =>
    obtain ⟨now, native, event⟩ := i
    cases event with
    | connOpen r key => exact spared_of_spares (onConnOpen_spares _ _ r key)
    | connClose r => exact fun _ _ _ => spared_of_spares (onConnClose_spares _ _ r)
    | streamClose st =>
      intro r kept retired stream _
      obtain ⟨bound, remote⟩ := yielding _ retired
      obtain ⟨session, owner⟩ := grounded.served bound remote
      rw [stream] at owner
      exact spared_of_spares (onStreamClose_spares (c := (t.begin native).core) owner)
    | _ => trivial
  | _ => trivial

/-- Every run in which only channels of the remote are retired keeps the shared link. -/
theorem yielding_never_hangs_up (cfg : Config) (topic : Option Bytes) (online : Bool)
    (ids : Ref → PeripheralId) (actions : List Action)
    (inbound : Runs.Each act RetiresInbound (create cfg topic online ids) actions) :
    Runs.Each act KeepsLink (create cfg topic online ids) actions := by
  have start : (create cfg topic online ids).YieldInv :=
    ⟨create_grounded cfg topic online ids, create_sound cfg topic online ids,
      fun _ hd => by cases hd⟩
  have step : ∀ (t : Transport) a, t.YieldInv → t.RetiresInbound a → (t.act a).YieldInv :=
    fun _ a h ok => yielding_step h a ok
  exact Runs.each_of_invariant step (fun _ a h _ => keepsLink_of_yielding h a) start inbound

/-- A dial up to the HELLO that accepts the given session. -/
def dialAnswered (cfg : Config) (session : Nat) (p : Ref) (remote : Bytes) : List Event :=
  [.discover p none, .connect p, .servicesDiscover p true, .characteristicsDiscover p true,
    .notifyState p true, .notify p (encodeFrame typeHello (cfg.randomId session) remote)]

/-- The remote opens a session on the gatt pipe. -/
def opensSession (remote : Bytes) : Event :=
  .writeRequests [(encodeFrame typeOpen (toHex (List.replicate 8 9)) remote, false)]

/-- A transport starts on a running adapter and handles the events one after another. -/
def startThen (events : List Event) : List Action :=
  .open .poweredOn .poweredOn 0 :: events.map fun event => .input { now := 1000, event }

/-- The link of the remote with the larger key is retired, and its stream closes. -/
theorem smaller_key_keeps_link :
    let cfg := Config.plain (List.replicate 32 1) .gatt .ios
    let remote := List.replicate 32 2
    Runs.Each act KeepsLink (create cfg none false id)
      (startThen ([opensSession remote] ++ dialAnswered cfg 0 7 remote ++
        [.connOpen 0 remote, .connOpen 1 remote, .streamClose 0])) := by
  intro cfg remote
  exact yielding_never_hangs_up cfg none false id _ (by decide +kernel)

/-- The link that this transport dialed is retired, and its close hangs up on the
peripheral while the other one is tracked. -/
theorem larger_key_hangs_up :
    let cfg := Config.plain (List.replicate 32 2) .gatt .ios
    let remote := List.replicate 32 1
    ¬ Runs.Each act KeepsLink (create cfg none false id)
      (startThen (dialAnswered cfg 0 7 remote ++ [opensSession remote, .connOpen 0 remote,
        .connOpen 1 remote]) ++ [.input { now := 1000, event := .streamClose 0 }]) := by
  intro cfg remote keeps
  have last := (Runs.each_append.mp keeps).2.1
  exact last 0 1 (by decide +kernel) (by decide +kernel) (by decide +kernel) 7 (by decide +kernel)

end BleSwarm.Transport
