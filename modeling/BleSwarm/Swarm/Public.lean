import BleSwarm.Swarm.Histories
import BleSwarm.Transport.Peers

/-!
# What a swarm shows of its links

The getters of a swarm read its current transport. Whatever every step of a transport keeps is
kept by all the transports of a swarm, so what is known of the links of one transport holds of
what the swarm shows, however often its transport has been replaced.
-/

namespace BleSwarm.BluetoothSwarm

/-- The public `peers`, a copy of the transport's. -/
def peers (s : BluetoothSwarm) : OrderedMap Hex Ref :=
  match s.transport with
  | some t => (s.transports t).core.links.peers
  | none => ∅

/-- The public `connections`. -/
def connections (s : BluetoothSwarm) : Finset Ref := s.peers.values.toFinset

/-- The public `connecting`. -/
def connecting (s : BluetoothSwarm) : Nat :=
  match s.transport with
  | some t => (s.transports t).core.connecting
  | none => 0

structure Status where
  state : AppState
  peerCount : Nat
  deriving DecidableEq

def status (s : BluetoothSwarm) : Status where
  state := s.state
  peerCount :=
    match s.transport with
    | some t => (s.transports t).core.links.peers.size
    | none => 0

/-- What every step of a transport keeps, and the release of its managers, holds of every transport
of a swarm. -/
theorem lifts {P : Transport → Prop} (cfg : Config) (ids : Ref → PeripheralId)
    (built : ∀ topic online, P (Transport.create cfg topic online ids))
    (keep : ∀ t h, P t → P (t.handled h)) (supported : Bool) (topic : Option Bytes) (online : Bool)
    (turns : List Turn) (k : Nat)
    (known : (Runs.run step (create cfg ids supported topic online) turns).created k = true) :
    P ((Runs.run step (create cfg ids supported topic online) turns).transports k) := by
  obtain ⟨-, recorded, same, same'⟩ := run_recorded cfg ids supported topic online turns
  obtain ⟨served, retired, history⟩ := recorded k known
  obtain ⟨topic', online', run⟩ := history.built
  rw [run, same, same']
  exact Runs.always keep (built topic' online') _

theorem handled_sound {t : Transport} (h : Handling) (sound : t.core.links.Sound) :
    (t.handled h).core.links.Sound := by
  cases h with
  | act a => exact Transport.act_sound sound a
  | _ => exact sound

/-- However its transports were replaced, every entry of the public `peers` is a live link of the
current transport under the key that its handshake proved, which was delivered and is no
retired duplicate; no link has two entries, so `connections` has as many members as `status`
counts; and no transport has delivered a link twice. -/
theorem peers_show_links (cfg : Config) (ids : Ref → PeripheralId) (supported : Bool)
    (topic : Option Bytes) (online : Bool) (turns : List Turn) :
    let s := Runs.run step (create cfg ids supported topic online) turns
    (∀ key r, s.peers.get? key = some r → ∃ t, s.transport = some t ∧
      (s.transports t).core.links.Entry key r ∧
        r ∈ (s.transports t).core.links.delivered.map Prod.fst) ∧
    s.connections.card = s.status.peerCount ∧
    ∀ k, s.created k = true → ((s.transports k).core.links.delivered.map Prod.fst).Nodup := by
  intro s
  have built : ∀ topic online, (Transport.create cfg topic online ids).core.links.Sound :=
    fun _ _ => ⟨by simp [Transport.create], by simp [Transport.create], by simp [Transport.create],
      by simp [Transport.create], by simp [Transport.create], List.nodup_nil⟩
  have keep : ∀ (t : Transport) h, t.core.links.Sound → (t.handled h).core.links.Sound :=
    fun _ h sound => handled_sound h sound
  have sound : ∀ k, s.created k = true → (s.transports k).core.links.Sound :=
    lifts (P := fun t => t.core.links.Sound) cfg ids built keep supported topic online turns
  obtain ⟨manned, -⟩ := run_recorded cfg ids supported topic online turns
  have entries : ∀ key r, s.peers.get? key = some r → ∃ t, s.transport = some t ∧
      (s.transports t).core.links.peers.get? key = some r := by
    intro key r here
    unfold peers at here
    split at here
    · rename_i t current
      exact ⟨t, current, here⟩
    · cases here
  refine ⟨fun key r here => ?_, ?_, fun k known => (sound k known).once⟩
  · obtain ⟨t, current, entry⟩ := entries key r here
    have links := sound t (manned.current t current)
    exact ⟨t, current, links.entry key r entry, links.known key r entry⟩
  · have tells : ∀ key key' r, s.peers.get? key = some r → s.peers.get? key' = some r →
        key = key' := by
      intro key key' r here here'
      obtain ⟨t, current, entry⟩ := entries key r here
      obtain ⟨t', current', entry'⟩ := entries key' r here'
      obtain rfl : t = t' := Option.some.inj (current.symm.trans current')
      have links := sound t (manned.current t current)
      exact (links.entry key r entry).key.symm.trans (links.entry key' r entry').key
    have card : s.connections.card = s.peers.values.length :=
      List.toFinset_card_of_nodup (OrderedMap.nodup_values tells)
    have length : s.peers.values.length = s.peers.size := List.length_map _
    rw [card, length]
    simp only [status, peers]
    cases s.transport with
    | none => rfl
    | some t => rfl

end BleSwarm.BluetoothSwarm
