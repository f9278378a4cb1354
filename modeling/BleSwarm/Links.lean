import BleSwarm.Config
import BleSwarm.Lib.OrderedMap
import BleSwarm.Lib.Heap

/-!
# Links

A pair of devices that dial each other ends up with a channel in each direction.
Each end keeps at most one link a remote key in `peers` and retires the other.
This module is the part of the transport that decides which: `_track` and
`_untrack` over the noise streams of one end.
-/

namespace BleSwarm

/-- A noise stream at one end of a channel. -/
structure Conn where
  stream : Ref
  isInitiator : Bool
  /-- The argument of `_onChannel`; null for a channel the remote opened. -/
  peripheralId : Option PeripheralId
  /-- The key of the control frame that let the channel in. Not a field of the
  source: no code reads it, statements do. -/
  announced : Bytes := []
  /-- The key the handshake proved, from the 'open' event on. -/
  remotePublicKey : Bytes := []
  /-- `_peerKey`, set when the link is tracked. -/
  peerKey : Option Hex := none
  opened : Bool := false
  destroyed : Bool := false
  closed : Bool := false

instance : Inhabited Conn := ⟨{ stream := 0, isInitiator := false, peripheralId := none }⟩

structure Links where
  /-- Live links, keyed by remote public key hex. -/
  peers : OrderedMap Hex Ref := ∅
  conns : Heap Conn := ⟨fun _ => default, 0⟩
  /-- The calls of `onconnection`: the stream and its `remotePublicKey`. -/
  delivered : List (Ref × Bytes) := []
  /-- The streams `_track` destroyed, each with the stream it kept instead. -/
  retired : List (Ref × Ref) := []

namespace Links

/-- The handshake is done and proved the remote's key. -/
def prove (l : Links) (r : Ref) (remotePublicKey : Bytes) : Links :=
  { l with conns := l.conns.modify r fun conn =>
      { conn with remotePublicKey := remotePublicKey, opened := true } }

/-- `conn.destroy()`; the close events follow later. -/
def destroy (l : Links) (r : Ref) : Links :=
  { l with conns := l.conns.modify r fun conn => { conn with destroyed := true } }

/-- `conn.destroy()` as `_track` calls it on a duplicate of `kept`. -/
def retire (l : Links) (r kept : Ref) : Links :=
  { l.destroy r with retired := l.retired ++ [(r, kept)] }

/-- Keep the channel whose initiator has the smaller static key. -/
def preferred (me : Bytes) (conn : Conn) : Bool :=
  let initiatorIsUsSmaller : Bool := compare me conn.remotePublicKey < 0
  conn.isInitiator == initiatorIsUsSmaller

/-- `existing` of `_track`, when it is another stream. -/
def existing? (l : Links) (r : Ref) : Option Ref :=
  (l.peers.get? (toHex (l.conns.get r).remotePublicKey)).filter (· ≠ r)

def put (l : Links) (r : Ref) : Links :=
  let key := toHex (l.conns.get r).remotePublicKey
  { l with
    conns := l.conns.modify r fun conn => { conn with peerKey := some key }
    peers := l.peers.set key r }

def deliver (l : Links) (r : Ref) : Links :=
  { l with delivered := l.delivered ++ [(r, (l.conns.get r).remotePublicKey)] }

/-- The stream lost against the existing one: `_track` destroys it and returns. -/
def redundant (me : Bytes) (l : Links) (r : Ref) : Bool :=
  (l.existing? r).isSome && !preferred me (l.conns.get r)

/-- `_track` past its guards, at an end whose own key is `me`. -/
def track (me : Bytes) (l : Links) (r : Ref) : Links :=
  match l.existing? r with
  | some existing =>
    if preferred me (l.conns.get r) then ((l.put r).retire existing r).deliver r
    else l.retire r existing
  | none => (l.put r).deliver r

/-- The part of `_untrack` that touches `peers`: only the entry that is still this stream's. -/
def untrack (l : Links) (r : Ref) : Links :=
  match (l.conns.get r).peerKey with
  | some key => if l.peers.get? key = some r then { l with peers := l.peers.delete key } else l
  | none => l

def markClosed (l : Links) (r : Ref) : Links :=
  { l with conns := l.conns.modify r fun conn => { conn with closed := true } }

/-- The 'open' event of a stream whose handshake proved `remotePublicKey`. -/
def onOpen (me : Bytes) (l : Links) (r : Ref) (remotePublicKey : Bytes) : Links :=
  if r < l.conns.next && !(l.conns.get r).opened && !(l.conns.get r).closed then
    (l.prove r remotePublicKey).track me r
  else l

/-- The 'close' event of a stream. -/
def onClose (l : Links) (r : Ref) : Links :=
  if r < l.conns.next && !(l.conns.get r).closed then
    (l.markClosed r).untrack r
  else l

variable {me : Bytes} {l : Links} {r k : Ref}

theorem existing?_ne (h : l.existing? r = some k) : k ≠ r := by
  simp only [existing?, Option.filter_eq_some_iff, decide_eq_true_eq] at h
  exact h.2

theorem track_of_alone (alone : l.existing? r = none) : l.track me r = (l.put r).deliver r := by
  simp only [track, alone]

theorem track_of_wins (existing : l.existing? r = some k) (wins : preferred me (l.conns.get r) = true) :
    l.track me r = ((l.put r).retire k r).deliver r := by
  simp only [track, existing, wins, if_true]

theorem track_of_loses (existing : l.existing? r = some k)
    (loses : preferred me (l.conns.get r) = false) : l.track me r = l.retire r k := by
  simp [track, existing, loses]

theorem untrack_of_entry {key : Hex} (label : (l.conns.get r).peerKey = some key)
    (entry : l.peers.get? key = some r) : l.untrack r = { l with peers := l.peers.delete key } := by
  simp only [untrack, label, entry, if_true]

theorem untrack_of_other
    (other : ∀ key, (l.conns.get r).peerKey = some key → l.peers.get? key ≠ some r) :
    l.untrack r = l := by
  unfold untrack
  split
  · rename_i key label
    rw [if_neg (other key label)]
  · rfl

@[simp] theorem onOpen_next (key : Bytes) : (l.onOpen me r key).conns.next = l.conns.next := by
  unfold onOpen
  split
  · unfold track
    split
    · split <;> rfl
    · rfl
  · rfl

/-- What `track` leaves of a stream: what it rides, who dialed it and under which key. -/
theorem onOpen_identity (key : Bytes) (k : Ref) :
    ((l.onOpen me r key).conns.get k).stream = (l.conns.get k).stream ∧
      ((l.onOpen me r key).conns.get k).isInitiator = (l.conns.get k).isInitiator ∧
      ((l.onOpen me r key).conns.get k).announced = (l.conns.get k).announced := by
  unfold onOpen
  split
  · unfold track
    split
    · split <;>
        (simp only [deliver, retire, destroy, put, prove, Heap.modify_get]
         split_ifs <;> simp_all)
    · simp only [deliver, put, prove, Heap.modify_get]
      split_ifs <;> simp_all
  · exact ⟨rfl, rfl, rfl⟩

/-- A link is delivered under the key that its handshake proved. -/
theorem onOpen_delivered (key : Bytes) : (l.onOpen me r key).delivered = l.delivered ∨
    r < l.conns.next ∧ (l.onOpen me r key).delivered = l.delivered ++ [(r, key)] := by
  unfold onOpen
  split
  · rename_i guard
    simp only [Bool.and_eq_true, decide_eq_true_eq] at guard
    unfold track
    split
    · rename_i existing hexisting
      have ne : r ≠ existing := (existing?_ne hexisting).symm
      split
      · exact .inr ⟨guard.1.1, by simp [deliver, retire, destroy, put, prove, Heap.modify_get, ne]⟩
      · exact .inl rfl
    · exact .inr ⟨guard.1.1, by simp [deliver, put, prove]⟩
  · exact .inl rfl

theorem untrack_peers {h : Hex} (entry : (l.untrack r).peers.get? h = some k) :
    l.peers.get? h = some k := by
  unfold untrack at entry
  split at entry
  · split at entry
    · simp only [OrderedMap.get?_delete] at entry
      split at entry
      · cases entry
      · exact entry
    · exact entry
  · exact entry

/-- The stream that `track` retires when the 'open' event of `r` proves `key`. -/
def loser? (me : Bytes) (l : Links) (r : Ref) (key : Bytes) : Option Ref :=
  ((l.prove r key).existing? r).map fun existing =>
    if preferred me ((l.prove r key).conns.get r) then existing else r

theorem onOpen_retired (key : Bytes) : (l.onOpen me r key).retired = l.retired ∨
    r < l.conns.next ∧ ∃ loser kept, l.loser? me r key = some loser ∧
      (l.onOpen me r key).retired = l.retired ++ [(loser, kept)] := by
  unfold onOpen
  split
  · rename_i guard
    simp only [Bool.and_eq_true, decide_eq_true_eq] at guard
    cases existing : (l.prove r key).existing? r with
    | none =>
      rw [track_of_alone existing]
      exact .inl rfl
    | some k =>
      refine .inr ⟨guard.1.1, ?_⟩
      cases rank : preferred me ((l.prove r key).conns.get r)
      · rw [track_of_loses existing rank]
        exact ⟨r, k, by simp [loser?, existing, rank], rfl⟩
      · rw [track_of_wins existing rank]
        exact ⟨k, r, by simp [loser?, existing, rank], rfl⟩
  · exact .inl rfl

/-- An 'open' event changes its own stream and the one it may retire. -/
theorem onOpen_get_of_ne {key : Bytes} (other : k ≠ r) (untracked : l.peers.get? (toHex key) ≠ some k) :
    (l.onOpen me r key).conns.get k = l.conns.get k := by
  unfold onOpen
  split
  · unfold track
    split
    · rename_i existing hexisting
      have ne : k ≠ existing := by
        rintro rfl
        simp [existing?, prove, Option.filter_eq_some_iff] at hexisting
        exact untracked hexisting.1
      split <;>
        simp [deliver, retire, destroy, put, prove, Heap.modify_get, other, ne]
    · simp [deliver, put, prove, Heap.modify_get, other]
  · rfl

/-- An 'open' event closes nothing and takes no destroy back. -/
theorem onOpen_flags (key : Bytes) (k : Ref) :
    ((l.onOpen me r key).conns.get k).closed = (l.conns.get k).closed ∧
      ((l.conns.get k).destroyed = true → ((l.onOpen me r key).conns.get k).destroyed = true) := by
  unfold onOpen
  split
  · unfold track
    split
    · split <;>
        (simp only [deliver, retire, destroy, put, prove, Heap.modify_get]
         split_ifs <;> simp_all)
    · simp only [deliver, put, prove, Heap.modify_get]
      split_ifs <;> simp_all
  · exact ⟨rfl, id⟩

theorem onOpen_peers_of_ne {key : Bytes} {h : Hex} (other : h ≠ toHex key) :
    (l.onOpen me r key).peers.get? h = l.peers.get? h := by
  unfold onOpen
  split
  · unfold track
    split
    · split
      · simp [deliver, retire, destroy, put, prove, OrderedMap.get?_set, other]
      · rfl
    · simp [deliver, put, prove, OrderedMap.get?_set, other]
  · rfl

/-- No link is delivered and none is entered in `peers`. -/
structure Fades (l l' : Links) : Prop where
  delivered : l'.delivered = l.delivered
  peers : ∀ key, l.peers.get? key = none → l'.peers.get? key = none

namespace Fades

variable {l' l'' : Links}

theorem of_same (delivered : l'.delivered = l.delivered) (peers : l'.peers = l.peers) :
    l.Fades l' := ⟨delivered, fun _ => by rw [peers]; exact id⟩

theorem trans (h : l.Fades l') (h' : l'.Fades l'') : l.Fades l'' :=
  ⟨h'.delivered.trans h.delivered, fun key absent => h'.peers key (h.peers key absent)⟩

theorem untrack (l : Links) (r : Ref) : l.Fades (l.untrack r) := by
  refine ⟨?_, fun key absent => Option.eq_none_iff_forall_ne_some.mpr fun k entry => ?_⟩
  · unfold Links.untrack
    split
    · split <;> rfl
    · rfl
  · rw [untrack_peers entry] at absent
    cases absent

end Fades

theorem untrack_conns : (l.untrack r).conns = l.conns := by
  unfold untrack
  split
  · split <;> rfl
  · rfl

theorem onClose_fades (l : Links) (r : Ref) : l.Fades (l.onClose r) := by
  unfold onClose
  split
  · have marked : l.Fades (l.markClosed r) := .of_same rfl rfl
    exact marked.trans (.untrack _ r)
  · exact .of_same rfl rfl

@[simp] theorem onClose_next : (l.onClose r).conns.next = l.conns.next := by
  unfold onClose
  split
  · rw [untrack_conns]
    rfl
  · rfl

theorem onClose_get_of_ne (other : k ≠ r) : (l.onClose r).conns.get k = l.conns.get k := by
  unfold onClose
  split
  · rw [untrack_conns]
    simp [markClosed, Heap.modify_get, other]
  · rfl

theorem onClose_destroyed (k : Ref) :
    ((l.onClose r).conns.get k).destroyed = (l.conns.get k).destroyed := by
  unfold onClose
  split
  · rw [untrack_conns]
    exact l.conns.modify_get_view r k (fun conn => { conn with closed := true }) Conn.destroyed
      fun _ => rfl
  · rfl

theorem onClose_peers_of_ne {h : Hex} (other : (l.conns.get r).peerKey ≠ some h) :
    (l.onClose r).peers.get? h = l.peers.get? h := by
  unfold onClose
  split
  · unfold untrack
    split
    · rename_i key label
      have ne : h ≠ key := fun eq => other (by simpa [markClosed, eq] using label)
      split
      · simp [markClosed, OrderedMap.get?_delete, ne]
      · rfl
    · rfl
  · rfl

end Links

end BleSwarm
