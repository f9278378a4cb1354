import BleSwarm.Links

/-!
# The two links of a pair, seen from one end

One device and one remote, with a channel in each direction. What the device
tracks for the remote is a function of which of the two streams have opened and
closed, and the stream it gives up is never the one of the smaller key.
-/

namespace BleSwarm

namespace Links

/-- The links one device has with `remote`: `w` ends the channel of the smaller
key, `s` the other one. The smaller key's channel is never given up and is tracked
from its 'open' on; the other one is tracked until then. -/
structure Paired (me remote : Bytes) (w s : Ref) (l : Links) : Prop where
  ne : w ≠ s
  winner : w < l.conns.next ∧ (l.conns.get w).isInitiator = decide (compare me remote < 0)
  loser : s < l.conns.next ∧ (l.conns.get s).isInitiator = !decide (compare me remote < 0)
  kept : (l.conns.get w).destroyed = false ∧ (l.conns.get w).closed = false
  lost : (l.conns.get s).destroyed = true → (l.conns.get w).opened = true
  label : ∀ h, (l.conns.get s).peerKey = some h → h = toHex remote
  marked : l.peers.get? (toHex remote) = some s → (l.conns.get s).peerKey = some (toHex remote)
  entry : l.peers.get? (toHex remote) =
    if (l.conns.get w).opened then some w
    else if (l.conns.get s).opened && !(l.conns.get s).closed then some s else none

namespace Paired

variable {me remote : Bytes} {w s : Ref} {l : Links}

/-- Only the two ends and the entry of the remote matter. -/
theorem congr (h : Paired me remote w s l) {l' : Links} (next : l'.conns.next = l.conns.next)
    (winner : l'.conns.get w = l.conns.get w) (loser : l'.conns.get s = l.conns.get s)
    (entry : l'.peers.get? (toHex remote) = l.peers.get? (toHex remote)) :
    Paired me remote w s l' where
  ne := h.ne
  winner := by rw [next, winner]; exact h.winner
  loser := by rw [next, loser]; exact h.loser
  kept := by rw [winner]; exact h.kept
  lost := by rw [winner, loser]; exact h.lost
  label := by rw [loser]; exact h.label
  marked := by rw [entry, loser]; exact h.marked
  entry := by rw [entry, winner, loser]; exact h.entry

theorem entry_of_winner (h : Paired me remote w s l) (there : (l.conns.get w).opened = true) :
    l.peers.get? (toHex remote) = some w := by
  rw [h.entry, if_pos there]

theorem entry_of_loser (h : Paired me remote w s l) (absent : (l.conns.get w).opened = false)
    (there : (l.conns.get s).opened = true) (unclosed : (l.conns.get s).closed = false) :
    l.peers.get? (toHex remote) = some s := by
  rw [h.entry, if_neg (by simp [absent]), if_pos (by simp [there, unclosed])]

theorem entry_cases (h : Paired me remote w s l) {r : Ref}
    (entry : l.peers.get? (toHex remote) = some r) : r = w ∨ r = s := by
  rw [h.entry] at entry
  split at entry
  · exact .inl (Option.some.inj entry).symm
  · split at entry
    · exact .inr (Option.some.inj entry).symm
    · cases entry

/-- The smaller key's channel opens: it replaces whatever was tracked. -/
theorem open_winner (h : Paired me remote w s l) : Paired me remote w s (l.onOpen me w remote) := by
  unfold onOpen
  split
  · rename_i guard
    simp only [Bool.and_eq_true, decide_eq_true_eq, Bool.not_eq_eq_eq_not, Bool.not_true] at guard
    obtain ⟨⟨bound, fresh⟩, _⟩ := guard
    have sw : ¬ s = w := fun eq => h.ne eq.symm
    have prefers : preferred me ((l.prove w remote).conns.get w) = true := by
      simp [preferred, prove, h.winner.2]
    by_cases live : ((l.conns.get s).opened && !(l.conns.get s).closed) = true
    · have existing : (l.prove w remote).existing? w = some s := by
        simp [existing?, prove, h.entry, fresh, live, sw]
      rw [track_of_wins existing prefers]
      constructor <;>
        simp [deliver, retire, destroy, put, prove, Heap.modify_get, h.ne, sw, h.winner, h.loser,
          h.kept]
      exact h.label
    · have existing : (l.prove w remote).existing? w = none := by
        simp [existing?, prove, h.entry, fresh, live]
      rw [track_of_alone existing]
      constructor <;>
        simp [deliver, put, prove, Heap.modify_get, h.ne, sw, h.winner, h.loser, h.kept]
      exact h.label
  · exact h

/-- The other channel opens: it is tracked only while the smaller key's is not there. -/
theorem open_loser (h : Paired me remote w s l) : Paired me remote w s (l.onOpen me s remote) := by
  unfold onOpen
  split
  · rename_i guard
    simp only [Bool.and_eq_true, decide_eq_true_eq, Bool.not_eq_eq_eq_not, Bool.not_true] at guard
    obtain ⟨⟨bound, fresh⟩, unclosed⟩ := guard
    have sw : ¬ s = w := fun eq => h.ne eq.symm
    have loses : preferred me ((l.prove s remote).conns.get s) = false := by
      simp [preferred, prove, h.loser.2]
    by_cases there : (l.conns.get w).opened = true
    · have existing : (l.prove s remote).existing? s = some w := by
        simp [existing?, prove, h.entry_of_winner there, h.ne]
      rw [track_of_loses existing loses]
      constructor <;>
        simp [retire, destroy, prove, Heap.modify_get, h.ne, h.winner, h.loser, h.kept, there,
          h.entry]
      exact h.label
    · have existing : (l.prove s remote).existing? s = none := by
        simp [existing?, prove, h.entry, there, fresh]
      have kept : (l.conns.get s).destroyed = false := by
        cases destroyed : (l.conns.get s).destroyed
        · rfl
        · exact absurd (h.lost destroyed) there
      rw [track_of_alone existing]
      constructor <;>
        simp [deliver, put, prove, Heap.modify_get, h.ne, h.winner, h.loser, h.kept, there, kept,
          unclosed]
  · exact h

/-- The other channel closes: its entry goes, if it still is its entry. -/
theorem close_loser (h : Paired me remote w s l) : Paired me remote w s (l.onClose s) := by
  unfold onClose
  split
  · have sw : ¬ s = w := fun eq => h.ne eq.symm
    by_cases mine : l.peers.get? (toHex remote) = some s
    · have absent : (l.conns.get w).opened = false := by
        cases there : (l.conns.get w).opened
        · rfl
        · have tracked := h.entry.symm.trans mine
          simp [there, h.ne] at tracked
      have kept : (l.conns.get s).destroyed = false := by
        cases destroyed : (l.conns.get s).destroyed
        · rfl
        · exact absurd (h.lost destroyed) (by simp [absent])
      have label : ((l.markClosed s).conns.get s).peerKey = some (toHex remote) := by
        simpa [markClosed] using h.marked mine
      rw [untrack_of_entry label mine]
      constructor <;>
        simp [markClosed, Heap.modify_get, h.ne, h.winner, h.loser, h.kept, absent, kept]
      exact h.label
    · rw [untrack_of_other]
      · have entry := h.entry
        constructor <;>
          simp [markClosed, Heap.modify_get, h.ne, h.winner, h.loser, h.kept, mine]
        · exact h.lost
        · exact h.label
        · split at entry
          · rename_i there
            simp [entry, there]
          · rename_i absent
            split at entry
            · exact absurd entry mine
            · simp [entry, absent]
      · intro key label
        rw [h.label key (by simpa [markClosed] using label)]
        exact mine
  · exact h

/-- An 'open' event about one remote leaves what concerns another remote alone. -/
theorem open_other {remote' : Bytes} {w' s' : Ref} (h : Paired me remote w s l)
    (other : Paired me remote' w' s' l) (keys : remote ≠ remote') {r : Ref} (own : r = w' ∨ r = s')
    (apart : ∀ k, k = w ∨ k = s → k ≠ w' ∧ k ≠ s') : Paired me remote w s (l.onOpen me r remote') := by
  have ends : ∀ k, k = w ∨ k = s → (l.onOpen me r remote').conns.get k = l.conns.get k := by
    intro k hk
    obtain ⟨nw, ns⟩ := apart k hk
    refine onOpen_get_of_ne ?_ ?_
    · rintro rfl
      exact own.elim nw ns
    · intro entry
      exact (other.entry_cases entry).elim nw ns
  exact h.congr (onOpen_next _) (ends w (.inl rfl)) (ends s (.inr rfl))
    (onOpen_peers_of_ne fun eq => keys (toHex_injective eq))

theorem close_other {remote' : Bytes} {w' s' : Ref} (h : Paired me remote w s l)
    (other : Paired me remote' w' s' l) (keys : remote ≠ remote')
    (apart : ∀ k, k = w ∨ k = s → k ≠ w' ∧ k ≠ s') : Paired me remote w s (l.onClose s') := by
  have ends : ∀ k, k = w ∨ k = s → (l.onClose s').conns.get k = l.conns.get k :=
    fun k hk => onClose_get_of_ne (apart k hk).2
  exact h.congr onClose_next (ends w (.inl rfl)) (ends s (.inr rfl))
    (onClose_peers_of_ne fun label => keys (toHex_injective (other.label _ label)))

end Paired

end Links

end BleSwarm
