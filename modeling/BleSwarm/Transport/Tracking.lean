import BleSwarm.Transport.Frame

/-!
# The 'open' and the 'close' event of a link

To the links they do what `Links` says, unless the transport closes. Beyond them only the
dial records, the scan and what is told to the owner may change.
-/

namespace BleSwarm.Core

variable {env : Env} {c : Core}

theorem untrack_links (env : Env) (c : Core) (r : Ref) :
    (c.untrack env r).links = c.links.untrack r := by
  have hunted : ∀ c : Core, Quiet c (({ c with radio.huntUntil := env.now + huntWindow }.startScan
      env).armScanRestart env) :=
    fun _ => (((radio_radioOnly _ _).trans (startScan_radioOnly env _)).trans
      (armScanRestart_radioOnly env _)).quiet
  have rest : Quiet { c with links := c.links.untrack r } (c.untrack env r) :=
    .ite (.refl _) (Quiet.trans (.ite (hunted _) (.refl _)) (issue_quiet _ _))
  exact rest.links

/-- What the 'close' event of a link does to the links is what `Links` says. -/
theorem onConnClose_links (env : Env) (c : Core) (r : Ref) :
    (c.onConnClose env r).links = c.links.onClose r := by
  simp only [onConnClose, Links.onClose]
  split
  · rw [untrack_links, (unmark_quiet _ _).links]
  · rfl

theorem notePeerKey_quiet (r : Ref) : Quiet c (c.notePeerKey r) := by
  simp only [notePeerKey]
  split
  · exact updateDevice_quiet c _ _
  · exact .refl c

/-- What `track` does to the links is what `Links` says, unless the transport closes. -/
theorem track_links (env : Env) (c : Core) (r : Ref) : (c.track env r).links =
    if env.life.closing || env.life.closed then c.links else c.links.track env.cfg.publicKey r := by
  simp only [track]
  split
  · exact (notePeerKey_quiet r).links
  · rw [(notePeerKey_quiet r).links]
    split <;> rfl

theorem track_rest (env : Env) (c : Core) (r : Ref) : (c.track env r).central = c.central ∧
    (c.track env r).streams = c.streams ∧ (c.track env r).server.table = c.server.table ∧
    (c.track env r).server.sessions = c.server.sessions := by
  obtain ⟨central, -, streams, table, sessions, -, -⟩ : Quiet c (c.notePeerKey r) :=
    notePeerKey_quiet r
  simp only [track]
  split
  · exact ⟨central, streams, table, sessions⟩
  · split <;> exact ⟨central, streams, table, sessions⟩

theorem onConnOpen_links (env : Env) (c : Core) (r : Ref) (key : Bytes) :
    (c.onConnOpen env r key).links = c.links.onOpen env.cfg.publicKey r key ∨
      (c.onConnOpen env r key).links = c.links.prove r key ∨
      (c.onConnOpen env r key).links = c.links := by
  simp only [onConnOpen]
  split
  · rename_i guard
    rw [track_links]
    split
    · exact .inr (.inl rfl)
    · left
      simp only [Links.onOpen, guard, if_true]
  · exact .inr (.inr rfl)

theorem onConnOpen_rest (env : Env) (c : Core) (r : Ref) (key : Bytes) :
    (c.onConnOpen env r key).central = c.central ∧
    (c.onConnOpen env r key).streams = c.streams ∧
    (c.onConnOpen env r key).server.table = c.server.table ∧
    (c.onConnOpen env r key).server.sessions = c.server.sessions := by
  simp only [onConnOpen]
  split
  · exact track_rest env _ r
  · exact ⟨rfl, rfl, rfl, rfl⟩

/-- The 'open' event of a link keeps the links there are. -/
theorem onConnOpen_identity (env : Env) (c : Core) (r : Ref) (key : Bytes) :
    (c.onConnOpen env r key).links.conns.next = c.links.conns.next ∧
      ∀ k, ((c.onConnOpen env r key).links.conns.get k).stream = (c.links.conns.get k).stream ∧
        ((c.onConnOpen env r key).links.conns.get k).isInitiator =
          (c.links.conns.get k).isInitiator ∧
        ((c.onConnOpen env r key).links.conns.get k).announced = (c.links.conns.get k).announced := by
  rcases onConnOpen_links env c r key with links | links | links <;> rw [links]
  · exact ⟨Links.onOpen_next key, Links.onOpen_identity key⟩
  · refine ⟨rfl, fun k => ?_⟩
    simp only [Links.prove, Heap.modify_get]
    split
    · rename_i eq
      subst eq
      exact ⟨rfl, rfl, rfl⟩
    · exact ⟨rfl, rfl, rfl⟩
  · exact ⟨rfl, fun _ => ⟨rfl, rfl, rfl⟩⟩

theorem onConnOpen_delivered (env : Env) (c : Core) (r : Ref) (key : Bytes) :
    (c.onConnOpen env r key).links.delivered = c.links.delivered ∨
      r < c.links.conns.next ∧
        (c.onConnOpen env r key).links.delivered = c.links.delivered ++ [(r, key)] := by
  rcases onConnOpen_links env c r key with links | links | links <;> rw [links]
  · exact Links.onOpen_delivered key
  · exact .inl rfl
  · exact .inl rfl

theorem onConnOpen_retired (env : Env) (c : Core) (r : Ref) (key : Bytes) :
    (c.onConnOpen env r key).links.retired = c.links.retired ∨
      r < c.links.conns.next ∧ ∃ loser kept, c.links.loser? env.cfg.publicKey r key = some loser ∧
        (c.onConnOpen env r key).links.retired = c.links.retired ++ [(loser, kept)] := by
  rcases onConnOpen_links env c r key with links | links | links <;> rw [links]
  · exact Links.onOpen_retired key
  · exact .inl rfl
  · exact .inl rfl

end BleSwarm.Core
