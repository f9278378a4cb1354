import BleSwarm.Transport.Calls
import BleSwarm.Transport.Performs.Handlers
import BleSwarm.Transport.Tracking

/-!
# The map of live links

`_track` enters a stream under the key that its handshake proved and `_untrack` takes out
nothing but the stream's own entry. Whatever else a step does holds the links: it opens
and closes none, delivers none and enters none.
-/

namespace BleSwarm.Links

variable {me : Bytes} {l l' : Links} {r k : Ref}

/-- A live link under the key that its handshake proved, no duplicate that was destroyed. -/
structure Entry (l : Links) (key : Hex) (r : Ref) : Prop where
  made : r < l.conns.next
  key : toHex (l.conns.get r).remotePublicKey = key
  opened : (l.conns.get r).opened = true
  unclosed : (l.conns.get r).closed = false
  spared : r ∉ l.retired.map Prod.fst

/-- What `_track` and `_untrack` keep of the links. -/
structure Sound (l : Links) : Prop where
  entry : ∀ key r, l.peers.get? key = some r → l.Entry key r
  label : ∀ key r, l.peers.get? key = some r → (l.conns.get r).peerKey = some key
  known : ∀ key r, l.peers.get? key = some r → r ∈ l.delivered.map Prod.fst
  delivered : ∀ r ∈ l.delivered.map Prod.fst, r < l.conns.next ∧ (l.conns.get r).opened = true
  retired : ∀ r ∈ l.retired.map Prod.fst, r < l.conns.next ∧ (l.conns.get r).opened = true
  once : (l.delivered.map Prod.fst).Nodup

/-- The handshake of the stream is going on. -/
structure Shakes (l : Links) (r : Ref) : Prop where
  made : r < l.conns.next
  unopened : (l.conns.get r).opened = false
  unclosed : (l.conns.get r).closed = false

theorem Holds.get (h : l.Holds l') (made : r < l.conns.next) :
    (l'.conns.get r).remotePublicKey = (l.conns.get r).remotePublicKey ∧
      (l'.conns.get r).peerKey = (l.conns.get r).peerKey ∧
      (l'.conns.get r).opened = (l.conns.get r).opened ∧
      (l'.conns.get r).closed = (l.conns.get r).closed := by
  simpa only [mark, Prod.mk.injEq] using h.marks r made

theorem Holds.sound (h : l.Holds l') (sound : l.Sound) : l'.Sound where
  entry key r entered := by
    have before := sound.entry key r (h.peers key r entered)
    obtain ⟨remote, -, opened, closed⟩ := h.get before.made
    refine ⟨before.made.trans_le h.grows, ?_, opened.trans before.opened,
      closed.trans before.unclosed, ?_⟩
    · rw [remote, before.key]
    · rw [h.retired]
      exact before.spared
  label key r entered := by
    have before := h.peers key r entered
    exact (h.get (sound.entry key r before).made).2.1.trans (sound.label key r before)
  known key r entered := by
    rw [h.delivered]
    exact sound.known key r (h.peers key r entered)
  delivered r mem := by
    rw [h.delivered] at mem
    obtain ⟨made, opened⟩ := sound.delivered r mem
    exact ⟨made.trans_le h.grows, (h.get made).2.2.1.trans opened⟩
  retired r mem := by
    rw [h.retired] at mem
    obtain ⟨made, opened⟩ := sound.retired r mem
    exact ⟨made.trans_le h.grows, (h.get made).2.2.1.trans opened⟩
  once := by
    rw [h.delivered]
    exact sound.once

/-- A stream that still shakes hands was never delivered and never retired. -/
theorem Sound.fresh (h : l.Sound) (shakes : l.Shakes r) :
    r ∉ l.delivered.map Prod.fst ∧ r ∉ l.retired.map Prod.fst := by
  constructor
  · intro mem
    exact Bool.false_ne_true (shakes.unopened.symm.trans (h.delivered r mem).2)
  · intro mem
    exact Bool.false_ne_true (shakes.unopened.symm.trans (h.retired r mem).2)

theorem prove_get_of_ne (key : Bytes) (other : k ≠ r) :
    (l.prove r key).conns.get k = l.conns.get k := by
  simp only [prove, Heap.modify_get_of_ne _ _ other]

theorem put_get_of_ne (other : k ≠ r) : (l.put r).conns.get k = l.conns.get k := by
  simp only [put, Heap.modify_get_of_ne _ _ other]

theorem prove_sound (h : l.Sound) (shakes : l.Shakes r) (key : Bytes) : (l.prove r key).Sound := by
  obtain ⟨undelivered, unretired⟩ := h.fresh shakes
  have other : ∀ k ∈ l.delivered.map Prod.fst, k ≠ r := by
    rintro k mem rfl
    exact undelivered mem
  refine ⟨fun h' k entered => ?_, fun h' k entered => ?_, h.known, fun k mem => ?_,
    fun k mem => ?_, h.once⟩
  · obtain ⟨made, proved, opened, unclosed, spared⟩ := h.entry h' k entered
    have same := prove_get_of_ne (l := l) key (other k (h.known h' k entered))
    exact ⟨made, by rw [same, proved], by rw [same, opened], by rw [same, unclosed], spared⟩
  · rw [prove_get_of_ne (l := l) key (other k (h.known h' k entered))]
    exact h.label h' k entered
  · rw [prove_get_of_ne (l := l) key (other k mem)]
    exact h.delivered k mem
  · have apart : k ≠ r := by
      rintro rfl
      exact unretired mem
    rw [prove_get_of_ne (l := l) key apart]
    exact h.retired k mem

/-- A stream without an entry may be retired. -/
theorem retire_sound (h : l.Sound) (made : r < l.conns.next) (opened : (l.conns.get r).opened = true)
    (unentered : ∀ key, l.peers.get? key ≠ some r) (kept : Ref) : (l.retire r kept).Sound := by
  have holds : l.Holds (l.destroy r) := .of_destroy l r
  have destroyed := holds.sound h
  refine ⟨fun key k entered => ?_, destroyed.label, destroyed.known, destroyed.delivered,
    fun k mem => ?_, destroyed.once⟩
  · obtain ⟨made, proved, opened, unclosed, spared⟩ := destroyed.entry key k entered
    refine ⟨made, proved, opened, unclosed, fun mem => ?_⟩
    simp only [retire, List.map_append, List.map_cons, List.map_nil, List.mem_append,
      List.mem_singleton] at mem
    rcases mem with before | rfl
    · exact spared before
    · exact unentered key entered
  · simp only [retire, List.map_append, List.map_cons, List.map_nil, List.mem_append,
      List.mem_singleton] at mem
    rcases mem with before | rfl
    · exact destroyed.retired k before
    · exact ⟨made, (holds.get made).2.2.1.trans opened⟩

/-- A stream whose handshake is done is entered and delivered. -/
theorem put_deliver_sound (h : l.Sound) (made : r < l.conns.next)
    (opened : (l.conns.get r).opened = true) (unclosed : (l.conns.get r).closed = false)
    (undelivered : r ∉ l.delivered.map Prod.fst) (unretired : r ∉ l.retired.map Prod.fst) :
    ((l.put r).deliver r).Sound := by
  have others : ∀ k ≠ r, ((l.put r).deliver r).conns.get k = l.conns.get k :=
    fun k other => put_get_of_ne other
  have here : ((l.put r).deliver r).conns.get r =
      { l.conns.get r with peerKey := some (toHex (l.conns.get r).remotePublicKey) } := by
    simp only [deliver, put, Heap.modify_get_self]
  have entries : ∀ key k, ((l.put r).deliver r).peers.get? key = some k →
      (k = r ∧ key = toHex (l.conns.get r).remotePublicKey) ∨ (k ≠ r ∧ l.peers.get? key = some k) := by
    intro key k entered
    simp only [deliver, put, OrderedMap.get?_set] at entered
    split at entered
    · rename_i under
      exact .inl ⟨(Option.some.inj entered).symm, under⟩
    · refine .inr ⟨?_, entered⟩
      rintro rfl
      exact undelivered (h.known key k entered)
  have firsts : ((l.put r).deliver r).delivered.map Prod.fst = l.delivered.map Prod.fst ++ [r] := by
    simp [deliver, put]
  refine ⟨fun key k entered => ?_, fun key k entered => ?_, fun key k entered => ?_,
    fun k mem => ?_, fun k mem => ?_, ?_⟩
  · rcases entries key k entered with ⟨rfl, rfl⟩ | ⟨other, before⟩
    · exact ⟨made, by rw [here], by rw [here, opened], by rw [here, unclosed], unretired⟩
    · obtain ⟨made, proved, opened, unclosed, spared⟩ := h.entry key k before
      have same := others k other
      exact ⟨made, by rw [same, proved], by rw [same, opened], by rw [same, unclosed], spared⟩
  · rcases entries key k entered with ⟨rfl, rfl⟩ | ⟨other, before⟩
    · rw [here]
    · rw [others k other]
      exact h.label key k before
  · rw [firsts]
    rcases entries key k entered with ⟨rfl, rfl⟩ | ⟨other, before⟩
    · exact List.mem_append_right _ (List.mem_singleton_self k)
    · exact List.mem_append_left _ (h.known key k before)
  · rw [firsts] at mem
    rcases List.mem_append.mp mem with before | last
    · have other : k ≠ r := by
        rintro rfl
        exact undelivered before
      rw [others k other]
      exact h.delivered k before
    · obtain rfl := List.mem_singleton.mp last
      exact ⟨made, by rw [here, opened]⟩
  · have other : k ≠ r := by
      rintro rfl
      exact unretired mem
    rw [others k other]
    exact h.retired k mem
  · rw [firsts]
    exact List.nodup_append.mpr ⟨h.once, List.nodup_singleton r, fun k before k' last same =>
      undelivered (List.mem_singleton.mp last ▸ same ▸ before)⟩

/-- The 'open' event of a stream that shakes hands. -/
theorem track_sound (h : l.Sound) (shakes : l.Shakes r) (key : Bytes) :
    ((l.prove r key).track me r).Sound := by
  have proved := prove_sound h shakes key
  have made : r < (l.prove r key).conns.next := shakes.made
  have here : (l.prove r key).conns.get r =
      { l.conns.get r with remotePublicKey := key, opened := true } := by
    simp only [prove, Heap.modify_get_self]
  have opened : ((l.prove r key).conns.get r).opened = true := by rw [here]
  have unclosed : ((l.prove r key).conns.get r).closed = false := by rw [here, shakes.unclosed]
  obtain ⟨undelivered, unretired⟩ := h.fresh shakes
  have entered : (((l.prove r key).put r).deliver r).Sound :=
    put_deliver_sound proved made opened unclosed undelivered unretired
  cases existing : (l.prove r key).existing? r with
  | none =>
    rw [track_of_alone existing]
    exact entered
  | some k =>
    have other : k ≠ r := existing?_ne existing
    have rival := (Option.filter_eq_some_iff.mp existing).1
    cases rank : preferred me ((l.prove r key).conns.get r)
    · rw [track_of_loses existing rank]
      refine retire_sound proved made opened (fun key' entry => ?_) k
      exact undelivered (proved.known key' r entry)
    · rw [track_of_wins existing rank]
      have swapped : (((l.prove r key).put r).retire k r).deliver r =
          (((l.prove r key).put r).deliver r).retire k r := by
        simp only [deliver, retire, destroy, Heap.modify_get_of_ne _ _ other.symm]
      have same : (((l.prove r key).put r).deliver r).conns.get k = (l.prove r key).conns.get k :=
        put_get_of_ne other
      obtain ⟨madek, underk, openedk, -, -⟩ := proved.entry _ k rival
      rw [swapped]
      refine retire_sound entered madek (by rw [same, openedk]) (fun key' entry => ?_) r
      -- the only entry the rival had was the one that is taken
      simp only [deliver, put, OrderedMap.get?_set] at entry
      split at entry
      · exact other (Option.some.inj entry).symm
      · rename_i elsewhere
        exact elsewhere ((proved.entry key' k entry).key.symm.trans underk)

/-- The 'close' event of a stream takes out its entries, and no other. -/
theorem onClose_entry (h : l.Sound) (made : r < l.conns.next) (unclosed : (l.conns.get r).closed = false)
    {key : Hex} (entered : (l.onClose r).peers.get? key = some k) :
    l.peers.get? key = some k ∧ k ≠ r := by
  have run : l.onClose r = (l.markClosed r).untrack r := by simp [onClose, made, unclosed]
  rw [run] at entered
  have before : l.peers.get? key = some k := untrack_peers (l := l.markClosed r) entered
  refine ⟨before, ?_⟩
  rintro rfl
  have label : ((l.markClosed k).conns.get k).peerKey = some key := by
    simpa [markClosed] using h.label key k before
  rw [untrack_of_entry label before] at entered
  simp [markClosed] at entered

theorem onClose_lists (l : Links) (r : Ref) :
    (l.onClose r).delivered = l.delivered ∧ (l.onClose r).retired = l.retired := by
  unfold onClose untrack
  split
  · split
    · split
      · exact ⟨rfl, rfl⟩
      · exact ⟨rfl, rfl⟩
    · exact ⟨rfl, rfl⟩
  · exact ⟨rfl, rfl⟩

theorem onClose_sound (h : l.Sound) (r : Ref) : (l.onClose r).Sound := by
  by_cases guard : r < l.conns.next ∧ (l.conns.get r).closed = false
  · obtain ⟨made, unclosed⟩ := guard
    have run : l.onClose r = (l.markClosed r).untrack r := by simp [onClose, made, unclosed]
    have lists := l.onClose_lists r
    have opened : ∀ k, ((l.onClose r).conns.get k).opened = (l.conns.get k).opened := by
      intro k
      rw [run, untrack_conns]
      exact l.conns.modify_get_view r k (fun conn => { conn with closed := true }) Conn.opened
        fun _ => rfl
    refine ⟨fun key k entered => ?_, fun key k entered => ?_, fun key k entered => ?_,
      fun k mem => ?_, fun k mem => ?_, ?_⟩
    · obtain ⟨before, other⟩ := onClose_entry h made unclosed entered
      obtain ⟨made, proved, opened, unclosed, spared⟩ := h.entry key k before
      have same : (l.onClose r).conns.get k = l.conns.get k := onClose_get_of_ne other
      refine ⟨by rwa [onClose_next], by rw [same, proved], by rw [same, opened],
        by rw [same, unclosed], by rwa [lists.2]⟩
    · obtain ⟨before, other⟩ := onClose_entry h made unclosed entered
      rw [onClose_get_of_ne other]
      exact h.label key k before
    · rw [lists.1]
      exact h.known key k (onClose_entry h made unclosed entered).1
    · rw [lists.1] at mem
      rw [onClose_next, opened]
      exact h.delivered k mem
    · rw [lists.2] at mem
      rw [onClose_next, opened]
      exact h.retired k mem
    · rw [lists.1]
      exact h.once
  · have same : l.onClose r = l := by
      unfold onClose
      rw [if_neg]
      simpa using guard
    rw [same]
    exact h

/-- A close never takes out the entry of another stream. -/
theorem onClose_spares {key : Hex} (other : k ≠ r) (entered : l.peers.get? key = some k) :
    (l.onClose r).peers.get? key = some k := by
  by_cases own : (l.conns.get r).peerKey = some key
  · unfold onClose
    split
    · rw [untrack_of_other]
      · exact entered
      · intro key' label entry
        have label : (l.conns.get r).peerKey = some key' := by simpa [markClosed] using label
        obtain rfl : key = key' := Option.some.inj (own.symm.trans label)
        exact other (Option.some.inj (entered.symm.trans entry))
    · exact entered
  · rw [onClose_peers_of_ne own]
    exact entered

/-- A stream that is not preferred displaces no entry. -/
theorem onOpen_spares {key : Bytes} {h : Hex}
    (loses : preferred me ((l.prove r key).conns.get r) = false) (entered : l.peers.get? h = some k) :
    (l.onOpen me r key).peers.get? h = some k := by
  unfold onOpen
  split
  · cases existing : (l.prove r key).existing? r with
    | some rival =>
      rw [track_of_loses existing loses]
      exact entered
    | none =>
      rw [track_of_alone existing]
      have free := Option.filter_eq_none_iff.mp existing
      simp only [deliver, put, OrderedMap.get?_set]
      split
      · rename_i under
        subst under
        have own := free k entered
        simp only [ne_eq, decide_eq_true_eq, not_not] at own
        rw [own]
      · exact entered
  · exact entered

theorem onOpen_keeps (key : Bytes) (before : k ∈ l.delivered.map Prod.fst) :
    k ∈ (l.onOpen me r key).delivered.map Prod.fst := by
  have lists : (l.onOpen me r key).delivered = l.delivered ∨
      r < l.conns.next ∧ (l.onOpen me r key).delivered = l.delivered ++ [(r, key)] :=
    onOpen_delivered key
  rcases lists with same | ⟨-, more⟩
  · rw [same]
    exact before
  · rw [more, List.map_append]
    exact List.mem_append_left _ before

/-- What an 'open' event delivers it enters. -/
theorem onOpen_enters {key : Bytes} (mem : k ∈ (l.onOpen me r key).delivered.map Prod.fst) :
    k ∈ l.delivered.map Prod.fst ∨ ∃ h, (l.onOpen me r key).peers.get? h = some k := by
  unfold onOpen at mem ⊢
  split
  · rename_i guard
    simp only [guard, if_true] at mem
    have entered : ∀ l' : Links, (l'.put r).peers.get? (toHex (l'.conns.get r).remotePublicKey) = some r :=
      fun l' => l'.peers.get?_set_self _ r
    cases existing : (l.prove r key).existing? r with
    | none =>
      rw [track_of_alone existing] at mem ⊢
      simp only [deliver, List.map_append, List.map_cons, List.map_nil, List.mem_append,
        List.mem_singleton] at mem
      rcases mem with before | rfl
      · exact .inl before
      · exact .inr ⟨_, entered (l.prove k key)⟩
    | some rival =>
      cases rank : preferred me ((l.prove r key).conns.get r)
      · rw [track_of_loses existing rank] at mem
        exact .inl mem
      · rw [track_of_wins existing rank] at mem ⊢
        simp only [deliver, List.map_append, List.map_cons, List.map_nil, List.mem_append,
          List.mem_singleton] at mem
        rcases mem with before | rfl
        · exact .inl before
        · exact .inr ⟨_, entered (l.prove k key)⟩
  · rename_i guard
    rw [if_neg guard] at mem
    exact .inl mem

end BleSwarm.Links

namespace BleSwarm.Core

variable {env : Env} {effects : Effects} {c c' : Core}

theorem Quiet.holds (q : Quiet c c') : c.links.Holds c'.links := by
  rw [q.links]
  exact .refl c.links

theorem Performs.holding (h : Performs env effects c c') (unclosed : effects.closes = false) :
    c.links.Holds c'.links := by
  induction h with
  | trans _ _ ih ih' => exact ih.trans ih'
  | links c links fades holds alike => exact holds.resolve_left (by simp [unclosed])
  | maybeCycle c serves due => exact (maybeCycle_quiet env c).holds
  | startScan c scans => exact (startScan_radioOnly env c).quiet.holds
  | stopScan c scans => exact (stopScan_radioOnly c).quiet.holds
  | onScanTimer c scans => exact (onScanTimer_radioOnly env c).quiet.holds
  | _ => exact .refl _

theorem reapAllSessions_links (c : Core) : c.reapAllSessions.links = c.links := by
  obtain ⟨sessions, streams, eq⟩ := reapAllSessions_eq c
  rw [eq]

theorem destroyPeers_holds (c : Core) : c.links.Holds c.destroyPeers.links :=
  .of_destroys c.links _

theorem onRadioDown_holds (c : Core) : c.links.Holds c.onRadioDown.links := by
  have reaped : c.onRadioDown.links = c.links.peers.values.foldl Links.destroy c.links :=
    reapAllSessions_links _
  rw [reaped]
  exact .of_destroys c.links _

theorem cleared_holds (l : Links) : l.Holds { l with peers := ∅ } :=
  .of_same l fun _ _ entry => by cases entry

theorem forget_holds (c : Core) : c.links.Holds c.forget.links := by
  have links : c.forget.links = { c.destroyPeers.links with peers := ∅ } := reapAllSessions_links _
  rw [links]
  exact (destroyPeers_holds c).trans (cleared_holds _)

/-- The teardown of a suspend leaves no link. -/
theorem teardown_peers (env : Env) (c : Core) : (c.teardown env).links.peers = ∅ := by
  have unpublished : ∀ c : Core, Quiet c (if env.cfg.platform = .mac then c.unpublish env else c) :=
    fun c => .ite (unpublish_radioOnly env c).quiet (.refl c)
  have ended : Quiet (c.disconnectDevices.dropDevices.silence env).forget (c.teardown env) :=
    (unpublished _).trans ((radio_radioOnly _ _).quiet.trans (issue_quiet _ _))
  rw [ended.links]
  exact congrArg Links.peers (reapAllSessions_links _)

theorem doClose_holds (env : Env) (c : Core) : c.links.Holds (c.doClose env).links := by
  rw [doClose_eq]
  exact (destroyPeers_holds c).trans (cleared_holds _)

theorem holds_spans : Spans fun c c' : Core => c.links.Holds c'.links := ⟨Quiet.holds, Links.Holds.trans⟩

/-- The calls of the owner. -/
theorem Calls.holds (h : Calls env c c') : c.links.Holds c'.links :=
  holds_spans.calls forget_holds (doClose_holds env) h

/-- The 'open' event of a stream makes the link sound, closing or not. -/
theorem onConnOpen_sound (h : c.links.Sound) (r : Ref) (key : Bytes) :
    (c.onConnOpen env r key).links.Sound := by
  simp only [onConnOpen]
  split
  · rename_i guard
    simp only [Bool.and_eq_true, decide_eq_true_eq, Bool.not_eq_true'] at guard
    obtain ⟨⟨made, unopened⟩, unclosed⟩ := guard
    rw [track_links]
    split
    · exact Links.prove_sound h ⟨made, unopened, unclosed⟩ key
    · exact Links.track_sound h ⟨made, unopened, unclosed⟩ key
  · exact h

end BleSwarm.Core

namespace BleSwarm.Transport

open BleSwarm.Core

theorem handle_holds (t : Transport) (env : Env) {e : Event} (unopened : ∀ r key, e ≠ .connOpen r key)
    (unclosed : ∀ r, e ≠ .connClose r) : t.core.links.Holds (t.handle env e).core.links := by
  cases e with
  | serverState s => exact holds_spans.onServerState onRadioDown_holds env _ s
  | centralState s => exact holds_spans.onCentralState onRadioDown_holds env _ s
  | serviceAdd => exact (onServiceAdd_radioOnly _).quiet.holds
  | connOpen r key => exact absurd rfl (unopened r key)
  | connClose r => exact absurd rfl (unclosed r)
  | channelPublish psm => exact .refl _
  | _ => exact (handle_performs t env (by simp [Special]) (by simp)).holding rfl

/-- What a step does to the links: hold them, or what `Links` says of one stream. -/
theorem act_links (t : Transport) (a : Action) :
    t.core.links.Holds (t.act a).core.links ∨
    (∃ i r key, a = .input i ∧ i.event = .connOpen r key ∧
      (t.act a).core = (t.begin i.native).core.onConnOpen (t.env i.now i.native) r key) ∨
    ∃ i r, a = .input i ∧ i.event = .connClose r ∧
      (t.act a).core.links = t.core.links.onClose r := by
  rcases t.act_split a with ⟨i, rfl, -, run⟩ | ⟨i, rfl, -, run⟩ | ⟨-, env, -, -, -, calls⟩
  · rw [run]
    exact .inl (.refl _)
  · rw [run]
    cases event : i.event with
    | connOpen r key => exact .inr (.inl ⟨i, r, key, rfl, event, rfl⟩)
    | connClose r => exact .inr (.inr ⟨i, r, rfl, event, onConnClose_links _ (t.begin i.native).core r⟩)
    | _ =>
      rw [← event]
      exact .inl (handle_holds (t.begin i.native) _ (by simp [event]) (by simp [event]))
  · exact .inl calls.holds

theorem act_sound {t : Transport} (h : t.core.links.Sound) (a : Action) :
    (t.act a).core.links.Sound := by
  rcases act_links t a with holds | ⟨i, r, key, rfl, -, run⟩ | ⟨i, r, rfl, -, run⟩
  · exact holds.sound h
  · rw [run]
    exact onConnOpen_sound (c := (t.begin i.native).core) h r key
  · rw [run]
    exact Links.onClose_sound h r

theorem create_sound (cfg : Config) (topic : Option Bytes) (online : Bool)
    (ids : Ref → PeripheralId) : (create cfg topic online ids).core.links.Sound :=
  ⟨by simp [create], by simp [create], by simp [create], by simp [create], by simp [create],
    List.nodup_nil⟩

/-- A stream is delivered in the step that enters it, and stays so. -/
theorem act_delivered {t : Transport} (h : t.core.links.Sound) (a : Action) (r : Ref) :
    r ∈ (t.act a).core.links.delivered.map Prod.fst ↔ r ∈ t.core.links.delivered.map Prod.fst ∨
      ∃ key, (t.act a).core.links.peers.get? key = some r := by
  constructor
  · intro mem
    rcases act_links t a with holds | ⟨i, k, key, rfl, -, run⟩ | ⟨i, k, rfl, -, run⟩
    · rw [holds.delivered] at mem
      exact .inl mem
    · rw [run] at mem ⊢
      rcases onConnOpen_links (t.env i.now i.native) (t.begin i.native).core k key with
        opens | proves | same
      · rw [opens] at mem ⊢
        exact Links.onOpen_enters mem
      · rw [proves] at mem
        exact .inl mem
      · rw [same] at mem
        exact .inl mem
    · rw [run, (Links.onClose_lists _ _).1] at mem
      exact .inl mem
  · rintro (before | ⟨key, entered⟩)
    · rcases act_links t a with holds | ⟨i, k, key, rfl, -, run⟩ | ⟨i, k, rfl, -, run⟩
      · rw [holds.delivered]
        exact before
      · rw [run]
        rcases onConnOpen_links (t.env i.now i.native) (t.begin i.native).core k key with
          opens | proves | same
        · rw [opens]
          exact Links.onOpen_keeps key before
        · rw [proves]
          exact before
        · rw [same]
          exact before
      · rw [run, (Links.onClose_lists _ _).1]
        exact before
    · exact (act_sound h a).known key r entered

/-- A close takes out no other stream's entry, and a stream that is not preferred displaces
none. -/
def Respects (t : Transport) (a : Action) : Prop :=
  match a with
  | .input i =>
    match i.event with
    | .connClose r => ∀ key k, k ≠ r → t.core.links.peers.get? key = some k →
      (t.act a).core.links.peers.get? key = some k
    | .connOpen r remote =>
      Links.preferred t.cfg.publicKey ((t.core.links.prove r remote).conns.get r) = false →
      ∀ key k, t.core.links.peers.get? key = some k → (t.act a).core.links.peers.get? key = some k
    | _ => True
  | _ => True

theorem act_respects (t : Transport) (a : Action) : t.Respects a := by
  cases a with
  | input i =>
    simp only [Respects]
    cases opened : t.life.opened
    · rw [act_input_unopened opened]
      split
      · exact fun _ _ _ => id
      · exact fun _ _ _ => id
      · trivial
    · rw [act_input opened]
      split
      · rename_i r event
        intro key k other entered
        rw [event]
        have run := onConnClose_links (t.env i.now i.native) (t.begin i.native).core r
        exact run ▸ Links.onClose_spares other entered
      · rename_i r remote event
        intro loses key k entered
        rw [event]
        rcases onConnOpen_links (t.env i.now i.native) (t.begin i.native).core r remote with
          opens | proves | same
        · exact opens ▸ Links.onOpen_spares loses entered
        · exact proves ▸ entered
        · exact same ▸ entered
      · trivial
  | _ => trivial

/-- In every run each entry of `peers` is a live link under the key it proved and no duplicate,
entries are taken out and displaced by nobody else, and what is delivered, once each, are the
streams that were ever entered. -/
theorem peers_sound (cfg : Config) (topic : Option Bytes) (online : Bool)
    (ids : Ref → PeripheralId) (actions : List Action) :
    (∀ key r, (Runs.run act (create cfg topic online ids) actions).core.links.peers.get? key = some r →
      (Runs.run act (create cfg topic online ids) actions).core.links.Entry key r) ∧
    Runs.Each act Respects (create cfg topic online ids) actions ∧
    ((Runs.run act (create cfg topic online ids) actions).core.links.delivered.map Prod.fst).Nodup ∧
    ∀ r, r ∈ (Runs.run act (create cfg topic online ids) actions).core.links.delivered.map Prod.fst ↔
      ∃ n key, (Runs.run act (create cfg topic online ids)
        (actions.take n)).core.links.peers.get? key = some r := by
  have keep : ∀ (t : Transport) a, t.core.links.Sound → (t.act a).core.links.Sound :=
    fun _ a h => act_sound h a
  have start := create_sound cfg topic online ids
  have sound := Runs.always keep start actions
  refine ⟨sound.entry, Runs.each_of_forall act_respects _ actions, sound.once, fun r => ?_⟩
  have entered : ∀ t : Transport, t.core.links.Sound → (∃ key, t.core.links.peers.get? key = some r) →
      r ∈ t.core.links.delivered.map Prod.fst := by
    rintro t h ⟨key, entry⟩
    exact h.known key r entry
  have ever := Runs.ever_iff (P := fun t : Transport => r ∈ t.core.links.delivered.map Prod.fst)
    (Q := fun t => ∃ key, t.core.links.peers.get? key = some r) keep
    (fun _ a h => act_delivered h a r) entered start actions
  rw [ever]
  constructor
  · intro seen
    exact seen.resolve_left (by simp [create])
  · exact .inr

end BleSwarm.Transport
