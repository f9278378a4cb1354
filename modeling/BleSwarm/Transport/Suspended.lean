import BleSwarm.Transport.Peers
import BleSwarm.Transport.Yield

/-!
# Links of a suspended transport

`suspend` destroys what is tracked, and a stream that still shakes hands is not. Its
'open' event goes to `_track`, which asks whether the transport closes but not
whether it is suspended. Nothing else delivers or enters a link.
-/

namespace BleSwarm.Transport

open BleSwarm.Core

/-- Every step but the 'open' event of a link. -/
theorem act_fades (t : Transport) (a : Action)
    (unopened : ∀ i r key, a = .input i → i.event ≠ .connOpen r key) :
    t.core.links.Fades (t.act a).core.links := by
  rcases act_links t a with holds | ⟨i, r, key, eq, event, -⟩ | ⟨i, r, -, -, run⟩
  · exact holds.fades
  · exact absurd event (unopened i r key eq)
  · rw [run]
    exact Links.onClose_fades t.core.links r

/-- A transport, and whether a `suspend()` has settled since the last `resume()`. -/
structure Suspension where
  transport : Transport
  settled : Bool := false

namespace Suspension

def act (w : Suspension) (a : Action) : Suspension where
  transport := w.transport.act a
  settled :=
    match a with
    | .resume _ => false
    | .drained call _ _ =>
      w.settled || (w.transport.life.suspended && decide (call ∈ w.transport.life.drains))
    | _ => w.settled

/-- While suspended no link is delivered, and from when the suspend has settled there is none. -/
def NoLink (w : Suspension) (a : Action) : Prop :=
  (w.transport.life.suspended = true →
    (w.act a).transport.core.links.delivered = w.transport.core.links.delivered) ∧
  ((w.act a).settled = true → (w.act a).transport.core.links.peers.size = 0)

/-- The 'open' event makes a link of the stream: its handshake was going on, the transport
does not close, and the link is no duplicate to be destroyed. -/
def links (t : Transport) (r : Ref) (key : Bytes) : Bool :=
  t.life.opened && decide (r < t.core.links.conns.next) && !(t.core.links.conns.get r).opened &&
    !(t.core.links.conns.get r).closed && !t.life.closing && !t.life.closed &&
    !(t.core.links.prove r key).redundant t.cfg.publicKey r

/-- No stream of a suspended transport becomes a link. -/
def NoOpen (w : Suspension) : Action → Prop
  | .input i =>
    match i.event with
    | .connOpen r key => w.transport.life.suspended = true → links w.transport r key = false
    | _ => True
  | _ => True

instance (w : Suspension) (a : Action) : Decidable (w.NoLink a) :=
  inferInstanceAs (Decidable ((_ → _) ∧ (_ → _)))

instance (w : Suspension) (a : Action) : Decidable (w.NoOpen a) := by
  unfold NoOpen
  rcases a with ⟨_, _, event⟩ | _
  · rcases event with _ | _ <;> infer_instance
  all_goals infer_instance

/-- A suspend that has settled and was not resumed left no link. -/
structure Silent (w : Suspension) : Prop where
  suspended : w.settled = true → w.transport.life.suspended = true
  alone : w.settled = true → w.transport.core.links.peers.size = 0

/-- `_track` delivers the stream unless the link is redundant. -/
theorem track_cases (me : Bytes) (l : Links) (r : Ref) (key : Bytes) :
    ((l.prove r key).redundant me r = false ∧
      ((l.prove r key).track me r).delivered = l.delivered ++ [(r, key)]) ∨
    ((l.prove r key).redundant me r = true ∧ l.Fades ((l.prove r key).track me r)) := by
  cases existing : (l.prove r key).existing? r with
  | none =>
    left
    refine ⟨by simp [Links.redundant, existing], ?_⟩
    rw [Links.track_of_alone existing]
    simp [Links.deliver, Links.put, Links.prove]
  | some k =>
    have other := Links.existing?_ne existing
    cases wins : Links.preferred me ((l.prove r key).conns.get r)
    · right
      refine ⟨by simp [Links.redundant, existing, wins], ?_⟩
      rw [Links.track_of_loses existing wins]
      exact .of_same rfl rfl
    · left
      refine ⟨by simp [Links.redundant, wins], ?_⟩
      rw [Links.track_of_wins existing wins]
      simp [Links.deliver, Links.retire, Links.destroy, Links.put, Links.prove, Heap.modify_get,
        other.symm]

/-- An 'open' event delivers a link or leaves what is delivered and entered as it is. -/
theorem connOpen_cases (t : Transport) (i : Input) {r : Ref} {key : Bytes}
    (event : i.event = .connOpen r key) :
    (links t r key = true ∧
      (t.act (.input i)).core.links.delivered = t.core.links.delivered ++ [(r, key)]) ∨
    (links t r key = false ∧ t.core.links.Fades (t.act (.input i)).core.links) := by
  cases opened : t.life.opened
  · right
    refine ⟨by simp [links, opened], ?_⟩
    simp only [Transport.act, input, begin_life, opened]
    exact .of_same rfl rfl
  · have run : (t.act (.input i)).core.links =
        ((t.begin i.native).core.onConnOpen (t.env i.now i.native) r key).links := by
      simp only [Transport.act, input, begin_life, opened, event]
      rfl
    rw [run]
    simp only [onConnOpen]
    split
    · rename_i guard
      have guard : (decide (r < t.core.links.conns.next) && !(t.core.links.conns.get r).opened &&
          !(t.core.links.conns.get r).closed) = true := guard
      rw [track_links]
      split
      · rename_i ends
        have ends : (t.life.closing || t.life.closed) = true := ends
        right
        refine ⟨?_, .of_same rfl rfl⟩
        rcases Bool.or_eq_true_iff.mp ends with closing | closed
        · simp [links, closing]
        · simp [links, closed]
      · rename_i open_
        have open_ : (t.life.closing || t.life.closed) = false := Bool.eq_false_iff.mpr open_
        obtain ⟨unclosing, unclosed⟩ := Bool.or_eq_false_iff.mp open_
        simp only [Bool.and_eq_true, decide_eq_true_eq, Bool.not_eq_true'] at guard
        have decided : links t r key =
            !(t.core.links.prove r key).redundant t.cfg.publicKey r := by
          simp [links, opened, guard, unclosing, unclosed]
        rcases track_cases t.cfg.publicKey t.core.links r key with ⟨single, delivered⟩ | ⟨double, fades⟩
        · exact .inl ⟨by rw [decided, single]; rfl, delivered⟩
        · exact .inr ⟨by rw [decided, double]; rfl, fades⟩
    · rename_i guard
      have guard : ¬ (decide (r < t.core.links.conns.next) && !(t.core.links.conns.get r).opened &&
          !(t.core.links.conns.get r).closed) = true := guard
      right
      refine ⟨?_, .of_same rfl rfl⟩
      have guard := Bool.eq_false_iff.mpr guard
      simp [links, opened, guard]

/-- A suspended transport stays suspended until it is resumed. -/
theorem act_suspended (t : Transport) (a : Action) (unresumed : ∀ now, a ≠ .resume now)
    (suspended : t.life.suspended = true) : (t.act a).life.suspended = true := by
  cases a with
  | resume now => exact absurd rfl (unresumed now)
  | close now =>
    simp only [Transport.act, close]
    split
    · exact suspended
    · split
      · exact suspended
      · exact suspended
  | suspend now native => rfl
  | _ => simpa [Transport.act] using suspended

/-- What a step settles is suspended afterwards. -/
theorem act_settled {w : Suspension} (h : w.Silent) (a : Action) (settled : (w.act a).settled = true) :
    (w.act a).transport.life.suspended = true := by
  cases a with
  | resume now => cases settled
  | drained call now native =>
    simp only [act, Bool.or_eq_true, Bool.and_eq_true] at settled
    exact act_suspended w.transport _ (by simp) (settled.elim h.suspended And.left)
  | _ => exact act_suspended w.transport _ (by simp) (h.suspended settled)

theorem fades_silent {w : Suspension} (h : w.Silent) {l : Links} (fades : w.transport.core.links.Fades l)
    (settled : w.settled = true) : l.peers.size = 0 := by
  have alone := (OrderedMap.size_eq_zero_iff _).mp (h.alone settled)
  exact (OrderedMap.size_eq_zero_iff _).mpr fun key => fades.peers key (alone key)

/-- A step without an 'open' event makes no link, and the end of a drain drops all. -/
theorem noLink_of_fades {w : Suspension} (h : w.Silent) {a : Action}
    (fades : w.transport.core.links.Fades (w.transport.act a).core.links) : w.NoLink a := by
  refine ⟨fun _ => fades.delivered, fun settled => ?_⟩
  by_cases before : w.settled = true
  · exact fades_silent h fades before
  · cases a with
    | drained call now native =>
      simp only [act, Bool.or_eq_true, Bool.and_eq_true, before, false_or,
        decide_eq_true_eq, Bool.false_eq_true] at settled
      have torn : (w.transport.act (.drained call now native)).core.links.peers = ∅ := by
        simp only [Transport.act, drained]
        have mem : call ∈ (w.transport.begin native).life.drains := settled.2
        rw [if_pos mem]
        exact teardown_peers _ _
      simp only [act, torn]
      rfl
    | resume now => cases settled
    | _ => exact absurd settled before

theorem noLink_iff {w : Suspension} (h : w.Silent) (a : Action) : w.NoLink a ↔ w.NoOpen a := by
  by_cases opens : ∃ i r key, a = .input i ∧ i.event = .connOpen r key
  · obtain ⟨i, r, key, rfl, event⟩ := opens
    have condition : w.NoOpen (.input i) ↔
        (w.transport.life.suspended = true → links w.transport r key = false) := by
      simp only [NoOpen, event]
    rw [condition]
    rcases connOpen_cases w.transport i event with ⟨linked, delivered⟩ | ⟨silent, fades⟩
    · constructor
      · rintro ⟨same, -⟩ suspended
        have more := congrArg List.length ((same suspended).symm.trans delivered)
        simp at more
      · intro unsuspended
        refine ⟨fun suspended => ?_, fun settled => ?_⟩
        · exact absurd (linked.symm.trans (unsuspended suspended)) (by decide)
        · exact absurd (linked.symm.trans (unsuspended (h.suspended settled))) (by decide)
    · exact ⟨fun _ _ => silent, fun _ => noLink_of_fades h fades⟩
  · have unopened : ∀ i r key, a = .input i → i.event ≠ .connOpen r key :=
      fun i r key eq event => opens ⟨i, r, key, eq, event⟩
    have holds : w.NoOpen a := by
      cases a with
      | input i =>
        simp only [NoOpen]
        split
        · rename_i r key event
          exact absurd event (unopened i r key rfl)
        · trivial
      | _ => trivial
    exact ⟨fun _ => holds, fun _ => noLink_of_fades h (act_fades w.transport a unopened)⟩

/-- A suspended transport makes no link exactly in the runs in which no handshake that was
going on ends on it with a link. -/
theorem silent_while_suspended_iff (cfg : Config) (topic : Option Bytes) (online : Bool)
    (ids : Ref → PeripheralId) (actions : List Action) :
    Runs.Each act NoLink { transport := create cfg topic online ids } actions ↔
      Runs.Each act NoOpen { transport := create cfg topic online ids } actions :=
  Runs.each_iff (fun _ a h => noLink_iff h a) (fun _ a h quiet => ⟨act_settled h a, quiet.2⟩)
    ⟨by simp, by simp⟩ actions

/-- The suspend settles while a dialed peer still shakes hands, and the handshake ends. -/
theorem handshake_outlives_suspend :
    let cfg := Config.plain (List.replicate 32 1) .gatt .ios
    let remote := List.replicate 32 2
    ¬ Runs.Each act NoLink { transport := create cfg none false id }
      (startThen (dialAnswered cfg 0 7 remote) ++ [.suspend 2000 {}, .drained 0 2300 {},
        .input { now := 2400, event := .connOpen 0 remote }]) := by
  decide +kernel

end Suspension

end BleSwarm.Transport
