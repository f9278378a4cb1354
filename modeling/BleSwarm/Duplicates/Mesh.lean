import BleSwarm.Duplicates.Pair
import BleSwarm.Lib.Runs

/-!
# Both ends retire the same duplicate

The links of every device, with an end of every channel at its initiator and one
at its responder. The 'open' event of a channel arrives at each end on its own,
and destroying it at one end closes it at both. No end ever destroys the channel
of the smaller key, so once every event has arrived the two ends agree.
-/

namespace BleSwarm

/-- One end of the channel between two devices, as the end of `device`. -/
structure End (n : Nat) where
  device : Fin n
  remote : Fin n
  isInitiator : Bool
  distinct : device ≠ remote
  deriving DecidableEq

namespace End

variable {n : Nat}

/-- The same channel at the remote. -/
def other (e : End n) : End n := ⟨e.remote, e.device, !e.isInitiator, e.distinct.symm⟩

/-- The channel the other way, at the same device. -/
def twin (e : End n) : End n := ⟨e.device, e.remote, !e.isInitiator, e.distinct⟩

/-- The noise stream the device has for the channel. -/
def ref (e : End n) : Nat := 2 * e.remote.val + e.isInitiator.toNat

/-- The channel was dialed by the device with the smaller key. -/
def ofSmaller (key : Fin n → Bytes) (e : End n) : Bool :=
  e.isInitiator == decide (compare (key e.device) (key e.remote) < 0)

variable {key : Fin n → Bytes} {e f : End n}

@[simp] theorem other_other : e.other.other = e := by simp [other]

@[simp] theorem twin_twin : e.twin.twin = e := by simp [twin]

@[simp] theorem ofSmaller_twin : e.twin.ofSmaller key = !e.ofSmaller key := by
  cases h : e.isInitiator <;> simp [ofSmaller, twin, h]

/-- Both ends give the channel of a pair the same rank. -/
theorem ofSmaller_other (inj : Function.Injective key) :
    e.other.ofSmaller key = e.ofSmaller key := by
  have ne : key e.device ≠ key e.remote := fun eq => e.distinct (inj eq)
  have swap : decide (compare (key e.remote) (key e.device) < 0) =
      !decide (compare (key e.device) (key e.remote) < 0) := by
    simp only [compare_neg_iff]
    rcases lt_or_gt_of_ne ne with lt | gt
    · simp [lt, not_lt_of_gt lt]
    · simp [gt, not_lt_of_gt gt]
  cases h : e.isInitiator <;> simp [ofSmaller, other, h, swap]

theorem ref_inj (h : e.ref = f.ref) : e.remote = f.remote ∧ e.isInitiator = f.isInitiator := by
  unfold ref at h
  have be := Bool.toNat_lt e.isInitiator
  have bf := Bool.toNat_lt f.isInitiator
  have bits : e.isInitiator.toNat = f.isInitiator.toNat := by omega
  refine ⟨Fin.ext (by omega), ?_⟩
  cases he : e.isInitiator <;> cases hf : f.isInitiator <;> simp_all

theorem ref_lt (e : End n) : e.ref < 2 * n := by
  have remote := e.remote.isLt
  have bit := Bool.toNat_lt e.isInitiator
  unfold ref
  omega

theorem twin_ref_ne : e.ref ≠ e.twin.ref := by
  intro h
  have same := (ref_inj h).2
  cases he : e.isInitiator <;> simp [twin, he] at same

/-- An end of a pair is the end of the smaller key's channel or its twin. -/
theorem eq_or_eq_twin (device : e.device = f.device) (remote : e.remote = f.remote) :
    e = f ∨ e = f.twin := by
  obtain ⟨d, r, i, distinct⟩ := e
  obtain ⟨d', r', i', distinct'⟩ := f
  simp only at device remote
  subst device remote
  cases i <;> cases i' <;> simp [twin]

end End

/-- The links of `n` devices. -/
abbrev Mesh (n : Nat) := Fin n → Links

namespace Mesh

variable {n : Nat}

/-- A noise stream for each end of each channel, none of them open yet. -/
def create (n : Nat) : Mesh n := fun _ =>
  { conns := ⟨fun r =>
      { stream := r
        isInitiator := r % 2 = 1
        peripheralId := if r % 2 = 1 then some (r / 2) else none }, 2 * n⟩ }

def conn (m : Mesh n) (e : End n) : Conn := (m e.device).conns.get e.ref

theorem create_isInitiator (e : End n) :
    ((create n e.device).conns.get e.ref).isInitiator = e.isInitiator := by
  cases h : e.isInitiator <;> simp [create, End.ref, h]

inductive Event (n : Nat)
  /-- The 'open' event of a channel is processed at an end. -/
  | opened (e : End n)
  /-- The 'close' event of a channel is processed at an end. -/
  | closed (e : End n)

/-- The 'open' event proves the remote's key. A channel closes once either end
has destroyed it; a stream that is open or closed already does not open. -/
def step (key : Fin n → Bytes) (m : Mesh n) : Event n → Mesh n
  | .opened e =>
    Function.update m e.device ((m e.device).onOpen (key e.device) e.ref (key e.remote))
  | .closed e =>
    if (m.conn e).destroyed || (m.conn e.other).destroyed then
      Function.update m e.device ((m e.device).onClose e.ref)
    else m

/-- What the two ends of every pair are in agreement about. -/
structure Agreed (key : Fin n → Bytes) (m : Mesh n) : Prop where
  paired : ∀ e : End n, e.ofSmaller key = true →
    (m e.device).Paired (key e.device) (key e.remote) e.ref e.twin.ref
  cause : ∀ e, (m.conn e).closed = true →
    (m.conn e).destroyed = true ∨ (m.conn e.other).destroyed = true

namespace Agreed

variable {key : Fin n → Bytes} {m : Mesh n}

theorem create (key : Fin n → Bytes) : Agreed key (create n) where
  paired e smaller := by
    have mine : e.isInitiator = decide (compare (key e.device) (key e.remote) < 0) := by
      simpa [End.ofSmaller] using smaller
    constructor
    · exact End.twin_ref_ne
    · exact ⟨e.ref_lt, mine ▸ create_isInitiator e⟩
    · exact ⟨e.twin.ref_lt, mine ▸ create_isInitiator e.twin⟩
    all_goals simp [Mesh.create]
  cause e closed := by cases closed

/-- The other end of a pair of streams at the same device names another remote. -/
theorem apart {e x : End n} (remote : e.remote ≠ x.remote) (k : Ref)
    (hk : k = e.ref ∨ k = e.twin.ref) : k ≠ x.ref ∧ k ≠ x.twin.ref := by
  rcases hk with rfl | rfl
  · exact ⟨fun eq => remote (End.ref_inj eq).1, fun eq => remote (End.ref_inj eq).1⟩
  · exact ⟨fun eq => remote (End.ref_inj eq).1, fun eq => remote (End.ref_inj eq).1⟩

/-- An 'open' event at `x`: the pair of `x` follows its own rule, other pairs see nothing. -/
theorem opened (inj : Function.Injective key) (h : Agreed key m) (x : End n) :
    Agreed key (m.step key (.opened x)) where
  paired e smaller := by
    by_cases device : e.device = x.device
    · have old := h.paired e smaller
      simp only [step, device, Function.update_self]
      rw [device] at old
      by_cases remote : e.remote = x.remote
      · rw [remote] at old ⊢
        rcases End.eq_or_eq_twin device.symm remote.symm with eq | eq
        · rw [eq] at old ⊢
          exact old.open_winner
        · rw [eq] at old ⊢
          exact old.open_loser
      · have keys : key e.remote ≠ key x.remote := fun eq => remote (inj eq)
        cases rank : x.ofSmaller key
        · have other := h.paired x.twin (by simp [rank])
          rw [End.twin_twin] at other
          exact old.open_other other keys (.inr rfl) fun k hk => (apart remote k hk).symm
        · exact old.open_other (h.paired x rank) keys (.inl rfl) (apart remote)
    · simp only [step, Function.update_of_ne device]
      exact h.paired e smaller
  cause e closed := by
    have flags : ∀ f : End n, ((m.step key (.opened x)).conn f).closed = (m.conn f).closed ∧
        ((m.conn f).destroyed = true → ((m.step key (.opened x)).conn f).destroyed = true) := by
      intro f
      by_cases device : f.device = x.device
      · simp only [conn, step, device, Function.update_self]
        exact Links.onOpen_flags _ _
      · simp only [conn, step, Function.update_of_ne device]
        exact ⟨trivial, id⟩
    exact (h.cause e ((flags e).1 ▸ closed)).imp (flags e).2 (flags e.other).2

/-- A channel that closes was destroyed at one end, so it is not the smaller key's. -/
theorem closed (inj : Function.Injective key) (h : Agreed key m) (x : End n) :
    Agreed key (m.step key (.closed x)) := by
  simp only [Mesh.step]
  split
  · rename_i doomed
    simp only [Bool.or_eq_true] at doomed
    have rank : x.ofSmaller key = false := by
      cases rank : x.ofSmaller key
      · rfl
      · have here := (h.paired x rank).kept.1
        have there := (h.paired x.other (by rw [End.ofSmaller_other inj, rank])).kept.1
        simp [conn, here, End.other] at doomed
        simp [End.other] at there
        simp [doomed] at there
    have pair := h.paired x.twin (by simp [rank])
    rw [End.twin_twin] at pair
    constructor
    · intro e smaller
      by_cases device : e.device = x.device
      · have old := h.paired e smaller
        simp only [device, Function.update_self]
        rw [device] at old
        by_cases remote : e.remote = x.remote
        · rw [remote] at old ⊢
          rcases End.eq_or_eq_twin device.symm remote.symm with eq | eq
          · rw [eq, smaller] at rank
            cases rank
          · rw [eq] at old ⊢
            exact old.close_loser
        · exact old.close_other pair (fun eq => remote (inj eq)) fun k hk => (apart remote k hk).symm
      · simp only [Function.update_of_ne device]
        exact h.paired e smaller
    · intro e hclosed
      have destroyed : ∀ f : End n,
          (conn (Function.update m x.device ((m x.device).onClose x.ref)) f).destroyed =
            (m.conn f).destroyed := by
        intro f
        by_cases device : f.device = x.device
        · simp only [conn, device, Function.update_self]
          exact Links.onClose_destroyed _
        · simp only [conn, Function.update_of_ne device]
      rw [destroyed, destroyed]
      by_cases same : e = x
      · exact same ▸ doomed
      · apply h.cause e
        by_cases device : e.device = x.device
        · have ne : e.ref ≠ x.ref := by
            intro eq
            obtain ⟨remote, direction⟩ := End.ref_inj eq
            exact same (by cases e; cases x; simp_all)
          simp only [conn, device, Function.update_self] at hclosed ⊢
          rwa [Links.onClose_get_of_ne ne] at hclosed
        · simpa only [conn, Function.update_of_ne device] using hclosed
  · exact h

theorem step (inj : Function.Injective key) (h : Agreed key m) (event : Event n) :
    Agreed key (m.step key event) := by
  cases event with
  | opened e => exact h.opened inj e
  | closed e => exact h.closed inj e

theorem run (inj : Function.Injective key) (events : List (Event n)) :
    Agreed key (Runs.run (Mesh.step key) (Mesh.create n) events) :=
  Runs.always (fun _ e h => h.step inj e) (create key) events

end Agreed

/-- No event is outstanding: what was destroyed has closed at both ends, and what
is open at one end and destroyed at none is open at the other. -/
structure Settled (m : Mesh n) : Prop where
  closes : ∀ e, (m.conn e).destroyed = true → (m.conn e).closed = true ∧ (m.conn e.other).closed = true
  opens : ∀ e, (m.conn e).opened = true → (m.conn e).destroyed = false →
    (m.conn e.other).destroyed = false → (m.conn e.other).opened = true

/-- The link each end of the channel of `e` has tracked is this channel. -/
def BothTrack (key : Fin n → Bytes) (m : Mesh n) (e : End n) : Prop :=
  (m e.device).peers.get? (toHex (key e.remote)) = some e.ref ∧
    (m e.remote).peers.get? (toHex (key e.device)) = some e.other.ref

/-- The smaller key's channel is never destroyed, and once every event has arrived
both ends of a pair track the same channel. -/
theorem duplicates_agree (key : Fin n → Bytes) (inj : Function.Injective key)
    (events : List (Event n)) :
    let m := Runs.run (step key) (create n) events
    (∀ e : End n, e.ofSmaller key = true → (m.conn e).destroyed = false) ∧
    (Settled m → ∀ e : End n, e.ofSmaller key = true →
      ((m.conn e).opened = true ∨ (m.conn e.other).opened = true → BothTrack key m e) ∧
      ((m.conn e).opened = false → (m.conn e.other).opened = false →
        (m.conn e.twin).opened = true ∨ (m.conn e.twin.other).opened = true →
          BothTrack key m e.twin)) := by
  intro m
  have h : Agreed key m := Agreed.run inj events
  refine ⟨fun e smaller => (h.paired e smaller).kept.1, fun settled e smaller => ?_⟩
  have smaller' : e.other.ofSmaller key = true := by rw [End.ofSmaller_other inj, smaller]
  have here := h.paired e smaller
  have there := h.paired e.other smaller'
  constructor
  · intro opened
    have both : (m.conn e).opened = true ∧ (m.conn e.other).opened = true := by
      rcases opened with opened | opened
      · exact ⟨opened, settled.opens e opened here.kept.1 there.kept.1⟩
      · have back := settled.opens e.other opened there.kept.1
          (by rw [End.other_other]; exact here.kept.1)
        rw [End.other_other] at back
        exact ⟨back, opened⟩
    exact ⟨here.entry_of_winner both.1, there.entry_of_winner both.2⟩
  · intro absent absent' opened
    -- the larger key's channel is given up only for the smaller key's, which never opened
    have kept : (m.conn e.twin).destroyed = false := by
      cases destroyed : (m.conn e.twin).destroyed
      · rfl
      · exact absurd (here.lost destroyed) (by simpa [conn] using absent)
    have kept' : (m.conn e.twin.other).destroyed = false := by
      cases destroyed : (m.conn e.twin.other).destroyed
      · rfl
      · exact absurd (there.lost destroyed) (by simpa [conn] using absent')
    have both : (m.conn e.twin).opened = true ∧ (m.conn e.twin.other).opened = true := by
      rcases opened with opened | opened
      · exact ⟨opened, settled.opens _ opened kept kept'⟩
      · have back := settled.opens e.twin.other opened kept' (by rwa [End.other_other])
        rw [End.other_other] at back
        exact ⟨back, opened⟩
    have unclosed : (m.conn e.twin).closed = false := by
      cases closed : (m.conn e.twin).closed
      · rfl
      · exact absurd (h.cause _ closed) (by simp [kept, kept'])
    have unclosed' : (m.conn e.twin.other).closed = false := by
      cases closed : (m.conn e.twin.other).closed
      · rfl
      · exact absurd (h.cause _ closed) (by simp [kept, kept'])
    exact ⟨here.entry_of_loser absent both.1 unclosed, there.entry_of_loser absent' both.2 unclosed'⟩

/-- The larger key's channel is delivered at both ends before the smaller key's
opens, and closes at one of them before that. -/
theorem duplicates_agree_late_winner :
    let key : Fin 2 → Bytes := fun d => [Fin.ofNat 256 d.val]
    let e : End 2 := ⟨0, 1, true, by decide⟩
    BothTrack key (Runs.run (step key) (create 2)
      [.opened e.twin, .opened e.twin.other, .opened e, .closed e.twin.other, .opened e.other,
        .closed e.twin]) e := by
  intro key e
  have inj : Function.Injective key := by
    unfold Function.Injective
    decide
  refine ((duplicates_agree key inj _).2 ⟨?_, ?_⟩ e (by decide)).1 (.inl (by decide +kernel))
  · rintro ⟨d, r, i, distinct⟩
    revert d r i
    decide +kernel
  · rintro ⟨d, r, i, distinct⟩
    revert d r i
    decide +kernel

end Mesh

end BleSwarm
