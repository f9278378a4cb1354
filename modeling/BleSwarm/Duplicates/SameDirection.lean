import BleSwarm.Links
import Mathlib.Logic.Relator

/-!
# Duplicates of one direction

Two dials of one device can both get past HELLO, so a pair may open two channels
with the same initiator. The rule of `track` sees the direction only, and which
of the two an end gives up then depends on the order in which they open there.
-/

namespace BleSwarm.Links

variable {me remote : Bytes} {l : Links} {x y : Ref} {isInitiator : Bool}

/-- A stream of the given direction that has not opened yet. -/
structure Fresh (remote : Bytes) (isInitiator : Bool) (r : Ref) (l : Links) : Prop where
  bound : r < l.conns.next
  unopened : (l.conns.get r).opened = false
  unclosed : (l.conns.get r).closed = false
  kept : (l.conns.get r).destroyed = false
  direction : (l.conns.get r).isInitiator = isInitiator
  untracked : l.peers.get? (toHex remote) ≠ some r

/-- The channel is of the direction that `track` prefers. -/
def wins (me remote : Bytes) (isInitiator : Bool) : Bool :=
  isInitiator == decide (compare me remote < 0)

/-- What one 'open' event does to the entry of the remote and to any stream. -/
theorem open_fresh (me : Bytes) (h : Fresh remote isInitiator x l) :
    (l.onOpen me x remote).peers.get? (toHex remote) =
        (if (l.peers.get? (toHex remote)).isSome && !wins me remote isInitiator
          then l.peers.get? (toHex remote) else some x) ∧
      ((l.onOpen me x remote).conns.get x).destroyed =
        ((l.peers.get? (toHex remote)).isSome && !wins me remote isInitiator) ∧
      ∀ k, k ≠ x → ((l.onOpen me x remote).conns.get k).destroyed =
        ((l.conns.get k).destroyed ||
          (decide (l.peers.get? (toHex remote) = some k) && wins me remote isInitiator)) := by
  have opens : l.onOpen me x remote = (l.prove x remote).track me x := by
    simp [onOpen, h.bound, h.unopened, h.unclosed]
  have rank : preferred me ((l.prove x remote).conns.get x) = wins me remote isInitiator := by
    simp [preferred, wins, prove, h.direction]
  rw [opens]
  cases entry : l.peers.get? (toHex remote) with
  | none =>
    have alone : (l.prove x remote).existing? x = none := by simp [existing?, prove, entry]
    rw [track_of_alone alone]
    simp +contextual [deliver, put, prove, Heap.modify_get, h.kept]
  | some z =>
    have zx : z ≠ x := fun eq => h.untracked (eq ▸ entry)
    have existing : (l.prove x remote).existing? x = some z := by
      simp [existing?, prove, entry, zx]
    cases rule : wins me remote isInitiator
    · rw [track_of_loses existing (rank.trans rule)]
      simp +contextual [retire, destroy, prove, Heap.modify_get, entry]
    · rw [track_of_wins existing (rank.trans rule)]
      refine ⟨by simp [deliver, retire, destroy, put, prove], ?_, ?_⟩
      · simp [deliver, retire, destroy, put, prove, Heap.modify_get, h.kept, zx.symm]
      · intro k hk
        by_cases hz : k = z
        · subst hz
          simp [deliver, retire, destroy, put, prove, Heap.modify_get]
        · have hz' : ¬ z = k := fun eq => hz eq.symm
          simp [deliver, retire, destroy, put, prove, Heap.modify_get, hk, hz, hz']

/-- Two streams of one direction to `remote`, neither of them open yet. -/
structure Pending (remote : Bytes) (isInitiator : Bool) (x y : Ref) (l : Links) : Prop where
  ne : x ≠ y
  first : Fresh remote isInitiator x l
  second : Fresh remote isInitiator y l

theorem Pending.symm (h : Pending remote isInitiator x y l) : Pending remote isInitiator y x l :=
  ⟨h.ne.symm, h.second, h.first⟩

/-- Both 'open' events at one end, in the order given. -/
def openBoth (me remote : Bytes) (first second : Ref) (l : Links) : Links :=
  (l.onOpen me first remote).onOpen me second remote

/-- The link with `remote` that an end has tracked and not given up. -/
def Keeps (l : Links) (remote : Bytes) (r : Ref) : Prop :=
  l.peers.get? (toHex remote) = some r ∧ (l.conns.get r).destroyed = false

/-- The second of two channels opens where the first has opened. -/
theorem fresh_second (me : Bytes) (h : Pending remote isInitiator x y l) :
    Fresh remote isInitiator y (l.onOpen me x remote) := by
  obtain ⟨entry, -, -⟩ := open_fresh me h.first
  have same : (l.onOpen me x remote).conns.get y = l.conns.get y :=
    onOpen_get_of_ne h.ne.symm h.second.untracked
  constructor
  · rw [onOpen_next]
    exact h.second.bound
  · rw [same]
    exact h.second.unopened
  · rw [same]
    exact h.second.unclosed
  · rw [same]
    exact h.second.kept
  · rw [same]
    exact h.second.direction
  · rw [entry]
    split
    · exact h.second.untracked
    · exact fun eq => h.ne (Option.some.inj eq)

/-- A channel of the winning direction replaces what is there, one of the losing
direction gives way to it. -/
theorem openBoth_destroyed (me : Bytes) (h : Pending remote isInitiator x y l) :
    ((openBoth me remote x y l).conns.get x).destroyed =
        (wins me remote isInitiator || (l.peers.get? (toHex remote)).isSome) ∧
      ((openBoth me remote x y l).conns.get y).destroyed = !wins me remote isInitiator := by
  obtain ⟨entry, lost, -⟩ := open_fresh me h.first
  obtain ⟨-, lost', others⟩ := open_fresh me (fresh_second me h)
  have untracked := h.first.untracked
  unfold openBoth
  rw [others x h.ne, lost', lost, entry]
  cases rule : wins me remote isInitiator <;> cases old : l.peers.get? (toHex remote) <;>
    simp_all

/-- Of the winning direction the channel that opened last is kept, of the losing direction the one
that opened first, where there is no other link to keep. -/
theorem openBoth_keeps (me : Bytes) (h : Pending remote isInitiator x y l) (r : Ref) :
    (openBoth me remote x y l).Keeps remote r ↔
      if wins me remote isInitiator then r = y
      else if l.peers.get? (toHex remote) = none then r = x
      else l.Keeps remote r := by
  obtain ⟨entry, -, others⟩ := open_fresh me h.first
  obtain ⟨entry', -, others'⟩ := open_fresh me (fresh_second me h)
  obtain ⟨destroyed, destroyed'⟩ := openBoth_destroyed me h
  have last : (openBoth me remote x y l).peers.get? (toHex remote) =
      ((l.onOpen me x remote).onOpen me y remote).peers.get? (toHex remote) := rfl
  rw [entry', entry] at last
  cases rule : wins me remote isInitiator with
  | true =>
    simp only [rule, Bool.not_true, Bool.and_false, Bool.false_eq_true, if_false] at last destroyed'
    rw [if_pos rfl]
    constructor
    · exact fun keeps => (Option.some.inj (last.symm.trans keeps.1)).symm
    · rintro rfl
      exact ⟨last, destroyed'⟩
  | false =>
    rw [if_neg Bool.false_ne_true]
    cases old : l.peers.get? (toHex remote) with
    | none =>
      simp only [rule, old, Option.isSome_none, Option.isSome_some, Bool.not_false, Bool.and_true,
        Bool.false_eq_true, if_false, if_true, Bool.false_or] at last destroyed
      rw [if_pos rfl]
      constructor
      · exact fun keeps => (Option.some.inj (last.symm.trans keeps.1)).symm
      · rintro rfl
        exact ⟨last, destroyed⟩
    | some z =>
      have zx : z ≠ x := fun eq => h.first.untracked (eq ▸ old)
      have zy : z ≠ y := fun eq => h.second.untracked (eq ▸ old)
      have kept : ((openBoth me remote x y l).conns.get z).destroyed = (l.conns.get z).destroyed := by
        rw [openBoth, others' z zy, others z zx]
        simp [rule]
      simp only [rule, old, Option.isSome_some, Bool.not_false, Bool.and_true, if_true] at last
      rw [if_neg (by simp), Keeps, Keeps, last, old]
      refine and_congr_right fun same => ?_
      obtain rfl := Option.some.inj same
      rw [kept]

/-- The two 'open' events at an end, `x` first or `y` first. -/
def openInOrder (me remote : Bytes) (x y : Ref) (xFirst : Bool) (l : Links) : Links :=
  if xFirst then openBoth me remote x y l else openBoth me remote y x l

theorem openInOrder_keeps (me : Bytes) (h : Pending remote isInitiator x y l) (xFirst : Bool) (r : Ref) :
    (openInOrder me remote x y xFirst l).Keeps remote r ↔
      if wins me remote isInitiator then r = (if xFirst then y else x)
      else if l.peers.get? (toHex remote) = none then r = (if xFirst then x else y)
      else l.Keeps remote r := by
  cases xFirst with
  | true => exact openBoth_keeps me h r
  | false => exact openBoth_keeps me h.symm r

/-- There is a channel that both ends keep. The streams at the ends of one channel are related by
`channels`. -/
def Agree (channels : Ref → Ref → Prop) (a b : Bytes) (la lb : Links) : Prop :=
  ∃ ra rb, channels ra rb ∧ la.Keeps b ra ∧ lb.Keeps a rb

/-- Both ends see the same initiator, so both rank its channels alike. -/
theorem wins_swap {a b : Bytes} (ne : a ≠ b) : wins b a false = wins a b true := by
  simp only [wins, compare_neg_iff]
  rcases lt_or_gt_of_ne ne with lt | gt
  · simp [lt, not_lt_of_gt lt]
  · simp [gt, not_lt_of_gt gt]

theorem openInOrder_destroyed (me : Bytes) (h : Pending remote isInitiator x y l) (xFirst : Bool) :
    ((openInOrder me remote x y xFirst l).conns.get x).destroyed =
        (if xFirst then wins me remote isInitiator || (l.peers.get? (toHex remote)).isSome
          else !wins me remote isInitiator) ∧
      ((openInOrder me remote x y xFirst l).conns.get y).destroyed =
        (if xFirst then !wins me remote isInitiator
          else wins me remote isInitiator || (l.peers.get? (toHex remote)).isSome) := by
  cases xFirst with
  | true => exact openBoth_destroyed me h
  | false => exact (openBoth_destroyed me h.symm).symm

section Ends

variable {a b : Bytes} {channels : Ref → Ref → Prop} {la lb : Links} {xa ya xb yb : Ref}

/-- Each end picks one of the two channels. -/
theorem channels_iff (unique : Relator.BiUnique channels) (ne : xa ≠ ya) (hx : channels xa xb)
    (hy : channels ya yb) (pickA pickB : Bool) :
    channels (if pickA then xa else ya) (if pickB then xb else yb) ↔ pickA = pickB := by
  have crossed : ¬ channels xa yb := fun here => ne (unique.1 here hy)
  have crossed' : ¬ channels ya xb := fun here => ne (unique.1 hx here)
  cases pickA <;> cases pickB <;> simp [hx, hy, crossed, crossed']

/-- Channels of the winning direction replace each other and whatever else was tracked. -/
theorem agree_iff_of_wins (unique : Relator.BiUnique channels) (winning : compare a b < 0)
    (ha : Pending b true xa ya la) (hb : Pending a false xb yb lb) (hx : channels xa xb)
    (hy : channels ya yb) (orderA orderB : Bool) :
    Agree channels a b (openInOrder a b xa ya orderA la) (openInOrder b a xb yb orderB lb) ↔
      orderA = orderB := by
  have rule : wins a b true = true := by simp [wins, winning]
  have rule' : wins b a false = true :=
    (wins_swap ((compare_neg_iff a b).mp winning).ne).trans rule
  simp only [Agree, openInOrder_keeps a ha, openInOrder_keeps b hb, rule, rule', if_true]
  rw [← channels_iff unique ha.ne.symm hy hx orderA orderB]
  constructor
  · rintro ⟨_, _, channel, rfl, rfl⟩
    exact channel
  · exact fun channel => ⟨_, _, channel, rfl, rfl⟩

/-- Channels of the losing direction give way to each other and to what is tracked. -/
theorem agree_iff_of_loses (ne : a ≠ b) (unique : Relator.BiUnique channels)
    (losing : ¬ compare a b < 0) (ha : Pending b true xa ya la) (hb : Pending a false xb yb lb)
    (hx : channels xa xb) (hy : channels ya yb) (orderA orderB : Bool) :
    Agree channels a b (openInOrder a b xa ya orderA la) (openInOrder b a xb yb orderB lb) ↔
      orderA = orderB ∧ (la.peers.get? (toHex b) = none ∧ lb.peers.get? (toHex a) = none) ∨
        Agree channels a b la lb := by
  have rule : wins a b true = false := by simp [wins, losing]
  have rule' : wins b a false = false := (wins_swap ne).trans rule
  simp only [Agree, openInOrder_keeps a ha, openInOrder_keeps b hb, rule, rule', Bool.false_eq_true,
    if_false]
  cases oldA : la.peers.get? (toHex b) with
  | none =>
    have alone : ¬ ∃ ra rb, channels ra rb ∧ la.Keeps b ra ∧ lb.Keeps a rb := by
      rintro ⟨ra, rb, -, keeps, -⟩
      cases oldA.symm.trans keeps.1
    cases oldB : lb.peers.get? (toHex a) with
    | none =>
      simp only [if_true, and_true, alone, or_false]
      rw [← channels_iff unique ha.ne hx hy orderA orderB]
      constructor
      · rintro ⟨_, _, channel, rfl, rfl⟩
        exact channel
      · exact fun channel => ⟨_, _, channel, rfl, rfl⟩
    | some z =>
      simp only [if_true, reduceCtorEq, if_false, and_false, alone, or_false, iff_false]
      rintro ⟨_, rb, channel, rfl, keeps⟩
      cases orderA with
      | true =>
        obtain rfl := unique.2 channel hx
        exact hb.first.untracked keeps.1
      | false =>
        obtain rfl := unique.2 channel hy
        exact hb.second.untracked keeps.1
  | some z =>
    cases oldB : lb.peers.get? (toHex a) with
    | none =>
      have alone : ¬ ∃ ra rb, channels ra rb ∧ la.Keeps b ra ∧ lb.Keeps a rb := by
        rintro ⟨ra, rb, -, -, keeps⟩
        cases oldB.symm.trans keeps.1
      simp only [if_true, reduceCtorEq, if_false, false_and, and_false, alone, or_false, iff_false]
      rintro ⟨ra, _, channel, keeps, rfl⟩
      cases orderB with
      | true =>
        obtain rfl := unique.1 channel hx
        exact ha.first.untracked keeps.1
      | false =>
        obtain rfl := unique.1 channel hy
        exact ha.second.untracked keeps.1
    | some z' => simp

/-- Two ends that see the same initiator agree on a channel exactly when the two open in one order at
both, and are of the winning direction or alone, or when they are of the losing direction and the
ends agreed before. Each of the two is then destroyed at both ends or at none. -/
theorem same_direction_agree_iff (ne : a ≠ b) (unique : Relator.BiUnique channels)
    (ha : Pending b true xa ya la) (hb : Pending a false xb yb lb) (hx : channels xa xb)
    (hy : channels ya yb) (orderA orderB : Bool) :
    let la' := openInOrder a b xa ya orderA la
    let lb' := openInOrder b a xb yb orderB lb
    (Agree channels a b la' lb' ↔
      orderA = orderB ∧ (compare a b < 0 ∨
        la.peers.get? (toHex b) = none ∧ lb.peers.get? (toHex a) = none) ∨
      ¬ compare a b < 0 ∧ Agree channels a b la lb) ∧
    (Agree channels a b la' lb' →
      (la'.conns.get xa).destroyed = (lb'.conns.get xb).destroyed ∧
      (la'.conns.get ya).destroyed = (lb'.conns.get yb).destroyed) := by
  intro la' lb'
  obtain ⟨lostA, lostA'⟩ := openInOrder_destroyed a ha orderA
  obtain ⟨lostB, lostB'⟩ := openInOrder_destroyed b hb orderB
  rw [wins_swap ne] at lostB lostB'
  by_cases winning : compare a b < 0
  · have rule : wins a b true = true := by simp [wins, winning]
    have agree := agree_iff_of_wins unique winning ha hb hx hy orderA orderB
    refine ⟨by simpa [winning] using agree, fun agreed => ?_⟩
    obtain rfl := agree.mp agreed
    rw [lostA, lostA', lostB, lostB', rule]
    exact ⟨rfl, rfl⟩
  · have rule : wins a b true = false := by simp [wins, winning]
    have agree := agree_iff_of_loses ne unique winning ha hb hx hy orderA orderB
    refine ⟨by simpa [winning] using agree, fun agreed => ?_⟩
    rw [lostA, lostA', lostB, lostB', rule]
    rcases agree.mp agreed with ⟨rfl, oldA, oldB⟩ | ⟨ra, rb, -, keepsA, keepsB⟩
    · rw [oldA, oldB]
      exact ⟨rfl, rfl⟩
    · rw [keepsA.1, keepsB.1]
      cases orderA <;> cases orderB <;> exact ⟨rfl, rfl⟩

end Ends

/-- An end with two streams of one direction and nothing tracked. -/
def twoDials (isInitiator : Bool) : Links :=
  { conns :=
      ⟨fun r => { stream := r, isInitiator, peripheralId := if isInitiator then some r else none }, 2⟩ }

theorem twoDials_pending (remote : Bytes) (isInitiator : Bool) :
    Pending remote isInitiator 0 1 (twoDials isInitiator) :=
  ⟨by decide, ⟨by simp [twoDials], rfl, rfl, rfl, rfl, by simp [twoDials]⟩,
    ⟨by simp [twoDials], rfl, rfl, rfl, rfl, by simp [twoDials]⟩⟩

theorem biUnique_eq : Relator.BiUnique (Eq : Ref → Ref → Prop) :=
  ⟨fun _ _ _ h h' => h.trans h'.symm, fun _ _ _ h h' => h.symm.trans h'⟩

/-- Opening in one order at both ends, both keep the channel that opened last. -/
theorem same_direction_same_order :
    Agree Eq [0] [1] (openInOrder [0] [1] 0 1 true (twoDials true))
      (openInOrder [1] [0] 0 1 true (twoDials false)) :=
  (same_direction_agree_iff (by decide) biUnique_eq (twoDials_pending _ _) (twoDials_pending _ _) rfl rfl
    true true).1.mpr (.inl ⟨rfl, .inl (by decide)⟩)

/-- Opening in opposite orders, the ends give up one channel each and keep none. -/
theorem opposite_orders_disagree :
    let la := openInOrder [0] [1] 0 1 true (twoDials true)
    let lb := openInOrder [1] [0] 0 1 false (twoDials false)
    (la.conns.get 0).destroyed = true ∧ (lb.conns.get 1).destroyed = true ∧
      ¬ Agree Eq [0] [1] la lb := by
  intro la lb
  refine ⟨by decide +kernel, by decide +kernel, ?_⟩
  rintro ⟨r, _, rfl, ⟨entryA, -⟩, entryB, -⟩
  have lastA : la.peers.get? (toHex [1]) = some 1 := by decide +kernel
  have lastB : lb.peers.get? (toHex [0]) = some 0 := by decide +kernel
  obtain rfl := Option.some.inj (lastA.symm.trans entryA)
  cases lastB.symm.trans entryB

end BleSwarm.Links
