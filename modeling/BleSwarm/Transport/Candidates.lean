import BleSwarm.Transport.Outbound.Step
import BleSwarm.Transport.Yield

/-!
# Candidates

The dial window ends with a round of the discoveries that were held for it. The strongest
that may still be dialed is, the others go back to wait for the next window, and the rest
are let go.
-/

namespace BleSwarm

namespace Core

variable {env : Env} {c : Core} {p : Ref}

/-- The peripheral is not linked, not linked by another channel, and neither cools nor is
dialed. -/
def eligible (env : Env) (c : Core) (p : Ref) : Bool := !c.undialable env (c.peripheral p).id

/-- While the window is open. -/
theorem dials_of_open (live : env.halted = false) (room : c.links.peers.size < env.cfg.maxOutbound)
    (window : c.dial.lastDial + dialMinInterval ≤ env.now) : c.dials env p = c.eligible env p := by
  simp [dials, eligible, live, room, window]

theorem onDiscover_of_ineligible (p : Ref) (refused : c.eligible env p = false) :
    c.onDiscover env p = c := by
  have refused : c.undialable env (c.peripheral p).id = true := by simpa [eligible] using refused
  simp only [onDiscover, refused, if_true, ite_self]

theorem onDiscover_of_full (p : Ref) (full : env.cfg.maxOutbound ≤ c.links.peers.size) :
    c.onDiscover env p = c := by
  simp only [onDiscover, full, if_true, ite_self]

/-- Behind the dial of a window the others that are eligible go back to wait. -/
theorem onDiscover_of_late (p : Ref) (live : env.halted = false)
    (room : c.links.peers.size < env.cfg.maxOutbound) (fits : c.eligible env p = true)
    (late : ¬ c.dial.lastDial + dialMinInterval ≤ env.now) :
    ∃ deadline, c.onDiscover env p = c.hold p deadline := by
  have fits : c.undialable env (c.peripheral p).id = false := by simpa [eligible] using fits
  have wait := (wait_pos_iff env.now c.dial.lastDial).mpr late
  unfold onDiscover
  rw [if_neg (by simp [live]), if_neg (by simp [fits]), if_neg (Nat.not_le.mpr room)]
  exact ⟨_, if_pos wait⟩

theorem clearDial_get?_of_ne (c : Core) {id k : PeripheralId} (other : k ≠ id) :
    (c.clearDial id).dial.devices.get? k = c.dial.devices.get? k := by
  have pruned : ∀ c : Core, (c.prune id).dial.devices.get? k = c.dial.devices.get? k := by
    intro c
    unfold prune
    split
    · rfl
    · split
      · exact c.dial.devices.get?_delete_of_ne other
      · rfl
  exact (pruned _).trans (c.dial.devices.get?_modify_of_ne _ other)

/-- A dial changes no other record. -/
theorem dialPeripheral_get?_of_ne (env : Env) (c : Core) {p : Ref} {k : PeripheralId}
    (other : k ≠ (c.peripheral p).id) :
    (c.dialPeripheral env p).dial.devices.get? k = c.dial.devices.get? k := by
  let noted := { c with dial.lastDial := env.now }.updateDevice (c.peripheral p).id fun d =>
    { d with timer := some (p, env.now + connectTimeout) }
  let asked := noted.stopScan.issue (.connect p)
  have before : asked.dial = noted.dial := (stopScan_radioOnly noted).dial
  have begun : asked.dial.devices.get? k = c.dial.devices.get? k := by
    rw [before]
    exact c.dial.devices.get?_set_of_ne _ other
  have central : asked.central = c.central := (stopScan_radioOnly noted).quiet.central
  have here : (asked.peripheral p).id = (c.peripheral p).id := by rw [peripheral, central, peripheral]
  have aborted : (asked.abortDial env p).dial.devices.get? k = asked.dial.devices.get? k := by
    rw [← here] at other
    simp only [abortDial]
    rw [(startScan_radioOnly env _).dial]
    exact (clearDial_get?_of_ne _ other).trans (asked.dial.devices.get?_set_of_ne _ other)
  have run : c.dialPeripheral env p =
      if env.native.connectThrows then asked.abortDial env p else asked := rfl
  rw [run]
  split
  · exact aborted.trans begun
  · exact begun

/-- The others are as eligible behind a dial as before. -/
theorem dialPeripheral_eligible {q : Ref} (c : Core) (other : (c.peripheral q).id ≠ (c.peripheral p).id) :
    (c.dialPeripheral env p).eligible env q = c.eligible env q := by
  have quiet := dialPeripheral_quiet env c p
  have record := dialPeripheral_get?_of_ne env c other
  simp only [eligible, undialable, peripheral, quiet.central, quiet.links] at record ⊢
  rw [record]

/-- What a discovery that is held leaves as it is. -/
theorem hold_rest (p : Ref) (deadline : Nat) (c : Core) :
    (c.hold p deadline).eligible env = c.eligible env ∧ (c.hold p deadline).peripheral = c.peripheral ∧
      (c.hold p deadline).links = c.links ∧ (c.hold p deadline).dial.lastDial = c.dial.lastDial ∧
      (c.hold p deadline).dial.candidates = c.dial.candidates.set (c.peripheral p).id p := by
  simp only [hold]
  split <;> exact ⟨rfl, rfl, rfl, rfl, rfl⟩

/-- A round of discoveries behind the dial of the window. -/
theorem foldl_late (ps : List Ref) (c : Core) (live : env.halted = false)
    (room : c.links.peers.size < env.cfg.maxOutbound)
    (late : ¬ c.dial.lastDial + dialMinInterval ≤ env.now) :
    (ps.foldl (onDiscover env) c).dial.candidates = (ps.filter (c.eligible env)).foldl
      (fun held p => held.set (c.peripheral p).id p) c.dial.candidates := by
  induction ps generalizing c with
  | nil => rfl
  | cons p ps ih =>
    rw [List.foldl_cons]
    cases fits : c.eligible env p with
    | false =>
      rw [onDiscover_of_ineligible p fits, ih c room late, List.filter_cons_of_neg (by simp [fits])]
    | true =>
      obtain ⟨deadline, held⟩ := onDiscover_of_late p live room fits late
      obtain ⟨eligible, peripherals, links, lastDial, candidates⟩ := @hold_rest env p deadline c
      rw [held, ih _ (by rw [links]; exact room) (by rw [lastDial]; exact late), eligible, peripherals,
        candidates, List.filter_cons_of_pos fits, List.foldl_cons]

/-- A round of discoveries of which none is eligible. -/
theorem foldl_ineligible (ps : List Ref) (c : Core) (refused : ∀ p ∈ ps, c.eligible env p = false) :
    ps.foldl (onDiscover env) c = c := by
  induction ps with
  | nil => rfl
  | cons p ps ih =>
    rw [List.foldl_cons, onDiscover_of_ineligible p (refused p List.mem_cons_self)]
    exact ih fun q mem => refused q (List.mem_cons_of_mem p mem)

/-- A round of discoveries with all links taken. -/
theorem foldl_full (ps : List Ref) (c : Core) (full : env.cfg.maxOutbound ≤ c.links.peers.size) :
    ps.foldl (onDiscover env) c = c := by
  induction ps with
  | nil => rfl
  | cons p ps ih =>
    rw [List.foldl_cons, onDiscover_of_full p full]
    exact ih

/-- Behind the window with nothing held. -/
def released (c : Core) : Core := { c with dial.dialTimer := none, dial.candidates := ∅ }

theorem onDialTimer_eq (env : Env) (c : Core) :
    c.onDialTimer env = c.ranked.foldl (onDiscover env) c.released := rfl

/-- Candidates stand under their ids. -/
def Keyed (c : Core) : Prop := ∀ id p, c.dial.candidates.get? id = some p → (c.peripheral p).id = id

theorem Keyed.of_entries (own : ∀ e ∈ c.dial.candidates.entries, (c.peripheral e.2).id = e.1) :
    c.Keyed :=
  fun id p entry => own (id, p) (OrderedMap.mem_entries entry)

theorem Keyed.nodup (keyed : c.Keyed) : (c.ranked.map fun p => (c.peripheral p).id).Nodup := by
  have sorted : c.ranked.Perm c.dial.candidates.values := List.perm_insertionSort _ _
  rw [(sorted.map _).nodup_iff, OrderedMap.values_map_key keyed]
  exact c.dial.candidates.nodup

/-- The strongest of those that are eligible is dialed, and the others go on waiting. -/
theorem onDialTimer_dials (live : env.halted = false) (room : c.links.peers.size < env.cfg.maxOutbound)
    (window : c.dial.lastDial + dialMinInterval ≤ env.now) (keyed : c.Keyed) {best : Ref}
    (found : c.ranked.find? (c.eligible env) = some best) :
    (c.onDialTimer env).outbound.connects = c.outbound.connects ++ [best] ∧
      ∀ id p, (c.onDialTimer env).dial.candidates.get? id = some p ↔
        c.dial.candidates.get? id = some p ∧ c.eligible env p = true ∧ p ≠ best := by
  obtain ⟨fits, front, back, sorted, refused⟩ := List.find?_eq_some_iff_append.mp found
  have distinct := keyed.nodup
  rw [sorted, List.map_append, List.map_cons, List.nodup_middle, List.nodup_cons, List.mem_append] at distinct
  obtain ⟨alone, apart⟩ := distinct
  let dialed := c.released.dialPeripheral env best
  have quiet : Quiet c.released dialed := dialPeripheral_quiet env c.released best
  have refused : ∀ p ∈ front, c.eligible env p = false := fun p mem => by simpa using refused p mem
  have dials : c.released.dials env best = true := (dials_of_open live room window).trans fits
  have run : c.onDialTimer env = back.foldl (onDiscover env) dialed := by
    rw [onDialTimer_eq, sorted, List.foldl_append, List.foldl_cons,
      foldl_ineligible front c.released refused,
      onDiscover_of_dials dials]
  have dialed_outbound : dialed.outbound.connects = c.outbound.connects ++ [best] ∧
      dialed.outbound.lastDial = env.now ∧ dialed.outbound.candidates = ∅ := by
    rcases dialPeripheral_outbound env best c.released with ⟨-, dialed⟩ | ⟨-, cool, -, dialed⟩
    · exact ⟨congrArg Outbound.connects dialed, congrArg Outbound.lastDial dialed,
        congrArg Outbound.candidates dialed⟩
    · exact ⟨congrArg Outbound.connects dialed, congrArg Outbound.lastDial dialed,
        congrArg Outbound.candidates dialed⟩
  obtain ⟨connects, lastDial, empty⟩ := dialed_outbound
  have names : ∀ q, (dialed.peripheral q).id = (c.peripheral q).id := fun q => by
    rw [peripheral, quiet.central]
    rfl
  have other : ∀ q ∈ back, (c.peripheral q).id ≠ (c.peripheral best).id := fun q mem same =>
    alone (.inr (same ▸ List.mem_map_of_mem mem))
  have kept : back.filter (dialed.eligible env) = back.filter (c.eligible env) :=
    List.filter_congr fun q mem => dialPeripheral_eligible c.released (other q mem)
  have late : ¬ dialed.dial.lastDial + dialMinInterval ≤ env.now := by
    have now : dialed.dial.lastDial = env.now := lastDial
    rw [now]
    exact Nat.not_le.mpr (Nat.lt_add_of_pos_right (by decide))
  constructor
  · have held := @foldl_holds env back dialed fun q _ => dialPeripheral_dials best q c.released
    rw [run, held.outside.connects, connects]
  · intro id p
    have candidates : (c.onDialTimer env).dial.candidates =
        (back.filter (c.eligible env)).foldl (fun held p => held.set (c.peripheral p).id p) ∅ := by
      rw [run, foldl_late back dialed live (by rw [quiet.links]; exact room) late, kept]
      have empty : dialed.dial.candidates = ∅ := empty
      simp only [names, empty]
    have fewer : ((back.filter (c.eligible env)).map fun p => (c.peripheral p).id).Nodup :=
      (List.nodup_append.mp apart).2.1.sublist (List.filter_sublist.map _)
    rw [candidates, OrderedMap.get?_foldl_set fewer, List.mem_filter]
    have ranked : ∀ q, q ∈ c.ranked ↔ q ∈ front ∨ q = best ∨ q ∈ back := by simp [sorted]
    constructor
    · rintro (⟨⟨mem, fits⟩, here⟩ | ⟨none, -⟩)
      · have held := Ranking.mem_ranked.mp ((ranked p).mpr (.inr (.inr mem)))
        obtain ⟨k, entry⟩ := OrderedMap.exists_of_mem_values held
        obtain rfl : k = id := (keyed k p entry).symm.trans here
        refine ⟨entry, fits, ?_⟩
        rintro rfl
        exact other p mem rfl
      · cases none
    · rintro ⟨entry, fits, ne⟩
      refine .inl ⟨⟨?_, fits⟩, keyed id p entry⟩
      rcases (ranked p).mp (Ranking.mem_ranked.mpr (OrderedMap.mem_values entry)) with early | here | late
      · have refused : c.eligible env p = false := refused p early
        rw [fits] at refused
        cases refused
      · exact absurd here ne
      · exact late

end Core

namespace Transport

open BleSwarm.Core

/-- The timer of the dial window fires on a running transport when the rate limit is over. -/
structure Due (t : Transport) (i : Input) : Prop where
  opened : t.life.opened = true
  live : t.halted = false
  keyed : t.core.Keyed
  fires : i.event = .dialTimer
  timer : t.core.dial.dialTimer.any (fun deadline => deadline ≤ i.now) = true
  window : t.core.dial.lastDial + dialMinInterval ≤ i.now

/-- With all links taken none is dialed. Otherwise the first of the strongest that are eligible
is dialed, and exactly the others that are eligible are held. -/
def Flushes (t : Transport) (i : Input) : Prop :=
  let c := t.core
  let c' := (t.act (.input i)).core
  let eligible := c.eligible (t.env i.now i.native)
  (t.cfg.maxOutbound ≤ c.links.peers.size → t.dialed (.input i) = []) ∧
  (c.links.peers.size < t.cfg.maxOutbound →
    (t.dialed (.input i) = [] ∧ c'.dial.candidates = ∅ ∧
      ∀ p ∈ c.dial.candidates.values, eligible p = false) ∨
    ∃ front best back, c.dial.candidates.values = front ++ best :: back ∧ eligible best = true ∧
      (∀ p ∈ front, eligible p = true → c.signal p < c.signal best) ∧
      (∀ p ∈ back, eligible p = true → c.signal p ≤ c.signal best) ∧
      t.dialed (.input i) = [best] ∧
      ∀ id p, c'.dial.candidates.get? id = some p ↔
        c.dial.candidates.get? id = some p ∧ eligible p = true ∧ p ≠ best)

theorem Due.flushes {t : Transport} {i : Input} (due : t.Due i) : t.Flushes i := by
  let env := t.env i.now i.native
  let c := (t.begin i.native).core
  have live : env.halted = false := due.live
  have run : (t.act (.input i)).core = c.onDialTimer env := by
    have fires : (t.act (.input i)).core = coreHandler env c .dialTimer := by
      rw [act_input due.opened, due.fires]
      rfl
    have timer : c.dial.dialTimer.any (fun deadline => deadline ≤ i.now) = true := due.timer
    rw [fires]
    unfold coreHandler
    dsimp only
    cases armed : c.dial.dialTimer with
    | none =>
      rw [armed] at timer
      cases timer
    | some deadline =>
      have due : deadline ≤ i.now := by simpa [armed] using timer
      exact if_neg (Nat.not_lt.mpr due)
  unfold Flushes
  dsimp only
  constructor
  · intro full
    rw [dialed, run, onDialTimer_eq, foldl_full c.ranked c.released full]
    rfl
  · intro room
    cases found : c.ranked.find? (c.eligible env) with
    | none =>
      have refused := Ranking.find?_ranked_eq_none.mp found
      refine .inl ⟨?_, ?_, refused⟩
      · rw [dialed, run, onDialTimer_eq, foldl_ineligible c.ranked c.released]
        · rfl
        · exact fun p mem => refused p (Ranking.mem_ranked.mp mem)
      · rw [run, onDialTimer_eq, foldl_ineligible c.ranked c.released]
        · rfl
        · exact fun p mem => refused p (Ranking.mem_ranked.mp mem)
    | some best =>
      obtain ⟨front, back, held, above, below⟩ := Ranking.find?_ranked found
      have fits : c.eligible env best = true := (List.find?_eq_some_iff_append.mp found).1
      obtain ⟨connects, waits⟩ := onDialTimer_dials (c := c) live room due.window due.keyed found
      refine .inr ⟨front, best, back, held, fits, above, below, ?_, ?_⟩
      · rw [dialed, run, connects]
        rfl
      · rw [run]
        exact waits

/-- A transport and the times of the connects it asked for, oldest first. -/
structure Paced where
  transport : Transport
  times : List Nat := []

namespace Paced

def act (w : Paced) (a : Action) : Paced where
  transport := w.transport.act a
  times := w.times ++ (w.transport.dialed a).map fun _ => clock a

/-- The connects keep their distance, and candidates wait for a window. -/
structure Steady (w : Paced) : Prop where
  waiting : w.transport.core.outbound.Waiting
  apart : w.times.Pairwise fun early late => early + dialMinInterval ≤ late
  last : ∀ time ∈ w.times, time ≤ w.transport.core.dial.lastDial

theorem Steady.act {w : Paced} (h : w.Steady) (a : Action) : (w.act a).Steady := by
  have waits : w.transport.outset.Waiting := ⟨h.waiting.keyed, h.waiting.armed⟩
  have idle : (w.transport.act a).core.outbound.connects = [] →
      (w.transport.act a).core.outbound.lastDial = w.transport.core.dial.lastDial →
      (w.act a).times.Pairwise (fun early late => early + dialMinInterval ≤ late) ∧
        ∀ time ∈ (w.act a).times, time ≤ (w.act a).transport.core.dial.lastDial := by
    intro none same
    have times : (w.act a).times = w.times := by simp [Paced.act, dialed, none]
    rw [times]
    refine ⟨h.apart, fun time mem => ?_⟩
    exact (h.last time mem).trans_eq same.symm
  rcases w.transport.act_outbound a with ⟨i, rfl, moves⟩ | ⟨-, drops⟩
  · rcases moves.connects with ⟨none, same⟩ | ⟨p, one, -, -, now, window⟩
    · obtain ⟨apart, last⟩ := idle none same
      exact ⟨moves.waiting waits, apart, last⟩
    · have times : (w.act (.input i)).times = w.times ++ [i.now] := by
        simp [Paced.act, dialed, one, outset, clock]
      refine ⟨moves.waiting waits, ?_, ?_⟩
      · rw [times, List.pairwise_append]
        refine ⟨h.apart, List.pairwise_singleton _ _, fun time mem late here => ?_⟩
        obtain rfl := List.mem_singleton.mp here
        exact (Nat.add_le_add_right (h.last time mem) dialMinInterval).trans window
      · intro time mem
        rw [times, List.mem_append, List.mem_singleton] at mem
        have current : (w.act (.input i)).transport.core.dial.lastDial = i.now := now
        rw [current]
        rcases mem with old | rfl
        · exact ((h.last time old).trans (Nat.le_add_right _ _)).trans window
        · exact le_refl _
  · obtain ⟨apart, last⟩ := idle drops.connects drops.lastDial
    exact ⟨drops.waiting waits, apart, last⟩

end Paced

/-- The dial window lets the strongest candidate go first and loses none that is eligible. In
every run connects keep their distance, and candidates wait for the timer of a window. -/
theorem candidates_strongest_first :
    (∀ (t : Transport) (i : Input), t.Due i → t.Flushes i) ∧
    ∀ (cfg : Config) (topic : Option Bytes) (online : Bool) (ids : Ref → PeripheralId)
      (actions : List Action),
      let w := Runs.run Paced.act { transport := create cfg topic online ids } actions
      w.times.Pairwise (fun early late => early + dialMinInterval ≤ late) ∧
        (w.transport.core.dial.candidates.size ≠ 0 → w.transport.core.dial.dialTimer.isSome = true) ∧
        w.transport.core.Keyed := by
  refine ⟨fun t i due => due.flushes, fun cfg topic online ids actions => ?_⟩
  have start : Paced.Steady { transport := create cfg topic online ids } :=
    ⟨.of_empty rfl, List.Pairwise.nil, fun time mem => by cases mem⟩
  have keep : ∀ (w : Paced) a, w.Steady → (w.act a).Steady := fun w a h => h.act a
  have steady := Runs.always keep start actions
  exact ⟨steady.apart, steady.waiting.armed, steady.waiting.keyed⟩

/-- Three devices are found while the window is shut behind a first dial, and the window ends. -/
theorem nearest_of_three_first :
    let cfg := Config.plain (List.replicate 32 1) .gatt .ios
    let t := Runs.run act (create cfg none false id) (startThen [.discover 6 none, .discover 7 (some (-80)),
      .discover 8 (some (-40)), .discover 9 none])
    let i : Input := { now := 1500, event := .dialTimer }
    t.Flushes i ∧ t.dialed (.input i) = [8] := by
  intro cfg t i
  refine ⟨candidates_strongest_first.1 t i ⟨?_, ?_, ?_, rfl, ?_, ?_⟩, ?_⟩
  · decide +kernel
  · decide +kernel
  · exact .of_entries (by decide +kernel)
  · decide +kernel
  · decide +kernel
  · decide +kernel

end Transport

end BleSwarm
