import BleSwarm.Transport.Calls
import BleSwarm.Transport.Performs.Handlers

/-!
# Outbound dials as seen from outside

What a dial is about: its timer and its cooldown, the candidates that wait for the next
window, the connects that were asked for and the streams that were bound to central
sessions. The operations of the dial policy are functions of this view.
-/

namespace BleSwarm

@[ext]
structure Outbound where
  /-- The dial timers. -/
  timers : PeripheralId → Option (Ref × Nat)
  /-- `coolUntil`, 0 without a record. -/
  cools : PeripheralId → Nat
  candidates : OrderedMap PeripheralId Ref
  dialTimer : Option Nat
  lastDial : Nat
  connects : List Ref
  /-- The peripherals and sessions that streams were bound to, oldest first. -/
  bound : List (Ref × Ref)
  ids : Ref → PeripheralId

namespace Outbound

/-- The dial of a peripheral is over, and cools until then. -/
def settle (o : Outbound) (id : PeripheralId) (cool : Nat) : Outbound :=
  { o with timers := Function.update o.timers id none, cools := Function.update o.cools id cool }

/-- A stream is bound, which ends the cooldown on a running transport. -/
def bind (o : Outbound) (halted : Bool) (p sess : Ref) : Outbound :=
  { o with
    timers := Function.update o.timers (o.ids p) none
    cools := if halted then o.cools else Function.update o.cools (o.ids p) 0
    bound := o.bound ++ [(p, sess)] }

def dial (o : Outbound) (p : Ref) (now : Nat) : Outbound :=
  { o with
    timers := Function.update o.timers (o.ids p) (some (p, now + connectTimeout))
    lastDial := now
    connects := o.connects ++ [p] }

def hold (o : Outbound) (p : Ref) (deadline : Nat) : Outbound :=
  { o with
    candidates := o.candidates.set (o.ids p) p
    dialTimer := if o.dialTimer.isSome then o.dialTimer else some deadline }

/-- No dial is in flight and nothing is held. -/
def cleared (o : Outbound) : Outbound :=
  { o with timers := fun _ => none, candidates := ∅, dialTimer := none }

end Outbound

namespace Core

def outbound (c : Core) : Outbound where
  timers id := (c.dial.devices.get? id).bind Device.timer
  cools id := ((c.dial.devices.get? id).map Device.coolUntil).getD 0
  candidates := c.dial.candidates
  dialTimer := c.dial.dialTimer
  lastDial := c.dial.lastDial
  connects := c.out.filterMap Command.connects
  bound := boundStreams c.streams
  ids p := (c.peripheral p).id

/-- The dials are as before. -/
def SameDials (c c' : Core) : Prop := c'.outbound = c.outbound

variable {env : Env} {c c' c'' : Core}

namespace SameDials

theorem refl (c : Core) : c.SameDials c := rfl

theorem trans (h : c.SameDials c') (h' : c'.SameDials c'') : c.SameDials c'' := Eq.trans h' h

theorem ite {p : Prop} [Decidable p] {a b : Core} (ha : c.SameDials a) (hb : c.SameDials b) :
    c.SameDials (if p then a else b) := by
  split
  · exact ha
  · exact hb

theorem foldl {α : Type*} {f : Core → α → Core} (step : ∀ c a, SameDials c (f c a)) (c : Core)
    (as : List α) : c.SameDials (as.foldl f c) :=
  Runs.foldl_related refl trans step c as

theorem iterate {f : Core → Core} (step : ∀ c, SameDials c (f c)) (n : Nat) (c : Core) :
    c.SameDials (f^[n] c) :=
  Runs.iterate_related refl trans step n c

/-- Go on with an operation, whatever the core. -/
theorem andThen (h : c.SameDials c') {f : Core → Core} (op : ∀ c, SameDials c (f c)) :
    c.SameDials (f c') :=
  h.trans (op c')

end SameDials

/-! Elementary changes. -/

theorem issue_sameDials (c : Core) {command : Command} (other : command.connects = none) :
    c.SameDials (c.issue command) := by
  have same : (c.issue command).out.filterMap Command.connects =
      c.out.filterMap Command.connects := by
    simp [issue, other]
  simp only [SameDials, outbound, same]
  rfl

theorem dial_sameDials (c : Core) {dial : Dial} (same : dial.outlook = c.dial.outlook) :
    c.SameDials { c with dial } := by
  simp only [Dial.outlook, Prod.mk.injEq] at same
  obtain ⟨timers, cools, candidates, dialTimer, lastDial⟩ := same
  exact Outbound.ext timers cools candidates dialTimer lastDial rfl rfl rfl

theorem streams_sameDials (c : Core) {streams : Heap Stream}
    (same : boundStreams streams = boundStreams c.streams) : c.SameDials { c with streams } :=
  Outbound.ext rfl rfl rfl rfl rfl rfl same rfl

theorem central_sameDials (c : Core) {central : Central}
    (same : ∀ p, (central.peripherals p).id = (c.peripheral p).id) :
    c.SameDials { c with central } :=
  Outbound.ext rfl rfl rfl rfl rfl rfl rfl (funext same)

theorem setPeripheral_sameDials (p : Ref) {f : Peripheral → Peripheral} (c : Core)
    (keep : ∀ q, (f q).id = q.id) : c.SameDials (c.setPeripheral p f) := by
  refine central_sameDials c fun k => ?_
  dsimp only
  rw [Function.update_apply]
  split
  · rename_i here
    rw [here, keep]
  · rfl

/-- The radio connects to nobody by itself. -/
theorem RadioOnly.sameDials (h : c.RadioOnly c') : c.SameDials c' := by
  obtain ⟨more, out, peerless⟩ := h.out
  have none : more.filterMap Command.connects = [] :=
    List.filterMap_eq_nil_iff.mpr fun command mem => Command.connects_of_peerless (peerless command mem)
  have connects : c'.out.filterMap Command.connects = c.out.filterMap Command.connects := by
    rw [out, List.filterMap_append, none, List.append_nil]
  simp only [SameDials, outbound, peripheral, h.dial, h.quiet.streams, h.quiet.central, connects]

theorem maybeCycle_sameDials (c : Core) : c.SameDials (c.maybeCycle env) :=
  .ite rfl (cycle_radioOnly env { c with server.cyclePending := false }).sameDials

end Core

/-- Everything but what is known of dials. -/
def Effects.unsettled : Effects := { Effects.all with settles := false }

namespace Core

variable {env : Env} {c c' : Core}

theorem Performs.sameDials {effects : Effects} (h : Performs env effects c c')
    (still : effects.settles = false) : c.SameDials c' := by
  induction h with
  | refl c => exact .refl c
  | trans _ _ ih ih' => exact ih.trans ih'
  | issue c minor => exact issue_sameDials c (Command.connects_of_minor minor)
  | connect c p live settles => simp [still] at settles
  | sendOpen c p id payload starts begins => exact issue_sameDials c rfl
  | askChannel c p psm begins => exact issue_sameDials c rfl
  | maybeCycle c serves due => exact maybeCycle_sameDials c
  | startScan c scans => exact (startScan_radioOnly env c).sameDials
  | stopScan c scans => exact (stopScan_radioOnly c).sameDials
  | onScanTimer c scans => exact (onScanTimer_radioOnly env c).sameDials
  | dial c dial calm steady strays outlook =>
    exact dial_sameDials c (outlook.resolve_left (by simp [still]))
  | streams c streams joins flows makes opens =>
    exact streams_sameDials c (makes.bound.resolve_left (by simp [still]))
  | channels c streams acceptors readers joins carried makes channels =>
    exact (streams_sameDials c (makes.bound.resolve_left (by simp [still]))).trans rfl
  | central c central keeps => exact central_sameDials c keeps.ids
  | _ => rfl

theorem SameDials.of_performs (env : Env) (h : Performs env .unsettled c c') : c.SameDials c' :=
  h.sameDials rfl

/-! The operations of the dial policy. -/

theorem prune_sameDials (id : PeripheralId) (c : Core) : c.SameDials (c.prune id) := by
  obtain ⟨dial, pruned, -, outlook⟩ := prune_dial id c
  rw [pruned]
  exact dial_sameDials c outlook

theorem clearDial_outbound (id : PeripheralId) (c : Core) : (c.clearDial id).outbound =
    { c.outbound with timers := Function.update c.outbound.timers id none } := by
  rw [clearDial, prune_sameDials id]
  have record : ∀ k, ((c.modifyDevice id fun d => { d with timer := none }).dial.devices.get? k).bind
        Device.timer = Function.update c.outbound.timers id none k ∧
      (((c.modifyDevice id fun d => { d with timer := none }).dial.devices.get? k).map
        Device.coolUntil).getD 0 = c.outbound.cools k := by
    intro k
    simp only [modifyDevice, OrderedMap.get?_modify, Function.update_apply, outbound]
    split
    · rename_i here
      subst here
      cases c.dial.devices.get? k <;> exact ⟨rfl, rfl⟩
    · exact ⟨rfl, rfl⟩
  simp only [outbound, record]
  rfl

/-- A record gets another cooldown and then loses its timer. -/
theorem settle_outbound (id : PeripheralId) (cool : Nat) {f : Device → Device}
    (cools : (f ((c.dial.devices.get? id).getD {})).coolUntil = cool) :
    ((c.updateDevice id f).clearDial id).outbound = c.outbound.settle id cool := by
  rw [clearDial_outbound]
  have timers : Function.update (c.updateDevice id f).outbound.timers id none =
      Function.update c.outbound.timers id none := by
    funext k
    simp only [Function.update_apply, outbound, updateDevice, OrderedMap.get?_set]
    split <;> rfl
  have cools : (c.updateDevice id f).outbound.cools = Function.update c.outbound.cools id cool := by
    funext k
    simp only [Function.update_apply, outbound, updateDevice, OrderedMap.get?_set]
    split
    · exact cools
    · rfl
  exact Outbound.ext timers cools rfl rfl rfl rfl rfl rfl

/-- How long an abort lets a peripheral cool. -/
theorem backoff_range (now failures : Nat) {base : Nat} (least : dialCooldownBaseLonely ≤ base) :
    now + dialCooldownBaseLonely ≤ now + min dialCooldownMax (base * Nat.pow 2 (min 4 failures)) ∧
      now + min dialCooldownMax (base * Nat.pow 2 (min 4 failures)) ≤ now + dialCooldownMax := by
  have grows : base ≤ base * Nat.pow 2 (min 4 failures) :=
    Nat.le_mul_of_pos_right base (Nat.two_pow_pos _)
  have capped : dialCooldownBaseLonely ≤ dialCooldownMax := by decide
  exact ⟨Nat.add_le_add_left (le_min capped (least.trans grows)) now,
    Nat.add_le_add_left (Nat.min_le_left _ _) now⟩

/-- A cooldown that begins now. -/
def Cooldown (env : Env) (cool : Nat) : Prop :=
  env.now + dialCooldownBaseLonely ≤ cool ∧ cool ≤ env.now + dialCooldownMax

theorem abortDial_outbound (env : Env) (p : Ref) (c : Core) : ∃ cool, Cooldown env cool ∧
    (c.abortDial env p).outbound = c.outbound.settle (c.peripheral p).id cool := by
  have least : dialCooldownBaseLonely ≤ if c.linked then dialCooldownBase else dialCooldownBaseLonely := by
    split <;> decide
  let failures := ((c.dial.devices.get? (c.peripheral p).id).getD {}).failures + 1
  refine ⟨_, backoff_range env.now (failures - 1) least, ?_⟩
  simp only [abortDial]
  rw [(startScan_radioOnly env _).sameDials, disconnect, issue_sameDials _ rfl]
  exact settle_outbound (c.peripheral p).id _ rfl

theorem endCentral_outbound (env : Env) (p : Ref) (sess : Option Ref) (keep : Bool) (c : Core) :
    (c.endCentral env p sess keep).outbound =
      c.outbound.settle (c.peripheral p).id (env.now + dialCooldownMax) := by
  let closed := (c.closeSession p sess).setPeripheral p fun q => { q with session := none }
  have stays : c.SameDials closed := by
    refine .of_performs env ((closeSession_performs p sess c).trans (setPeripheral_performs p ?_ _))
    exact fun _ => ⟨rfl, .inr rfl, .inl rfl⟩
  have same : (closed.peripheral p).id = (c.peripheral p).id :=
    congrFun (congrArg Outbound.ids stays) p
  let ended := (closed.updateDevice (closed.peripheral p).id fun d => { d with
    coolUntil := env.now + dialCooldownMax
    peripheral := if keep then some p else none }).clearDial (closed.peripheral p).id
  have hung : ended.SameDials (if keep then ended else ended.disconnect p) :=
    .ite (.refl ended) (issue_sameDials ended rfl)
  calc (c.endCentral env p sess keep).outbound
      = ended.outbound := hung.trans (startScan_radioOnly env _).sameDials
    _ = closed.outbound.settle (closed.peripheral p).id (env.now + dialCooldownMax) :=
        settle_outbound _ _ rfl
    _ = c.outbound.settle (c.peripheral p).id (env.now + dialCooldownMax) := by rw [same, stays]

/-- The record of a peripheral that is linked no longer cools. -/
theorem onChannel_outbound (st : Ref) (isInitiator : Bool) (id : PeripheralId) (announced : Bytes)
    (c : Core) : (c.onChannel env st isInitiator (some id) announced).1.outbound = { c.outbound with
      cools := if env.halted then c.outbound.cools else Function.update c.outbound.cools id 0 } := by
  unfold onChannel
  split
  · exact SameDials.of_performs env (destroyStream_performs c st)
  · refine Eq.trans (startScan_radioOnly env _).sameDials
      (Outbound.ext ?_ ?_ rfl rfl rfl rfl rfl rfl)
    · funext k
      simp only [outbound, updateDevice, OrderedMap.get?_set]
      split
      · rename_i here
        subst here
        cases c.dial.devices.get? k <;> rfl
      · rfl
    · funext k
      simp only [outbound, updateDevice, OrderedMap.get?_set, Function.update_apply]
      split <;> rfl

theorem bindCentralStream_outbound (p st : Ref) (announced : Bytes) (c : Core) :
    (c.bindCentralStream env p st announced).outbound = { c.outbound with
      timers := Function.update c.outbound.timers (c.peripheral p).id none
      cools := if env.halted then c.outbound.cools
        else Function.update c.outbound.cools (c.peripheral p).id 0 } := by
  let named := c.setPeripheral p fun q => { q with stream := some st }
  have stays : c.SameDials named := setPeripheral_sameDials p c fun _ => rfl
  have same : (named.peripheral p).id = (c.peripheral p).id :=
    congrFun (congrArg Outbound.ids stays) p
  let opened := (named.clearDial (named.peripheral p).id).onChannel env st true
    (some (named.peripheral p).id) announced
  have noted : opened.1.SameDials (opened.1.setPeripheral p fun q => { q with conn := opened.2 }) :=
    setPeripheral_sameDials p _ fun _ => rfl
  have run : (c.bindCentralStream env p st announced).outbound = opened.1.outbound := noted
  rw [run, onChannel_outbound, clearDial_outbound, same, stays]

/-- A stream of the central side is made and bound. -/
theorem bind_outbound (p sess : Ref) {s : Stream} (owner : s.owner = .central p sess)
    (announced : Bytes) (c : Core) :
    (bindCentralStream env { c with streams := c.streams.alloc s } p c.streams.next announced).outbound =
      c.outbound.bind env.halted p sess := by
  have bound : boundStreams (c.streams.alloc s) = c.outbound.bound ++ [(p, sess)] := by
    rw [boundStreams_alloc, owner]
    rfl
  rw [bindCentralStream_outbound]
  exact Outbound.ext rfl rfl rfl rfl rfl rfl bound rfl

/-- A dial that the radio takes. -/
theorem dialPeripheral_outbound (env : Env) (p : Ref) (c : Core) :
    env.native.connectThrows = false ∧
      (c.dialPeripheral env p).outbound = c.outbound.dial p env.now ∨
    env.native.connectThrows = true ∧ ∃ cool, Cooldown env cool ∧
      (c.dialPeripheral env p).outbound =
        (c.outbound.dial p env.now).settle (c.peripheral p).id cool := by
  let noted := { c with dial.lastDial := env.now }.updateDevice (c.peripheral p).id fun d =>
    { d with timer := some (p, env.now + connectTimeout) }
  let dialed := noted.stopScan.issue (.connect p)
  have stopped : noted.SameDials noted.stopScan := (stopScan_radioOnly noted).sameDials
  have connects : (noted.stopScan.issue (.connect p)).out.filterMap Command.connects =
      noted.outbound.connects ++ [p] := by
    rw [issue, List.filterMap_append]
    exact congrArg (· ++ [p]) (congrArg Outbound.connects stopped)
  have timers : noted.outbound.timers = (c.outbound.dial p env.now).timers := by
    funext k
    simp only [outbound, noted, updateDevice, OrderedMap.get?_set, Outbound.dial,
      Function.update_apply]
    split <;> rfl
  have cools : noted.outbound.cools = c.outbound.cools := by
    funext k
    simp only [outbound, noted, updateDevice, OrderedMap.get?_set]
    split
    · rename_i here
      rw [here]
      cases c.dial.devices.get? (c.peripheral p).id <;> rfl
    · rfl
  have asked : dialed.outbound = c.outbound.dial p env.now := by
    have frame : dialed.outbound =
        { noted.stopScan.outbound with connects := noted.outbound.connects ++ [p] } :=
      Outbound.ext rfl rfl rfl rfl rfl connects rfl rfl
    rw [frame, stopped]
    exact Outbound.ext timers cools rfl rfl rfl rfl rfl rfl
  have same : (dialed.peripheral p).id = (c.peripheral p).id :=
    congrFun (congrArg Outbound.ids asked) p
  have run : c.dialPeripheral env p =
      if env.native.connectThrows then dialed.abortDial env p else dialed := rfl
  cases throws : env.native.connectThrows with
  | false =>
    refine .inl ⟨rfl, ?_⟩
    rw [run, throws]
    exact asked
  | true =>
    obtain ⟨cool, cooldown, aborted⟩ := abortDial_outbound env p dialed
    refine .inr ⟨rfl, cool, cooldown, ?_⟩
    rw [run, throws, if_pos rfl, aborted, asked, same]

theorem hold_outbound (p : Ref) (deadline : Nat) (c : Core) :
    (c.hold p deadline).outbound = c.outbound.hold p deadline := by
  unfold hold
  cases armed : c.dial.dialTimer with
  | none =>
    refine Outbound.ext ?_ ?_ ?_ ?_ ?_ ?_ ?_ ?_
    all_goals simp [outbound, Outbound.hold, armed, peripheral]
  | some due =>
    refine Outbound.ext ?_ ?_ ?_ ?_ ?_ ?_ ?_ ?_
    all_goals simp [outbound, Outbound.hold, armed, peripheral]

/-- The dial timers of some records are cleared. -/
theorem foldl_clearDial (entries : List (PeripheralId × Device)) (c : Core) :
    (entries.foldl (fun c e => if e.2.timer.isSome then c.clearDial e.1 else c) c).outbound =
      { c.outbound with
        timers := fun id =>
          if entries.any fun e => e.2.timer.isSome && decide (e.1 = id) then none
          else c.outbound.timers id } := by
  induction entries generalizing c with
  | nil => simp
  | cons e entries ih =>
    rw [List.foldl_cons, ih]
    split
    · rename_i timed
      rw [clearDial_outbound]
      refine Outbound.ext (funext fun id => ?_) rfl rfl rfl rfl rfl rfl rfl
      dsimp only
      rw [List.any_cons, timed, Bool.true_and]
      by_cases here : id = e.1
      · rw [here, Function.update_self, decide_eq_true rfl, Bool.true_or, if_pos rfl, ite_self]
      · rw [Function.update_of_ne here, decide_eq_false (Ne.symm here), Bool.false_or]
    · rename_i untimed
      refine Outbound.ext (funext fun id => ?_) rfl rfl rfl rfl rfl rfl rfl
      dsimp only
      rw [List.any_cons, Bool.eq_false_iff.mpr untimed, Bool.false_and, Bool.false_or]

/-- A central error ends every dial in flight, whichever it was about. -/
theorem onCentralError_outbound (c : Core) :
    (c.onCentralError true).outbound = { c.outbound with timers := fun _ => none } := by
  have run : (c.onCentralError true).outbound = _ := foldl_clearDial c.dial.devices.entries c
  rw [run]
  refine Outbound.ext (funext fun id => ?_) rfl rfl rfl rfl rfl rfl rfl
  simp only
  split
  · rfl
  · rename_i untimed
    cases entry : c.dial.devices.get? id with
    | none => simp [outbound, entry]
    | some d =>
      have mem := OrderedMap.mem_entries entry
      cases timer : d.timer with
      | none => simp [outbound, entry, timer]
      | some due =>
        rw [List.any_eq_true] at untimed
        exact absurd ⟨_, mem, by simp [timer]⟩ untimed

theorem clearDeviceTimers_outbound (c : Core) :
    c.clearDeviceTimers.outbound = c.outbound.cleared := by
  have timers : c.clearDeviceTimers.outbound.timers = fun _ => none := by
    funext id
    cases entry : c.clearDeviceTimers.dial.devices.get? id with
    | none => simp [outbound, entry]
    | some d => simp [outbound, entry, (clearDeviceTimers_idle c).timers id d entry]
  let stop := fun (devices : OrderedMap PeripheralId Device) id =>
    devices.modify id fun d => { d with timer := none }
  have stopped : ∀ (ids : List PeripheralId) (devices : OrderedMap PeripheralId Device) id,
      ((ids.foldl stop devices).get? id).map Device.coolUntil =
        (devices.get? id).map Device.coolUntil := by
    intro ids
    induction ids with
    | nil => exact fun _ _ => rfl
    | cons k ids ih =>
      intro devices id
      rw [List.foldl_cons, ih, OrderedMap.get?_modify]
      split
      · rename_i here
        rw [here]
        cases devices.get? k <;> rfl
      · rfl
  have cools : c.clearDeviceTimers.outbound.cools = c.outbound.cools := by
    funext id
    exact congrArg (fun cool : Option Nat => cool.getD 0) (stopped c.dial.devices.keys c.dial.devices id)
  exact Outbound.ext timers cools rfl rfl rfl rfl rfl rfl

end Core

end BleSwarm
