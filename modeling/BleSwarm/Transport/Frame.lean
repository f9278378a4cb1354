import BleSwarm.Transport.Step

/-!
# What the radio and the dial policy leave alone

Scanning, advertising, dialing and the notify queue never touch a session, a
channel, a stream or a link. `Quiet` says so of one operation, and every
operation that is built from quiet ones alone is quiet.
-/

namespace BleSwarm

/-- A command to the radio, to the native server at large or to the owner. -/
def Command.peerless : Command → Bool
  | .startScan _ | .stopScan | .startAdvertising _ | .stopAdvertising | .addService _
  | .publishChannel | .unpublishChannel _ | .emitUpdate | .emitRadioCycled => true
  | _ => false

namespace Core

/-- Everything but the radio, the dial records, the listener's psm, the notify queue and
the commands issued is as before. -/
structure Quiet (c c' : Core) : Prop where
  central : c'.central = c.central
  links : c'.links = c.links
  streams : c'.streams = c.streams
  table : c'.server.table = c.server.table
  sessions : c'.server.sessions = c.server.sessions
  acceptors : c'.server.acceptors = c.server.acceptors
  readers : c'.server.readers = c.server.readers

/-- What a quiet operation leaves alone. -/
def rest (c : Core) :=
  (c.central, c.links, c.streams, c.server.table, c.server.sessions, c.server.acceptors,
    c.server.readers)

namespace Quiet

variable {c c' c'' : Core}

theorem of_rest (same : c'.rest = c.rest) : c.Quiet c' := by
  simp only [rest, Prod.mk.injEq] at same
  obtain ⟨central, links, streams, table, sessions, acceptors, readers⟩ := same
  exact ⟨central, links, streams, table, sessions, acceptors, readers⟩

theorem refl (c : Core) : c.Quiet c := .of_rest rfl

theorem trans (h : c.Quiet c') (h' : c'.Quiet c'') : c.Quiet c'' where
  central := h'.central.trans h.central
  links := h'.links.trans h.links
  streams := h'.streams.trans h.streams
  table := h'.table.trans h.table
  sessions := h'.sessions.trans h.sessions
  acceptors := h'.acceptors.trans h.acceptors
  readers := h'.readers.trans h.readers

theorem ite {p : Prop} [Decidable p] {a b : Core} (ha : c.Quiet a) (hb : c.Quiet b) :
    c.Quiet (if p then a else b) := by
  split
  · exact ha
  · exact hb

theorem foldl {α : Type*} {f : Core → α → Core} (h : ∀ c a, Quiet c (f c a)) (c : Core)
    (as : List α) : c.Quiet (as.foldl f c) :=
  Runs.foldl_related refl trans h c as

end Quiet

/-- What is newly issued comes last and satisfies `P`. -/
def Says (P : Command → Prop) (c c' : Core) : Prop :=
  ∃ more, c'.out = c.out ++ more ∧ ∀ command ∈ more, P command

namespace Says

variable {P : Command → Prop} {c c' c'' : Core}

theorem of_same (out : c'.out = c.out) : Says P c c' :=
  ⟨[], out.trans (List.append_nil c.out).symm, List.forall_mem_nil _⟩

theorem refl (c : Core) : Says P c c := .of_same rfl

theorem trans (h : Says P c c') (h' : Says P c' c'') : Says P c c'' := by
  obtain ⟨more, out, all⟩ := h
  obtain ⟨more', out', all'⟩ := h'
  refine ⟨more ++ more', by rw [out', out, List.append_assoc], fun command mem => ?_⟩
  exact (List.mem_append.mp mem).elim (all command) (all' command)

theorem mono {Q : Command → Prop} (h : Says P c c') (weaker : ∀ command, P command → Q command) :
    Says Q c c' := by
  obtain ⟨more, out, all⟩ := h
  exact ⟨more, out, fun command mem => weaker command (all command mem)⟩

theorem issue (c : Core) {command : Command} (new : P command) : Says P c (c.issue command) :=
  ⟨[command], rfl, List.forall_mem_singleton.mpr new⟩

theorem after (h : Says P c' c'') (same : c'.out = c.out) : Says P c c'' :=
  (Says.of_same same).trans h

end Says

/-- Only the radio and the listener change: no psm is new, and no peer has a part in what is
issued. -/
structure RadioOnly (c c' : Core) : Prop where
  quiet : Quiet c c'
  dial : c'.dial = c.dial
  gatt : c'.gatt = c.gatt
  pending : c'.server.cyclePending = c.server.cyclePending
  psm : ∀ port, c'.server.psm = some port → c.server.psm = some port
  out : Says (fun command => command.peerless = true) c c'

namespace RadioOnly

variable {c c' c'' : Core}

theorem of_rest (same : (c'.rest, c'.dial, c'.gatt, c'.server.cyclePending, c'.server.psm, c'.out) =
    (c.rest, c.dial, c.gatt, c.server.cyclePending, c.server.psm, c.out)) : c.RadioOnly c' := by
  simp only [Prod.mk.injEq] at same
  obtain ⟨rest, dial, gatt, pending, psm, out⟩ := same
  exact ⟨.of_rest rest, dial, gatt, pending, fun _ known => psm ▸ known, .of_same out⟩

theorem refl (c : Core) : c.RadioOnly c := .of_rest rfl

theorem trans (h : c.RadioOnly c') (h' : c'.RadioOnly c'') : c.RadioOnly c'' where
  quiet := h.quiet.trans h'.quiet
  dial := h'.dial.trans h.dial
  gatt := h'.gatt.trans h.gatt
  pending := h'.pending.trans h.pending
  psm port known := h.psm port (h'.psm port known)
  out := h.out.trans h'.out

theorem ite {p : Prop} [Decidable p] {a b : Core} (ha : c.RadioOnly a) (hb : c.RadioOnly b) :
    c.RadioOnly (if p then a else b) := by
  split
  · exact ha
  · exact hb

end RadioOnly

variable (env : Env) (c : Core)

theorem issue_radioOnly {command : Command} (peerless : command.peerless = true) :
    c.RadioOnly (c.issue command) :=
  ⟨.of_rest rfl, rfl, rfl, rfl, fun _ => id, .issue c peerless⟩

/-! Scanning, advertising and the listener. -/

theorem radio_radioOnly (radio : Radio) : c.RadioOnly { c with radio } := .of_rest rfl

theorem armScanRestart_radioOnly : c.RadioOnly (c.armScanRestart env) := radio_radioOnly c _

theorem startScan_radioOnly : c.RadioOnly (c.startScan env) := by
  unfold startScan
  refine .ite (.refl c) (.ite (.refl c) ?_)
  exact ((radio_radioOnly c _).trans (issue_radioOnly _ rfl)).trans (armScanRestart_radioOnly env _)

theorem stopScan_radioOnly : c.RadioOnly c.stopScan := by
  unfold stopScan
  exact .ite ((radio_radioOnly c _).trans (issue_radioOnly _ rfl)) (.refl c)

theorem onScanTimer_radioOnly : c.RadioOnly (c.onScanTimer env) := by
  have stopped := radio_radioOnly c { c.radio with scanTimer := none }
  apply stopped.trans
  refine .ite (.refl _) (.ite (armScanRestart_radioOnly env _) (.ite (.ite ?_ ?_) ?_))
  · exact (stopScan_radioOnly _).trans (armScanRestart_radioOnly env _)
  · exact startScan_radioOnly env _
  · exact (stopScan_radioOnly _).trans (startScan_radioOnly env _)

theorem setOnline_radioOnly (online : Bool) : c.RadioOnly (c.setOnline env online) := by
  refine .ite (.refl c) ((radio_radioOnly c { c.radio with online }).trans ?_)
  exact .ite (.refl _) (.ite (startScan_radioOnly env _) (armScanRestart_radioOnly env _))

theorem maybeAdvertise_radioOnly : c.RadioOnly c.maybeAdvertise := by
  unfold maybeAdvertise
  exact .ite (.refl c) ((radio_radioOnly c _).trans (issue_radioOnly _ rfl))

theorem publish_radioOnly : c.RadioOnly (c.publish env) := .ite (.refl c) (issue_radioOnly c rfl)

theorem unpublish_radioOnly : c.RadioOnly (c.unpublish env) := by
  unfold unpublish
  split
  · exact .refl c
  · have dropped : ∀ c : Core, c.RadioOnly { c with server.psm := none } := fun c =>
      ⟨.of_rest rfl, rfl, rfl, rfl, fun _ none => (by cases none), .of_same rfl⟩
    exact (RadioOnly.ite (issue_radioOnly c rfl) (.refl c)).trans (dropped _)

theorem cycle_radioOnly : c.RadioOnly (c.cycle env) :=
  (unpublish_radioOnly env c).trans (publish_radioOnly env _)

theorem startServer_radioOnly : c.RadioOnly (c.startServer env) := by
  unfold startServer
  refine .ite (.refl c) (.ite (.refl c) (.ite (.refl c) ?_))
  have added : c.RadioOnly (if c.radio.serviceAdded then c
      else c.issue (.addService (env.cfg.toServiceUUID none))) :=
    .ite (.refl c) (issue_radioOnly c rfl)
  exact .ite (added.trans (publish_radioOnly env _)) added

theorem onServiceAdd_radioOnly : c.RadioOnly c.onServiceAdd :=
  (radio_radioOnly c _).trans (maybeAdvertise_radioOnly _)

theorem onState_radioOnly (raw : AdapterState) : c.RadioOnly (c.onState raw) :=
  .ite (.refl c) ((radio_radioOnly c _).trans (issue_radioOnly _ rfl))

theorem scheduleSelfHeal_radioOnly : c.RadioOnly (c.scheduleSelfHeal env) :=
  .ite (.refl c) (.ite (.refl c) ((radio_radioOnly c _).trans (issue_radioOnly _ rfl)))

theorem doResume_radioOnly : c.RadioOnly (c.doResume env) := by
  have hunting := radio_radioOnly c
    { c.radio with advertising := false, huntUntil := env.now + huntWindow }
  refine hunting.trans (.ite (.refl _) ?_)
  have cycled : ∀ c : Core, c.RadioOnly (if env.cfg.pipe = .l2cap then c.cycle env else c) :=
    fun c => .ite (cycle_radioOnly env c) (.refl c)
  exact ((((cycled _).trans (maybeAdvertise_radioOnly _)).trans (startScan_radioOnly env _)).trans
    (radio_radioOnly _ _)).trans (issue_radioOnly _ rfl)

theorem doOpen_radioOnly (server central : AdapterState) :
    c.RadioOnly (c.doOpen env server central) :=
  (((radio_radioOnly c _).trans (startServer_radioOnly env _)).trans
    (startScan_radioOnly env _)).trans
    (radio_radioOnly _ _)

theorem silence_radioOnly : c.RadioOnly (c.silence env) := by
  have halted : ∀ c : Core, c.RadioOnly (if env.life.opened then c.issue .stopAdvertising else c) :=
    fun c => .ite (issue_radioOnly c rfl) (.refl c)
  exact ((stopScan_radioOnly c).trans (halted _)).trans (radio_radioOnly _ _)

/-! Other operations that leave links and sessions alone. -/

theorem issue_quiet (command : Command) : c.Quiet (c.issue command) := .of_rest rfl

theorem maybeCycle_quiet : c.Quiet (c.maybeCycle env) := by
  have flagged :
      ∀ pending, c.Quiet { c with server.cyclePending := pending } := fun _ => .of_rest rfl
  exact .ite (flagged true) ((flagged false).trans (cycle_radioOnly env _).quiet)

/-! Dials. -/

theorem dial_quiet (dial : Dial) : c.Quiet { c with dial } := .of_rest rfl

theorem updateDevice_quiet (id : PeripheralId) (f : Device → Device) :
    c.Quiet (c.updateDevice id f) := dial_quiet c _

theorem modifyDevice_quiet (id : PeripheralId) (f : Device → Device) :
    c.Quiet (c.modifyDevice id f) := dial_quiet c _

theorem prune_quiet (id : PeripheralId) : c.Quiet (c.prune id) := by
  unfold prune
  split
  · exact .refl c
  · exact .ite (dial_quiet c _) (.refl c)

theorem unmark_quiet (peripheralId : Option PeripheralId) : c.Quiet (c.unmark peripheralId) := by
  cases peripheralId with
  | none => exact .refl c
  | some id => exact (modifyDevice_quiet c id _).trans (prune_quiet _ id)

theorem clearDial_quiet (id : PeripheralId) : c.Quiet (c.clearDial id) :=
  (modifyDevice_quiet c id _).trans (prune_quiet _ id)

theorem clearDeviceTimers_quiet : c.Quiet c.clearDeviceTimers := dial_quiet c _

theorem disconnect_quiet (p : Ref) : c.Quiet (c.disconnect p) := issue_quiet c _

theorem abortDial_quiet (p : Ref) : c.Quiet (c.abortDial env p) :=
  (((updateDevice_quiet c _ _).trans (clearDial_quiet _ _)).trans (disconnect_quiet _ p)).trans
    (startScan_radioOnly env _).quiet

theorem dialPeripheral_quiet (p : Ref) : c.Quiet (c.dialPeripheral env p) := by
  have dialed := (((dial_quiet c { c.dial with lastDial := env.now }).trans
    (updateDevice_quiet _ (c.peripheral p).id fun d =>
      { d with timer := some (p, env.now + connectTimeout) })).trans
        (stopScan_radioOnly _).quiet).trans
    (issue_quiet _ (.connect p))
  exact .ite (dialed.trans (abortDial_quiet env _ p)) dialed

/-! Frames. -/

theorem gatt_quiet (gatt : NotifyQueue) : c.Quiet { c with gatt } := .of_rest rfl

theorem notify_quiet (frame : Bytes) : c.Quiet (c.notify env frame) := gatt_quiet c _

theorem notifyClose_quiet (id : Hex) (reason : Option Byte) :
    c.Quiet (c.notifyClose env id reason) := notify_quiet env c _

theorem notifyHello_quiet (id : Hex) (payload : Bytes) : c.Quiet (c.notifyHello env id payload) :=
  notify_quiet env c _

theorem sendClose_quiet (p : Ref) (id : Hex) : c.Quiet (c.sendClose p id) := issue_quiet c _

theorem sayGoodbye_quiet : c.Quiet (c.sayGoodbye env) := by
  refine (Quiet.foldl (fun c id => notifyClose_quiet env c id none) c _).trans (.foldl ?_ _ _)
  intro c d
  split
  · exact .refl c
  · split
    · exact .ite (sendClose_quiet c _ _) (.refl c)
    · exact .refl c

theorem beginSuspend_quiet : c.Quiet (c.beginSuspend env) :=
  ((radio_radioOnly c _).quiet.trans (clearDeviceTimers_quiet _)).trans (sayGoodbye_quiet env _)

theorem disconnectDevices_quiet : c.Quiet c.disconnectDevices := by
  refine .foldl ?_ c _
  intro c d
  split
  · exact disconnect_quiet c _
  · exact .refl c

/-! A stream becoming a link. -/

variable (st : Ref) (isInitiator : Bool) (peripheralId : Option PeripheralId) (announced : Bytes)

/-- Peripherals, sessions, channels and the notify queue have no part in it. -/
theorem onChannel_rest :
    let linked := (c.onChannel env st isInitiator peripheralId announced).1
    linked.central = c.central ∧ linked.gatt = c.gatt ∧ linked.server.sessions = c.server.sessions ∧
      linked.server.readers = c.server.readers ∧ linked.server.acceptors = c.server.acceptors := by
  simp only [onChannel]
  split
  · exact ⟨rfl, rfl, rfl, rfl, rfl⟩
  · cases peripheralId with
    | none =>
      have scan := startScan_radioOnly env { c with
        links.conns := c.links.conns.alloc { stream := st, isInitiator, peripheralId := none, announced } }
      exact ⟨scan.quiet.central, scan.gatt, scan.quiet.sessions, scan.quiet.readers, scan.quiet.acceptors⟩
    | some id =>
      have scan := startScan_radioOnly env ({ c with
        links.conns := c.links.conns.alloc
          { stream := st, isInitiator, peripheralId := some id, announced } }.updateDevice id
            fun d => { d with linked := true, coolUntil := 0, failures := 0 })
      exact ⟨scan.quiet.central, scan.gatt, scan.quiet.sessions, scan.quiet.readers, scan.quiet.acceptors⟩

/-- On a halted transport the stream is destroyed, which is all that streams see of it. -/
theorem onChannel_view {β : Type*} (k : Ref) (view : Stream → β)
    (keep : ∀ s : Stream, view { s with destroyed := true } = view s) :
    view ((c.onChannel env st isInitiator peripheralId announced).1.streams.get k) =
      view (c.streams.get k) := by
  unfold onChannel
  split
  · exact c.streams.modify_get_view st k (fun s => { s with destroyed := true }) view keep
  · refine congrArg (fun streams : Heap Stream => view (streams.get k)) ?_
    apply (startScan_radioOnly env _).quiet.streams.trans
    split <;> rfl

/-! The slots of a peripheral. -/

theorem endCentral_session (env : Env) (c : Core) (p : Ref) (sess : Option Ref) (keep : Bool) :
    ((c.endCentral env p sess keep).peripheral p).session = none := by
  let ended : Core := (c.closeSession p sess).setPeripheral p fun q => { q with session := none }
  have rest : ∀ (c : Core) (id : PeripheralId) (f : Device → Device),
      Quiet c (((if keep then ((c.updateDevice id f).clearDial id)
        else ((c.updateDevice id f).clearDial id).disconnect p)).startScan env) := by
    intro c id f
    have cleared := (updateDevice_quiet c id f).trans (clearDial_quiet _ id)
    exact (cleared.trans (.ite (.refl _) (disconnect_quiet _ p))).trans
      (startScan_radioOnly env _).quiet
  have same : (c.endCentral env p sess keep).central = ended.central := (rest ended _ _).central
  rw [peripheral, same]
  simp [ended, setPeripheral]

/-- The slots of a peripheral that a stream is bound to. -/
theorem bindCentralStream_binds (env : Env) (c : Core) (p st : Ref) (announced : Bytes) :
    let bound := c.bindCentralStream env p st announced
    (bound.peripheral p).session = (c.peripheral p).session ∧
      (bound.peripheral p).stream = some st ∧ bound.central.sessions = c.central.sessions ∧
      ∀ k, (bound.streams.get k).received = (c.streams.get k).received := by
  let slotted : Core := c.setPeripheral p fun q => { q with stream := some st }
  let cleared : Core := slotted.clearDial (slotted.peripheral p).id
  have quiet : Quiet slotted cleared := clearDial_quiet slotted _
  let linked : Core × Option Ref :=
    cleared.onChannel env st true (some (slotted.peripheral p).id) announced
  have central : linked.1.central = slotted.central :=
    (onChannel_rest env cleared st true _ announced).1.trans quiet.central
  have slots : ((c.bindCentralStream env p st announced).peripheral p) =
      { slotted.peripheral p with conn := linked.2 } := by
    have last : ((c.bindCentralStream env p st announced).peripheral p) =
        { linked.1.peripheral p with conn := linked.2 } := Function.update_self _ _ _
    rw [last, peripheral, central]
    rfl
  have slotted_p : slotted.peripheral p = { c.peripheral p with stream := some st } :=
    Function.update_self _ _ _
  have sessions : linked.1.central.sessions = slotted.central.sessions :=
    congrArg Central.sessions central
  dsimp only
  rw [slots, slotted_p]
  refine ⟨rfl, rfl, sessions, fun k => ?_⟩
  have kept : (linked.1.streams.get k).received = (cleared.streams.get k).received :=
    onChannel_view env cleared st true _ announced k Stream.received fun _ => rfl
  rw [quiet.streams] at kept
  exact kept

/-- Opening an l2cap channel leaves the slots of the peripheral to the code behind its await. -/
theorem openCentralL2cap_waits (env : Env) (c : Core) (p sess : Ref) (psm : Nat) (announced : Bytes) :
    let waiting := c.openCentralL2cap env p sess psm announced
    waiting.central.peripherals = c.central.peripherals ∧ waiting.streams = c.streams ∧
      waiting.central.sessions = c.central.sessions.modify sess fun s => { s with upgrading := true } := by
  have finished : ∀ (c : Core) (a : Ref) (channel : Option Ref),
      (c.finishOpen a channel).central.peripherals = c.central.peripherals ∧
        (c.finishOpen a channel).streams = c.streams ∧
        (c.finishOpen a channel).central.sessions = c.central.sessions := by
    intro c a channel
    unfold finishOpen
    split
    · cases channel <;> exact ⟨rfl, rfl, rfl⟩
    · exact ⟨rfl, rfl, rfl⟩
  have cleaned : ∀ (c : Core) (id : PeripheralId),
      (c.destroyStale id).central.peripherals = c.central.peripherals ∧
        (c.destroyStale id).streams = c.streams ∧
        (c.destroyStale id).central.sessions = c.central.sessions := by
    intro c id
    unfold destroyStale
    split <;> exact ⟨rfl, rfl, rfl⟩
  have asked : ∀ c : Core, (c.openChannel env p sess psm announced).central.peripherals =
      c.central.peripherals ∧ (c.openChannel env p sess psm announced).streams = c.streams ∧
        (c.openChannel env p sess psm announced).central.sessions = c.central.sessions := by
    intro c
    simp only [openChannel]
    split
    · exact finished _ _ _
    · exact ⟨rfl, rfl, rfl⟩
  let upgrading : Core := c.setCentralSession sess fun s => { s with upgrading := true }
  obtain ⟨peripherals, streams, sessions⟩ := asked (upgrading.destroyStale (upgrading.peripheral p).id)
  obtain ⟨peripherals', streams', sessions'⟩ := cleaned upgrading (upgrading.peripheral p).id
  exact ⟨peripherals.trans peripherals', streams.trans streams', sessions.trans sessions'⟩

end Core

end BleSwarm
