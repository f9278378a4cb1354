import BleSwarm.Transport.Suspended

/-!
# The caps of the options

`maxOutbound` is asked of the live links when a dial begins, `maxInbound` of the session
table when an OPEN comes. No dial in flight counts, and nothing is asked when a handshake
ends: as many dials overlap as the dial window lets begin, and each may become a link.
-/

namespace BleSwarm.Links

/-- `track` enters a key that has no entry, unless the stream is a duplicate. -/
theorem track_size (me : Bytes) (l : Links) (r : Ref) : (l.track me r).peers.size = l.peers.size +
    if (l.peers.get? (toHex (l.conns.get r).remotePublicKey)).isNone then 1 else 0 := by
  have put_ : (l.put r).peers.size = l.peers.size +
      if (l.peers.get? (toHex (l.conns.get r).remotePublicKey)).isNone then 1 else 0 := by
    simp only [put]
    cases entry : l.peers.get? (toHex (l.conns.get r).remotePublicKey) with
    | none => simp [OrderedMap.size_set_of_absent r entry]
    | some k =>
      have present : l.peers.get? (toHex (l.conns.get r).remotePublicKey) ≠ none := by simp [entry]
      simp [OrderedMap.size_set_of_present r present]
  cases existing : l.existing? r with
  | none =>
    rw [track_of_alone existing]
    exact put_
  | some k =>
    cases rank : preferred me (l.conns.get r)
    · rw [track_of_loses existing rank]
      have entry := (Option.filter_eq_some_iff.mp existing).1
      simp [retire, destroy, entry]
    · rw [track_of_wins existing rank]
      exact put_

end BleSwarm.Links

namespace BleSwarm.Core

variable {env : Env} {effects : Effects} {c c' : Core}

/-! Dials in flight. -/

theorem connecting_eq (c : Core) : c.connecting = c.dial.inFlight :=
  List.countP_eq_length_filter.symm

theorem connecting_congr (dial : c'.dial = c.dial) : c'.connecting = c.connecting := by
  simp only [connecting, dial]

theorem RadioOnly.connecting (h : RadioOnly c c') : c'.connecting = c.connecting :=
  connecting_congr h.dial

theorem maybeCycle_dial (env : Env) (c : Core) : (c.maybeCycle env).dial = c.dial := by
  unfold maybeCycle
  split
  · rfl
  · exact (cycle_radioOnly env { c with server.cyclePending := false }).dial

theorem Performs.connecting (h : Performs env effects c c') (undialed : effects.dials = false) :
    c'.connecting ≤ c.connecting := by
  induction h with
  | trans _ _ ih ih' => exact ih'.trans ih
  | maybeCycle c serves due => exact (connecting_congr (maybeCycle_dial env c)).le
  | startScan c scans => exact (startScan_radioOnly env c).connecting.le
  | stopScan c scans => exact (stopScan_radioOnly c).connecting.le
  | onScanTimer c scans => exact (onScanTimer_radioOnly env c).connecting.le
  | dial c dial calm steady strays outlook =>
    rw [connecting_eq, connecting_eq]
    exact steady.resolve_left (by simp [undialed])
  | _ => exact le_refl _

/-- No record is left. -/
theorem connecting_of_empty (empty : c.dial.devices = ∅) : c.connecting = 0 := by
  simp [connecting, empty]

theorem onRadioDown_connecting (c : Core) : c.onRadioDown.connecting = 0 := by
  apply connecting_of_empty
  obtain ⟨_, _, eq⟩ := onRadioDown_eq c
  rw [eq]

theorem onConnOpen_connecting (env : Env) (c : Core) (r : Ref) (key : Bytes) :
    (c.onConnOpen env r key).connecting ≤ c.connecting := by
  have tracked : ∀ c : Core, (c.track env r).connecting = (c.notePeerKey r).connecting := by
    intro c
    simp only [track]
    split
    · rfl
    · split <;> rfl
  have noted : ∀ c : Core, (c.notePeerKey r).connecting ≤ c.connecting := by
    intro c
    have h : Performs env {} c (c.notePeerKey r) := notePeerKey_performs r c
    exact h.connecting rfl
  simp only [onConnOpen]
  split
  · exact (tracked _).trans_le (noted { c with links := c.links.prove r key })
  · exact le_refl _

/-- The teardown takes the records and leaves their timers, and touches no other part of dialing. -/
theorem teardown_dial (env : Env) (c : Core) : (c.teardown env).dial = c.dropDevices.dial := by
  have parted : c.disconnectDevices.dial = c.dial :=
    Runs.foldl_related (R := fun c c' : Core => c'.dial = c.dial) (fun c => rfl)
      (fun h h' => h'.trans h) (fun c (d : Device) => by cases d.peripheral <;> rfl) c _
  have gone : c.disconnectDevices.dropDevices.dial = c.dropDevices.dial := by
    simp only [dropDevices, parted]
  have silent : (c.disconnectDevices.dropDevices.silence env).dial =
      c.disconnectDevices.dropDevices.dial := (silence_radioOnly env _).dial
  have dropped : ∀ c : Core, c.forget.dial = c.dial := by
    intro c
    obtain ⟨sessions, streams, reaped⟩ := reapAllSessions_eq { c.destroyPeers with links.peers := ∅ }
    simp only [forget, reaped]
    rfl
  have unpublished : ∀ c : Core, (if env.cfg.platform = .mac then c.unpublish env else c).dial = c.dial :=
    fun c => (RadioOnly.ite (unpublish_radioOnly env c) (.refl c)).dial
  exact (unpublished _).trans ((dropped _).trans (silent.trans gone))

theorem teardown_devices (env : Env) (c : Core) : (c.teardown env).dial.devices = ∅ := by
  rw [teardown_dial]
  rfl

/-- The calls begin no dial. -/
theorem Calls.connecting (h : Calls env c c') : c'.connecting ≤ c.connecting := by
  induction h with
  | trans _ _ ih ih' => exact ih'.trans ih
  | skip c => exact le_refl _
  | doOpen c server central opened => exact (doOpen_radioOnly env c server central).connecting.le
  | beginSuspend c suspended =>
    have said : ∀ c : Core, (c.sayGoodbye env).connecting ≤ c.connecting := by
      intro c
      have h : Performs env {} c (c.sayGoodbye env) := sayGoodbye_performs c
      exact h.connecting rfl
    have cleared : ({ c with radio.scanTimer := none }.clearDeviceTimers).connecting = 0 := by
      rw [Core.connecting, (clearDeviceTimers_idle _).calm]
      rfl
    exact ((said _).trans cleared.le).trans (Nat.zero_le _)
  | teardown c =>
    rw [connecting_of_empty (teardown_devices env c)]
    exact Nat.zero_le _
  | doResume c live => exact (doResume_radioOnly env c).connecting.le
  | doClose c closing =>
    rw [doClose_eq, connecting_of_empty rfl]
    exact Nat.zero_le _
  | setOnline c online => exact (setOnline_radioOnly env c online).connecting.le
  | setTopic c topic =>
    unfold Core.setTopic
    dsimp only
    split <;> exact le_refl _

/-- The discovery begins a dial: the peripheral may be dialed, the links leave room, the dial
window is open and the native layer takes the dial. -/
def startsDial (env : Env) (c : Core) (p : Ref) : Bool :=
  !env.halted && !c.undialable env (c.peripheral p).id &&
    decide (c.links.peers.size < env.cfg.maxOutbound) &&
    decide ((dialMinInterval : Int) ≤ (env.now : Int) - c.dial.lastDial) && !env.native.connectThrows

/-- What decides about a discovery is as before. -/
structure Alike (c c' : Core) : Prop where
  devices : c'.dial.devices = c.dial.devices
  lastDial : c'.dial.lastDial = c.dial.lastDial
  links : c'.links = c.links
  central : c'.central = c.central

theorem Alike.startsDial (h : Alike c c') (p : Ref) : c'.startsDial env p = c.startsDial env p := by
  simp only [Core.startsDial, undialable, peripheral, h.devices, h.lastDial, h.links, h.central]

theorem Alike.connecting (h : Alike c c') : c'.connecting = c.connecting := by
  simp only [Core.connecting, h.devices]

/-- The dial itself, if the native layer takes it. -/
theorem dialPeripheral_connecting (p : Ref) (c : Core) (undialed : c.undialable env (c.peripheral p).id = false)
    (taken : env.native.connectThrows = false) :
    (c.dialPeripheral env p).connecting = c.connecting + 1 ∧
      (c.dialPeripheral env p).dial.lastDial = env.now := by
  let id := (c.peripheral p).id
  let dialed : Core := { c with dial.lastDial := env.now }.updateDevice id fun d =>
    { d with timer := some (p, env.now + connectTimeout) }
  have dial : (c.dialPeripheral env p).dial = dialed.dial := by
    simp only [dialPeripheral, taken, Bool.false_eq_true, if_false]
    exact (stopScan_radioOnly dialed).dial
  constructor
  · rw [connecting_eq, connecting_eq, dial]
    refine c.dial.devices.countP_set_of_not id rfl fun old found => ?_
    have idle := undialed
    simp only [undialable, id, found, Bool.or_eq_false_iff] at idle
    exact idle.2
  · rw [dial]
    rfl

/-- The record of a dial that is cleared has no timer, the others are as before. -/
theorem clearDial_device {id k : PeripheralId} {device : Device}
    (entry : (c.clearDial id).dial.devices.get? k = some device) :
    k = id ∧ device.timer = none ∨ k ≠ id ∧ c.dial.devices.get? k = some device := by
  have pruned : (c.modifyDevice id fun d => { d with timer := none }).dial.devices.get? k = some device := by
    revert entry
    simp only [clearDial, prune]
    split
    · exact fun entry => entry
    · split
      · exact OrderedMap.get?_of_delete
      · exact fun entry => entry
  simp only [modifyDevice, OrderedMap.get?_modify] at pruned
  split at pruned
  · rename_i here
    obtain ⟨old, -, rfl⟩ := Option.map_eq_some_iff.mp pruned
    exact .inl ⟨here, rfl⟩
  · rename_i other
    exact .inr ⟨other, pruned⟩

/-- A dial that the native layer refuses leaves none in flight. -/
theorem dialPeripheral_thrown (p : Ref) (c : Core) (thrown : env.native.connectThrows = true) :
    (c.dialPeripheral env p).connecting ≤ c.connecting := by
  let id := (c.peripheral p).id
  let dialed : Core := { c with dial.lastDial := env.now }.updateDevice id fun d =>
    { d with timer := some (p, env.now + connectTimeout) }
  have others : ∀ k ≠ id, dialed.dial.devices.get? k = c.dial.devices.get? k :=
    fun k other => c.dial.devices.get?_set_of_ne _ other
  have asked : (dialed.stopScan.issue (.connect p)).dial = dialed.dial :=
    (stopScan_radioOnly dialed).dial
  have central : (dialed.stopScan.issue (.connect p)).central = c.central :=
    (stopScan_radioOnly dialed).quiet.central
  have run : c.dialPeripheral env p = (dialed.stopScan.issue (.connect p)).abortDial env p := by
    simp only [dialPeripheral, thrown, if_true]
    rfl
  rw [run]
  generalize dialed.stopScan.issue (.connect p) = asking at asked central
  have here : (asking.peripheral p).id = id := by simp only [peripheral, central, id]
  rw [connecting_eq, connecting_eq]
  refine OrderedMap.countP_le fun k device entry timed => ?_
  simp only [abortDial, here] at entry
  rw [(startScan_radioOnly env _).dial] at entry
  rcases clearDial_device (c := asking.updateDevice id _) entry with ⟨-, untimed⟩ | ⟨other, before⟩
  · simp [untimed] at timed
  · refine ⟨device, ?_, timed⟩
    rw [← others k other, ← asked, ← before]
    exact (asking.dial.devices.get?_set_of_ne _ other).symm

/-- A discovery begins a dial, or leaves what decides about the next one, or is refused by the
native layer. -/
theorem onDiscover_cases (env : Env) (p : Ref) (c : Core) :
    (c.startsDial env p = true ∧ (c.onDiscover env p).connecting = c.connecting + 1 ∧
      (c.onDiscover env p).dial.lastDial = env.now) ∨
    (c.startsDial env p = false ∧ Alike c (c.onDiscover env p)) ∨
    (env.native.connectThrows = true ∧ (c.onDiscover env p).connecting ≤ c.connecting) := by
  have same : Alike c c := ⟨rfl, rfl, rfl, rfl⟩
  simp only [onDiscover, startsDial]
  split
  · rename_i halted
    exact .inr (.inl ⟨by simp [halted], same⟩)
  · split
    · rename_i known
      exact .inr (.inl ⟨by simp [known], same⟩)
    · rename_i live fresh
      split
      · rename_i full
        exact .inr (.inl ⟨by simp [full.not_gt], same⟩)
      · rename_i room
        split
        · rename_i early
          have shut : ¬ (dialMinInterval : Int) ≤ (env.now : Int) - c.dial.lastDial := by omega
          refine .inr (.inl ⟨by simp [shut], ?_⟩)
          unfold hold
          dsimp only
          split
          · exact ⟨rfl, rfl, rfl, rfl⟩
          · exact ⟨rfl, rfl, rfl, rfl⟩
        · rename_i late
          have due : (dialMinInterval : Int) ≤ (env.now : Int) - c.dial.lastDial := by omega
          cases taken : env.native.connectThrows
          · refine .inl ⟨?_, dialPeripheral_connecting p c (by simpa using fresh) taken⟩
            simp only [Bool.not_eq_true] at live fresh
            simp [live, fresh, not_le.mp room, due]
          · exact .inr (.inr ⟨rfl, dialPeripheral_thrown p c taken⟩)

/-- The window has shut behind a dial. -/
theorem startsDial_shut (p : Ref) (shut : c.dial.lastDial = env.now) : c.startsDial env p = false := by
  simp [startsDial, shut, dialMinInterval]

theorem startsDial_refused (p : Ref) (throws : env.native.connectThrows = true) :
    c.startsDial env p = false := by
  simp [startsDial, throws]

/-- Of the discoveries that were held at most one begins a dial. -/
theorem foldl_onDiscover_connecting (env : Env) (ps : List Ref) (c : Core) :
    (ps.any (c.startsDial env) = true ∧
      (ps.foldl (onDiscover env) c).connecting = c.connecting + 1) ∨
    (ps.any (c.startsDial env) = false ∧ (ps.foldl (onDiscover env) c).connecting ≤ c.connecting) := by
  have thrown : env.native.connectThrows = true → ∀ (ps : List Ref) (c : Core),
      ps.any (c.startsDial env) = false ∧ (ps.foldl (onDiscover env) c).connecting ≤ c.connecting := by
    intro throws ps
    induction ps with
    | nil => exact fun c => ⟨rfl, le_refl _⟩
    | cons p ps ih =>
      intro c
      have refused : ∀ q, c.startsDial env q = false := fun q => startsDial_refused q throws
      refine ⟨List.any_eq_false.mpr fun q _ => by simp [refused q], (ih _).2.trans ?_⟩
      rcases onDiscover_cases env p c with ⟨starts, -, -⟩ | ⟨-, same⟩ | ⟨-, fewer⟩
      · exact absurd ((refused p).symm.trans starts) (by simp)
      · exact same.connecting.le
      · exact fewer
  cases taken : env.native.connectThrows
  · have rest : ∀ (ps : List Ref) (c : Core), c.dial.lastDial = env.now →
        (ps.foldl (onDiscover env) c).connecting = c.connecting := by
      intro ps
      induction ps with
      | nil => exact fun c _ => rfl
      | cons p ps ih =>
        intro c shut
        rcases onDiscover_cases env p c with ⟨starts, -, -⟩ | ⟨-, same⟩ | ⟨throws, -⟩
        · rw [startsDial_shut p shut] at starts
          cases starts
        · exact (ih _ (same.lastDial.trans shut)).trans same.connecting
        · exact absurd (taken.symm.trans throws) (by simp)
    induction ps generalizing c with
    | nil => exact .inr ⟨rfl, le_refl _⟩
    | cons p ps ih =>
      rcases onDiscover_cases env p c with ⟨starts, more, shut⟩ | ⟨idle, same⟩ | ⟨throws, -⟩
      · exact .inl ⟨by simp [starts], (rest ps _ shut).trans more⟩
      · have alike : ps.any ((c.onDiscover env p).startsDial env) = ps.any (c.startsDial env) :=
          congrArg ps.any (funext fun q => same.startsDial q)
        simp only [List.any_cons, idle, Bool.false_or, List.foldl_cons, ← same.connecting, ← alike]
        exact ih _
      · exact absurd (taken.symm.trans throws) (by simp)
  · exact .inr (thrown taken ps c)

/-- The dial window opens for what it held. -/
theorem onDialTimer_connecting (env : Env) (c : Core) :
    let due := c.dial.dialTimer.any (fun deadline => deadline ≤ env.now) &&
      c.dial.candidates.values.any (c.startsDial env)
    let c' := Transport.coreHandler env c .dialTimer
    (due = true ∧ c'.connecting = c.connecting + 1) ∨ (due = false ∧ c'.connecting ≤ c.connecting) := by
  intro due c'
  let flushed : Core := { c with dial := { c.dial with dialTimer := none, candidates := ∅ } }
  let held := c.dial.candidates.values.insertionSort fun a b => c.signal b ≤ c.signal a
  have asked : held.any (flushed.startsDial env) = c.dial.candidates.values.any (c.startsDial env) :=
    (List.perm_insertionSort _ c.dial.candidates.values).any_eq
  cases timer : c.dial.dialTimer with
  | none => exact .inr ⟨by simp [due, timer], by simp [c', Transport.coreHandler, timer]⟩
  | some deadline =>
    by_cases early : env.now < deadline
    · exact .inr ⟨by simp [due, timer, early], by simp [c', Transport.coreHandler, timer, early]⟩
    · have run : c' = held.foldl (onDiscover env) flushed := by
        simp only [c', Transport.coreHandler, timer, early, if_false]
        rfl
      have window :
          due = held.any (flushed.startsDial env) := by simp [due, timer, not_lt.mp early, asked]
      rw [run, window]
      exact foldl_onDiscover_connecting env held flushed

end BleSwarm.Core

namespace BleSwarm.Transport

open BleSwarm.Core

/-! The cap on dials. -/

/-- No more dials are in flight than the option says. -/
def DialsCapped (t : Transport) (a : Action) : Prop := (t.act a).core.connecting ≤ t.cfg.maxOutbound

/-- The step begins a dial. -/
def begins (t : Transport) : Action → Bool
  | .input i =>
    t.life.opened &&
      match i.event with
      | .discover p _ => t.core.startsDial (t.env i.now i.native) p
      | .dialTimer => t.core.dial.dialTimer.any (fun deadline => deadline ≤ i.now) &&
        t.core.dial.candidates.values.any (t.core.startsDial (t.env i.now i.native))
      | _ => false
  | _ => false

/-- A dial begins only below the cap. -/
def Uncrowded (t : Transport) (a : Action) : Prop :=
  t.begins a = true → t.core.connecting < t.cfg.maxOutbound

instance (t : Transport) (a : Action) : Decidable (t.DialsCapped a) := inferInstanceAs (Decidable (_ ≤ _))

instance (t : Transport) (a : Action) : Decidable (t.Uncrowded a) := inferInstanceAs (Decidable (_ → _))

theorem handle_connecting (t : Transport) (env : Env) {e : Event}
    (other : (effectsOf env.cfg.pipe e).dials = false) :
    (t.handle env e).core.connecting ≤ t.core.connecting := by
  cases e with
  | serverState s =>
    have noted : RadioOnly t.core ({ t.core with radio.serverState := s }.onState s) :=
      (radio_radioOnly _ _).trans (onState_radioOnly _ s)
    simp only [handle, coreHandler, withCore, onServerState]
    split
    · exact (noted.trans (startServer_radioOnly env _)).connecting.le
    · split
      · rw [onRadioDown_connecting]
        exact Nat.zero_le _
      · exact noted.connecting.le
  | centralState s =>
    have noted : RadioOnly t.core ({ t.core with radio.centralState := s }.onState s) :=
      (radio_radioOnly _ _).trans (onState_radioOnly _ s)
    simp only [handle, coreHandler, withCore, onCentralState]
    split
    · exact (noted.trans (.ite (scheduleSelfHeal_radioOnly env _)
        (startScan_radioOnly env _))).connecting.le
    · split
      · rw [onRadioDown_connecting]
        exact Nat.zero_le _
      · exact noted.connecting.le
  | serviceAdd => exact (onServiceAdd_radioOnly _).connecting.le
  | connOpen r key => exact onConnOpen_connecting env t.core r key
  | channelPublish psm => exact le_refl _
  | discover p rssi => cases other
  | dialTimer => cases other
  | _ => exact (handle_performs t env (by simp [Special]) (by simp)).connecting other

/-- The strength that a discovery reports does not decide about the dial. -/
theorem startsDial_discovered (env : Env) (c : Core) (p : Ref) (rssi : Option Int) :
    (c.setPeripheral p fun q => { q with rssi := rssi }).startsDial env p = c.startsDial env p := by
  have known :
      ((c.setPeripheral p fun q => { q with rssi := rssi }).peripheral p).id = (c.peripheral p).id := by
    simp [peripheral, setPeripheral]
  simp only [startsDial, undialable, known]
  rfl

theorem act_connecting (t : Transport) (a : Action) :
    (t.begins a = true ∧ (t.act a).core.connecting = t.core.connecting + 1) ∨
    (t.begins a = false ∧ (t.act a).core.connecting ≤ t.core.connecting) := by
  rcases t.act_split a with ⟨i, rfl, opened, run⟩ | ⟨i, rfl, opened, run⟩ | ⟨call, env, -, -, -, calls⟩
  · rw [run]
    exact .inr ⟨by simp [begins, opened], le_refl _⟩
  · rw [run]
    have other : (effectsOf t.cfg.pipe i.event).dials = false →
        ((t.begin i.native).handle (t.env i.now i.native) i.event).core.connecting ≤
          t.core.connecting := handle_connecting (t.begin i.native) (t.env i.now i.native)
    simp only [begins, opened, Bool.true_and]
    cases event : i.event with
    | discover p rssi =>
      let found : Core := (t.begin i.native).core.setPeripheral p fun q => { q with rssi := rssi }
      have same : found.startsDial (t.env i.now i.native) p =
          t.core.startsDial (t.env i.now i.native) p :=
        startsDial_discovered (t.env i.now i.native) (t.begin i.native).core p rssi
      dsimp only
      rw [← same]
      rcases onDiscover_cases (t.env i.now i.native) p found with ⟨starts, more, -⟩ | ⟨idle, alike⟩ |
        ⟨throws, fewer⟩
      · exact .inl ⟨starts, more⟩
      · exact .inr ⟨idle, alike.connecting.le⟩
      · exact .inr ⟨startsDial_refused p throws, fewer⟩
    | dialTimer =>
      exact onDialTimer_connecting (t.env i.now i.native) (t.begin i.native).core
    | _ => exact .inr ⟨rfl, event ▸ other (by rw [event]; rfl)⟩
  · refine .inr ⟨?_, calls.connecting⟩
    cases a with
    | input i => exact absurd rfl (call i)
    | _ => rfl

/-- The dials in flight stay within the cap exactly in the runs in which none begins at the
cap. -/
theorem dials_capped_iff (cfg : Config) (topic : Option Bytes) (online : Bool)
    (ids : Ref → PeripheralId) (actions : List Action) :
    Runs.Each act DialsCapped (create cfg topic online ids) actions ↔
      Runs.Each act Uncrowded (create cfg topic online ids) actions := by
  have same : ∀ (t : Transport) a, t.core.connecting ≤ t.cfg.maxOutbound →
      (t.DialsCapped a ↔ t.Uncrowded a) := by
    intro t a capped
    simp only [DialsCapped, Uncrowded]
    rcases t.act_connecting a with ⟨begun, more⟩ | ⟨idle, fewer⟩
    · rw [more]
      exact ⟨fun room _ => room, fun room => room begun⟩
    · exact ⟨fun _ begun => absurd (idle.symm.trans begun) (by simp), fun _ => fewer.trans capped⟩
  refine Runs.each_iff same (fun t a _ capped => ?_) (Nat.zero_le _) actions
  rw [act_cfg]
  exact capped

/-- Two devices are found half a second apart, under a cap of one dial. -/
theorem dials_overlap :
    let cfg := { Config.plain (List.replicate 32 1) .gatt .ios with maxOutbound := 1 }
    ¬ Runs.Each act DialsCapped (create cfg none false id)
      [.open .poweredOn .poweredOn 0, .input { now := 1000, event := .discover 7 none },
        .input { now := 1500, event := .discover 8 none }] := by
  decide +kernel

/-! The cap on links. -/

/-- No more links are live than both caps allow together. -/
def LinksCapped (t : Transport) (a : Action) : Prop :=
  (t.act a).core.links.peers.size ≤ t.cfg.maxOutbound + t.cfg.maxInbound

/-- A handshake that was going on ends under the key of no live link. -/
def enters (t : Transport) (r : Ref) (key : Bytes) : Bool :=
  t.life.opened && decide (r < t.core.links.conns.next) && !(t.core.links.conns.get r).opened &&
    !(t.core.links.conns.get r).closed && !t.life.closing && !t.life.closed &&
    (t.core.links.peers.get? (toHex key)).isNone

/-- A handshake ends in a further link only below the cap. -/
def Spacious (t : Transport) : Action → Prop
  | .input i =>
    match i.event with
    | .connOpen r key => t.enters r key = true →
      t.core.links.peers.size < t.cfg.maxOutbound + t.cfg.maxInbound
    | _ => True
  | _ => True

instance (t : Transport) (a : Action) : Decidable (t.LinksCapped a) := inferInstanceAs (Decidable (_ ≤ _))

instance (t : Transport) (a : Action) : Decidable (t.Spacious a) := by
  unfold Spacious
  rcases a with ⟨_, _, event⟩ | _
  · rcases event with _ | _ <;> infer_instance
  all_goals infer_instance

theorem connOpen_size (t : Transport) (i : Input) {r : Ref} {key : Bytes}
    (event : i.event = .connOpen r key) :
    (t.act (.input i)).core.links.peers.size =
      t.core.links.peers.size + if t.enters r key then 1 else 0 := by
  cases opened : t.life.opened
  · rw [act_input_unopened opened]
    simp [enters, opened, begin]
  · have run : (t.act (.input i)).core.links =
        ((t.begin i.native).core.onConnOpen (t.env i.now i.native) r key).links := by
      rw [act_input opened, event]
      rfl
    rw [run, onConnOpen]
    split
    · rename_i guard
      have guard : (decide (r < t.core.links.conns.next) && !(t.core.links.conns.get r).opened &&
          !(t.core.links.conns.get r).closed) = true := guard
      rw [track_links]
      split
      · rename_i ends
        have ends : (t.life.closing || t.life.closed) = true := ends
        have closes : t.enters r key = false := by
          rcases Bool.or_eq_true_iff.mp ends with closing | closed
          · simp [enters, closing]
          · simp [enters, closed]
        simp only [closes, Bool.false_eq_true, if_false, Nat.add_zero]
        rfl
      · rename_i open_
        have open_ : (t.life.closing || t.life.closed) = false := Bool.eq_false_iff.mpr open_
        obtain ⟨unclosing, unclosed⟩ := Bool.or_eq_false_iff.mp open_
        have proved : ((t.core.links.prove r key).conns.get r).remotePublicKey = key := by
          simp [Links.prove]
        simp only [Bool.and_eq_true, decide_eq_true_eq, Bool.not_eq_true'] at guard
        have decided :
            t.enters r key = (t.core.links.peers.get? (toHex key)).isNone := by
          simp [enters, opened, guard, unclosing, unclosed]
        rw [decided]
        have size := Links.track_size t.cfg.publicKey (t.core.links.prove r key) r
        rw [proved] at size
        exact size
    · rename_i guard
      have guard : ¬ (decide (r < t.core.links.conns.next) && !(t.core.links.conns.get r).opened &&
          !(t.core.links.conns.get r).closed) = true := guard
      have guard := Bool.eq_false_iff.mpr guard
      have stays : t.enters r key = false := by simp [enters, opened, guard]
      simp only [stays, Bool.false_eq_true, if_false, Nat.add_zero]
      rfl

theorem linksCapped_iff {t : Transport}
    (capped : t.core.links.peers.size ≤ t.cfg.maxOutbound + t.cfg.maxInbound) (a : Action) :
    t.LinksCapped a ↔ t.Spacious a := by
  by_cases opens : ∃ i r key, a = .input i ∧ i.event = .connOpen r key
  · obtain ⟨i, r, key, rfl, event⟩ := opens
    have condition : t.Spacious (.input i) ↔ (t.enters r key = true →
        t.core.links.peers.size < t.cfg.maxOutbound + t.cfg.maxInbound) := by
      simp only [Spacious, event]
    rw [condition, LinksCapped, connOpen_size t i event]
    cases t.enters r key
    · exact ⟨fun _ enters => absurd enters (by simp), fun _ => capped⟩
    · exact ⟨fun room _ => room, fun room => room rfl⟩
  · have unopened : ∀ i r key, a = .input i → i.event ≠ .connOpen r key :=
      fun i r key eq event => opens ⟨i, r, key, eq, event⟩
    have holds : t.Spacious a := by
      cases a with
      | input i =>
        simp only [Spacious]
        split
        · rename_i r key event
          exact absurd event (unopened i r key rfl)
        · trivial
      | _ => trivial
    have fewer : (t.act a).core.links.peers.size ≤ t.core.links.peers.size :=
      OrderedMap.size_le_of_absent (act_fades t a unopened).peers
    exact ⟨fun _ => holds, fun _ => fewer.trans capped⟩

/-- The live links stay within both caps exactly in the runs in which no handshake ends in
a further link at the cap. -/
theorem links_capped_iff (cfg : Config) (topic : Option Bytes) (online : Bool)
    (ids : Ref → PeripheralId) (actions : List Action) :
    Runs.Each act LinksCapped (create cfg topic online ids) actions ↔
      Runs.Each act Spacious (create cfg topic online ids) actions := by
  have same : ∀ (t : Transport) a,
      t.core.links.peers.size ≤ t.cfg.maxOutbound + t.cfg.maxInbound →
      (t.LinksCapped a ↔ t.Spacious a) := fun _ a capped => linksCapped_iff capped a
  refine Runs.each_iff same (fun t a _ capped => ?_) (Nat.zero_le _) actions
  rw [act_cfg]
  exact capped

/-- Three dials overlap in their handshakes, under a cap of one link each way. -/
theorem overlapping_dials_link :
    let cfg := { Config.plain (List.replicate 32 1) .gatt .ios with maxOutbound := 1, maxInbound := 1 }
    let dial := fun (n : Nat) (remote : Byte) =>
      (dialAnswered cfg n (7 + n) (List.replicate 32 remote)).map fun event =>
        Action.input { now := 1000 + 500 * n, event }
    ¬ Runs.Each act LinksCapped (create cfg none false id)
      (.open .poweredOn .poweredOn 0 :: (dial 0 2 ++ dial 1 3 ++ dial 2 4 ++
        [.connOpen 0 (List.replicate 32 2), .connOpen 1 (List.replicate 32 3),
          .connOpen 2 (List.replicate 32 4)].map fun event => .input { now := 3000, event })) := by
  decide +kernel

end BleSwarm.Transport
