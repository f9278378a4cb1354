import BleSwarm.Transport.Outbound.Discover

/-!
# What a handler does to a dial

A handler ends at most one dial, by an abort, by the end of its session or by a bound
stream. Which it is can be read off the guards in front.
-/

namespace BleSwarm

/-- What a handler does to the dial of a peripheral. -/
inductive Fate
  /-- `_abortDial`. -/
  | aborted
  /-- `_endCentral`. -/
  | ended
  /-- `_bindCentralStream`. -/
  | bound
  deriving DecidableEq

namespace Core

/-- The answer to a HELLO for a session of the peripheral. -/
def helloFate (env : Env) (c : Core) (p sess : Ref) (payload : Bytes) : Option Fate :=
  if (c.peripheral p).stream.isSome || (c.central.sessions.get sess).upgrading then none
  else
    let { key, flags, psm } := decodeKeyPayload payload
    if !env.cfg.accept key then some .ended
    else if (c.links.peers.get? (toHex key)).isSome then some .ended
    else
      match env.cfg.pipeFor flags, psm with
      | none, _ => some .ended
      | some .l2cap, none => some .ended
      | some .l2cap, some _ => none
      | some .gatt, _ => some .bound

/-- The answer to a notification. -/
def notifyFate (env : Env) (c : Core) (p : Ref) (data : Bytes) : Option Fate :=
  match (c.peripheral p).session, decodeFrame (some data) with
  | some sess, some f =>
    if f.id ≠ (c.central.sessions.get sess).id then none
    else if f.type = typeHello then c.helloFate env p sess f.payload
    else if f.type = typeClose then if (c.peripheral p).stream.isSome then none else some .ended
    else none
  | _, _ => none

/-- What becomes of an open that has got its channel, or none. -/
def openFate (env : Env) (c : Core) (a : Ref) : Option Fate :=
  let attempt := c.central.attempts.get a
  if attempt.resumed || (c.peripheral attempt.peripheral).session ≠ some attempt.session ||
      env.halted then none
  else
    match attempt.result with
    | none => none
    | some none => some .aborted
    | some (some _) => if env.native.preambleThrows then some .aborted else some .bound

/-- An error of the peripheral is left to the deadline of the open. -/
def ignores (c : Core) (p : Ref) : Bool :=
  match (c.peripheral p).session with
  | some s => (c.central.sessions.get s).upgrading
  | none => false

/-- The dial timer of a peripheral is due, and whose it is. -/
def dialDue (env : Env) (c : Core) (id : PeripheralId) : Option Ref :=
  match (c.dial.devices.get? id).bind Device.timer with
  | some (p, deadline) => if deadline ≤ env.now then some p else none
  | none => none

/-- A dial timer without a record is due, and whose it is. -/
def strayDue (env : Env) (c : Core) (i : Nat) : Option Ref :=
  match c.dial.strays[i]? with
  | some (p, deadline) => if deadline ≤ env.now then some p else none
  | none => none

/-- The peripheral that is dialed when the timer of the dial window runs. -/
def windowDial (env : Env) (c : Core) : Option Ref :=
  match c.dial.dialTimer with
  | some deadline => if env.now < deadline then none else c.flushed env
  | none => none

/-- What the dials look like behind a handler that ends the given one and begins none. -/
inductive Settles (env : Env) (o : Outbound) : Option (Ref × Fate) → Outbound → Prop
  | stays : Settles env o none o
  | ends (p : Ref) (fate : Fate) (cool : Nat) (fails : fate ≠ .bound) (cooldown : Cooldown env cool) :
    Settles env o (some (p, fate)) (o.settle (o.ids p) cool)
  | binds (p sess : Ref) : Settles env o (some (p, .bound)) (o.bind env.halted p sess)

variable {env : Env} {c c' : Core}

theorem Settles.same {o o' : Outbound} (h : Settles env o none o') : o' = o := by
  cases h
  rfl

theorem SameDials.settles (h : SameDials c c') : Settles env c.outbound none c'.outbound := by
  rw [h]
  exact .stays

theorem abortDial_settles (env : Env) (p : Ref) (c : Core) :
    Settles env c.outbound (some (p, .aborted)) (c.abortDial env p).outbound := by
  obtain ⟨cool, cooldown, aborted⟩ := abortDial_outbound env p c
  rw [aborted]
  exact .ends p .aborted cool (by decide) cooldown

theorem endCentral_settles (env : Env) (p : Ref) (sess : Option Ref) (keep : Bool) (c : Core) :
    Settles env c.outbound (some (p, .ended)) (c.endCentral env p sess keep).outbound := by
  rw [endCentral_outbound]
  refine .ends p .ended _ (by decide) ⟨?_, le_refl _⟩
  exact Nat.add_le_add_left (by decide) env.now

theorem settle_settle (o : Outbound) (id : PeripheralId) (cool cool' : Nat) :
    (o.settle id cool).settle id cool' = o.settle id cool' := by
  simp [Outbound.settle]

/-- The same dial is aborted by every listener. -/
theorem iterate_abortDial_settles (env : Env) (p : Ref) (n : Nat) (c : Core) :
    Settles env c.outbound (if 0 < n then some (p, .aborted) else none)
      ((fun c => c.abortDial env p)^[n] c).outbound := by
  cases n with
  | zero => exact .stays
  | succ n =>
    rw [if_pos (Nat.succ_pos n)]
    have settled : ∃ cool, Cooldown env cool ∧ ((fun c => c.abortDial env p)^[n + 1] c).outbound =
        c.outbound.settle (c.outbound.ids p) cool := by
      induction n with
      | zero => exact abortDial_outbound env p c
      | succ n ih =>
        obtain ⟨_, -, before⟩ := ih
        obtain ⟨cool, cooldown, last⟩ :=
          abortDial_outbound env p ((fun c => c.abortDial env p)^[n + 1] c)
        refine ⟨cool, cooldown, ?_⟩
        rw [Function.iterate_succ_apply', last]
        have same : (((fun c => c.abortDial env p)^[n + 1] c).peripheral p).id = c.outbound.ids p :=
          congrFun (congrArg Outbound.ids before) p
        rw [same, before, settle_settle]
    obtain ⟨cool, cooldown, aborted⟩ := settled
    rw [aborted]
    exact .ends p .aborted cool (by decide) cooldown

/-- Listeners that all abort. -/
theorem iterate_settles {f : Core → Core} {p : Ref} {Q : Core → Prop}
    (aborts : ∀ c, Q c → f c = c.abortDial env p) (keep : ∀ c, Q c → Q (c.abortDial env p)) (n : Nat)
    (start : Q c) : Settles env c.outbound (if 0 < n then some (p, .aborted) else none) (f^[n] c).outbound := by
  have same : ∀ n (c : Core), Q c → f^[n] c = (fun c => c.abortDial env p)^[n] c := by
    intro n
    induction n with
    | zero => exact fun _ _ => rfl
    | succ n ih =>
      intro c start
      rw [Function.iterate_succ_apply, Function.iterate_succ_apply, aborts c start]
      exact ih _ (keep c start)
  rw [same n c start]
  exact iterate_abortDial_settles env p n c

theorem onPeripheralError_of_ignores (ignored : c.ignores p = true) :
    c.onPeripheralError env p = c := by
  unfold onPeripheralError
  unfold ignores at ignored
  cases session : (c.peripheral p).session with
  | none =>
    rw [session] at ignored
    cases ignored
  | some s =>
    rw [session] at ignored
    exact if_pos ignored

theorem onPeripheralError_of_heeds (heeded : c.ignores p = false) :
    c.onPeripheralError env p = c.abortDial env p := by
  unfold onPeripheralError
  unfold ignores at heeded
  cases session : (c.peripheral p).session with
  | none => rfl
  | some s =>
    rw [session] at heeded
    exact if_neg (by simpa using heeded)

theorem onPeripheralError_settles (p : Ref) (n : Nat) (c : Core) :
    Settles env c.outbound (if 0 < n && !c.ignores p then some (p, .aborted) else none)
      ((fun c => c.onPeripheralError env p)^[n] c).outbound := by
  cases ignored : c.ignores p with
  | true =>
    have still : (fun c => c.onPeripheralError env p)^[n] c = c :=
      Function.iterate_fixed (onPeripheralError_of_ignores ignored) n
    rw [still, Bool.not_true, Bool.and_false]
    exact .stays
  | false =>
    have keep : ∀ c : Core, c.ignores p = false → (c.abortDial env p).ignores p = false := by
      intro c heeded
      have central := (abortDial_quiet env c p).central
      simp only [ignores, peripheral, central] at heeded ⊢
      exact heeded
    rw [Bool.not_false, Bool.and_true]
    simpa using iterate_settles (fun _ => onPeripheralError_of_heeds) keep n ignored

/-- Listeners that find what they look for, or abort. -/
theorem iterate_found_settles {f : Core → Core} {p : Ref} (found : Bool)
    (goes : found = true → ∀ c, SameDials c (f c))
    (aborts : found = false → ∀ c, f c = c.abortDial env p)
    (n : Nat) (c : Core) :
    Settles env c.outbound (if 0 < n && !found then some (p, .aborted) else none) (f^[n] c).outbound := by
  cases found with
  | true =>
    rw [Bool.not_true, Bool.and_false]
    exact (SameDials.iterate (goes rfl) n c).settles
  | false =>
    rw [Bool.not_false, Bool.and_true]
    simpa using iterate_settles (Q := fun _ => True) (fun c _ => aborts rfl c) (fun _ _ => trivial) n
      (trivial : True)

theorem onServicesDiscover_settles (p : Ref) (found : Bool) (n : Nat) (c : Core) :
    Settles env c.outbound (if 0 < n && !found then some (p, .aborted) else none)
      ((fun c => c.onServicesDiscover env p found)^[n] c).outbound := by
  refine iterate_found_settles found (fun yes c => ?_) (fun no c => ?_) n c
  · subst yes
    exact issue_sameDials c rfl
  · subst no
    rfl

theorem onCharacteristicsDiscover_settles (p : Ref) (found : Bool) (n : Nat) (c : Core) :
    Settles env c.outbound (if 0 < n && !found then some (p, .aborted) else none)
      ((fun c => c.onCharacteristicsDiscover env p found)^[n] c).outbound := by
  refine iterate_found_settles found (fun yes c => ?_) (fun no c => ?_) n c
  · subst yes
    exact issue_sameDials c rfl
  · subst no
    rfl

/-! Notifications. -/

theorem openCentralGatt_settles (p sess : Ref) (announced : Bytes) (c : Core) :
    Settles env c.outbound (some (p, .bound)) (c.openCentralGatt env p sess announced).outbound := by
  unfold openCentralGatt
  rw [bind_outbound p sess rfl]
  exact .binds p sess

theorem onHello_settles (p sess : Ref) (payload : Bytes) (c : Core) :
    Settles env c.outbound ((c.helloFate env p sess payload).map fun f => (p, f))
      (c.onHello env p sess payload).outbound := by
  unfold helloFate onHello
  obtain ⟨key, flags, psm⟩ := decodeKeyPayload payload
  split
  · exact .stays
  · dsimp only
    split
    · exact endCentral_settles env p (some sess) false c
    · split
      · let noted := c.updateDevice (c.peripheral p).id fun d => { d with peerKey := some (toHex key) }
        have stays : SameDials c noted := by
          refine .of_performs env (updateDevice_performs _ ?_ c)
          exact fun _ => ⟨rfl, rfl⟩
        have settles := endCentral_settles env p (some sess) true noted
        rw [stays] at settles
        exact settles
      · cases env.cfg.pipeFor flags with
        | none => exact endCentral_settles env p (some sess) false c
        | some name =>
          cases name with
          | gatt => exact openCentralGatt_settles p sess key c
          | l2cap =>
            cases psm with
            | none => exact endCentral_settles env p (some sess) false c
            | some psm =>
              have asked :=
                SameDials.of_performs env (openCentralL2cap_performs p sess psm key c rfl)
              exact asked.settles

theorem onCentralNotify_settles (p : Ref) (data : Bytes) (c : Core) :
    Settles env c.outbound ((c.notifyFate env p data).map fun f => (p, f))
      (c.onCentralNotify env p data).outbound := by
  unfold notifyFate onCentralNotify
  cases session : (c.peripheral p).session with
  | none => exact .stays
  | some sess =>
    cases decodeFrame (some data) with
    | none => exact .stays
    | some f =>
      dsimp only
      split
      · exact .stays
      · split
        · exact onHello_settles p sess f.payload c
        · by_cases closes : f.type = typeClose
          · have carries : f.type ≠ typeData := by
              rw [closes]
              decide
            rw [if_pos closes, if_pos closes, if_neg carries]
            cases (c.peripheral p).stream with
            | none => exact endCentral_settles env p none _ c
            | some st =>
              have cleared : c.SameDials (c.setPeripheral p fun q => { q with session := none }) :=
                setPeripheral_sameDials p c fun _ => rfl
              exact (cleared.trans (.of_performs env (remoteEnd_performs _ st))).settles
          · rw [if_neg closes, if_neg closes]
            split
            · cases (c.peripheral p).stream with
              | none => exact .stays
              | some st =>
                have pushed := SameDials.of_performs env (receive_performs st .gatt f.payload c rfl)
                exact pushed.settles
            · exact .stays

theorem notifyFate_of_gone {p : Ref} (data : Bytes) (gone : (c.peripheral p).session = none) :
    c.notifyFate env p data = none := by
  unfold notifyFate
  rw [gone]

/-- After a HELLO the session is over, or busy with its stream or the open of one. -/
theorem onHello_answers {p sess : Ref} (session : (c.peripheral p).session = some sess)
    (payload : Bytes) :
    let c' := c.onHello env p sess payload
    (c'.peripheral p).session = none ∨
      (c'.peripheral p).session = some sess ∧
        ((c'.peripheral p).stream.isSome || (c'.central.sessions.get sess).upgrading) = true := by
  unfold onHello
  dsimp only
  obtain ⟨key, flags, psm⟩ := decodeKeyPayload payload
  split
  · rename_i busy
    exact .inr ⟨session, busy⟩
  · split
    · exact .inl (endCentral_session env c p _ _)
    · split
      · exact .inl (endCentral_session env _ p _ _)
      · cases env.cfg.pipeFor flags with
        | none => exact .inl (endCentral_session env c p _ _)
        | some name =>
          cases name with
          | gatt =>
            let opened : Core := { c with
              streams := c.streams.alloc
                { pipe := .gatt, owner := .central p sess
                  maxPayload := some ((env.cfg.getMaxPayload (c.peripheral p).mtu).getD defaultPayload) } }
            obtain ⟨kept, stream, -, -⟩ := bindCentralStream_binds env opened p c.streams.next key
            have bound : ((c.openCentralGatt env p sess key).peripheral p).stream.isSome = true := by
              rw [Option.isSome_iff_exists]
              exact ⟨_, stream⟩
            exact .inr ⟨kept.trans session, by rw [bound, Bool.true_or]⟩
          | l2cap =>
            cases psm with
            | none => exact .inl (endCentral_session env c p _ _)
            | some psm =>
              obtain ⟨peripherals, -, sessions⟩ := openCentralL2cap_waits env c p sess psm key
              dsimp only
              rw [peripheral, peripherals, sessions, Heap.modify_get_self]
              exact .inr ⟨session, Bool.or_true _⟩

/-- A notification that is answered is not answered by the next listener. -/
theorem onCentralNotify_fate (p : Ref) (data : Bytes) (c : Core) :
    (c.onCentralNotify env p data).notifyFate env p data = none := by
  unfold onCentralNotify
  cases session : (c.peripheral p).session with
  | none => exact notifyFate_of_gone data session
  | some sess =>
    cases decoded : decodeFrame (some data) with
    | none => simp [notifyFate, session, decoded]
    | some f =>
      dsimp only
      split
      · rename_i foreign
        simp [notifyFate, session, decoded, foreign]
      · split
        · rename_i hello
          rcases @onHello_answers env _ _ _ session f.payload with gone | ⟨kept, busy⟩
          · exact notifyFate_of_gone data gone
          · simp [notifyFate, kept, decoded, helloFate, hello, busy]
        · rename_i other
          by_cases closes : f.type = typeClose
          · have carries : f.type ≠ typeData := by
              rw [closes]
              decide
            rw [if_neg carries, if_pos closes]
            apply notifyFate_of_gone
            cases (c.peripheral p).stream with
            | none => exact endCentral_session env c p none _
            | some st => simp [remoteEnd, setStream, setPeripheral, peripheral]
          · rw [if_neg closes]
            have idle : ∀ c' : Core, c'.central = c.central → c'.notifyFate env p data = none := by
              intro c' same
              have session' : (c'.peripheral p).session = some sess := by
                rw [peripheral, same]
                exact session
              simp [notifyFate, session', decoded, other, closes]
            split
            · cases (c.peripheral p).stream with
              | none => exact idle c rfl
              | some st => exact idle _ rfl
            · exact idle c rfl

/-- One notification reaches every listener of the peripheral. -/
theorem iterate_onCentralNotify_settles (p : Ref) (data : Bytes) (n : Nat) (c : Core) :
    Settles env c.outbound
      (if 0 < n then (c.notifyFate env p data).map fun f => (p, f) else none)
      ((fun c => c.onCentralNotify env p data)^[n] c).outbound := by
  have still : ∀ n (c : Core), c.notifyFate env p data = none →
      SameDials c ((fun c => c.onCentralNotify env p data)^[n] c) := by
    intro n
    induction n with
    | zero => exact fun c _ => .refl c
    | succ n ih =>
      intro c none
      have first := @onCentralNotify_settles env p data c
      rw [none] at first
      have same : SameDials c (c.onCentralNotify env p data) := first.same
      rw [Function.iterate_succ_apply]
      exact same.trans (ih _ (onCentralNotify_fate p data c))
  cases n with
  | zero => exact .stays
  | succ n =>
    have rest := still n _ (@onCentralNotify_fate env p data c)
    rw [if_pos (Nat.succ_pos n), Function.iterate_succ_apply, rest]
    exact onCentralNotify_settles p data c

/-! Opens. -/

theorem bindCentral_settles (p sess ch : Ref) (announced : Bytes) (c : Core) :
    Settles env c.outbound (some (p, if env.native.preambleThrows then .aborted else .bound))
      (c.bindCentral env p sess ch announced).outbound := by
  let written := c.issue (.writeChannel ch (fromHex (c.central.sessions.get sess).id))
  have stays : SameDials c written := issue_sameDials c rfl
  let heard := written.addReader ch (.stream c.streams.next)
  let s : Stream := { pipe := .l2cap, owner := .central p sess, channel := some ch }
  have run : c.bindCentral env p sess ch announced =
      if env.native.preambleThrows then written.abortDial env p
      else bindCentralStream env { heard with streams := heard.streams.alloc s } p heard.streams.next
        announced := rfl
  have bound := @bind_outbound env p sess s rfl announced heard
  have same : SameDials c heard := stays
  rw [run]
  cases env.native.preambleThrows with
  | true =>
    have aborted := abortDial_settles env p written
    rw [stays] at aborted
    exact aborted
  | false =>
    simp only [Bool.false_eq_true, if_false]
    rw [bound, same]
    exact .binds p sess

theorem settleOpen_settles (attempt : OpenAttempt) (channel : Option Ref) (c : Core) :
    Settles env c.outbound
      (if (c.peripheral attempt.peripheral).session ≠ some attempt.session || env.halted then none
        else some (attempt.peripheral,
          if channel.isNone || env.native.preambleThrows then .aborted else .bound))
      (c.settleOpen env attempt channel).outbound := by
  unfold settleOpen
  dsimp only
  split
  · exact (SameDials.of_performs env (destroyChannel_performs channel c)).settles
  · cases channel with
    | none => exact abortDial_settles env attempt.peripheral c
    | some ch => exact bindCentral_settles attempt.peripheral attempt.session ch attempt.announced c

theorem resumeOpen_settles (a : Ref) (c : Core) :
    Settles env c.outbound
      ((c.openFate env a).map fun f => ((c.central.attempts.get a).peripheral, f))
      (c.resumeOpen env a).outbound := by
  unfold openFate resumeOpen
  dsimp only
  obtain ⟨p, sess, announced, listening, timer, result, resumed⟩ := c.central.attempts.get a
  cases result with
  | none =>
    dsimp only
    split <;> exact .stays
  | some channel =>
    cases resumed with
    | true => exact .stays
    | false =>
      let marked := c.setAttempt a fun attempt => { attempt with resumed := true }
      let noted := marked.setCentralChannel (marked.peripheral p).id channel
      have stays : SameDials c noted := by
        cases channel <;> exact .refl c
      have slot : noted.peripheral p = c.peripheral p := by
        cases channel <;> rfl
      have settled := @settleOpen_settles env
        ⟨p, sess, announced, listening, timer, some channel, false⟩ channel noted
      rw [stays, slot] at settled
      dsimp only
      rw [Bool.false_or]
      split
      · rename_i ended
        rw [if_pos ended] at settled
        exact settled
      · rename_i current
        rw [if_neg current] at settled
        cases channel with
        | none => exact settled
        | some ch =>
          rw [Option.isNone_some, Bool.false_or] at settled
          dsimp only
          split
          · rename_i thrown
            rw [if_pos thrown] at settled
            exact settled
          · rename_i written
            rw [if_neg written] at settled
            exact settled

end Core

end BleSwarm
