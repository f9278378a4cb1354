import BleSwarm.Transport.Halted
import BleSwarm.Transport.Scanner.Same

/-!
# Handlers that ask for the scan

The end of a dial, a stream that is bound on either side and the end of the last link.
Whether a handler gets there can be read off the guards in front.
-/

namespace BleSwarm.Core

/-- The frame is an OPEN that is accepted on the gatt pipe, which binds a stream at once. -/
def seats (env : Env) (c : Core) (data : Bytes) : Bool :=
  match decodeFrame (some data) with
  | none => false
  | some f =>
    let { key, flags, .. } := decodeKeyPayload f.payload
    (c.server.table.get? f.id).isNone && decide (f.type = typeOpen) &&
      decide (c.judgeOpen env key flags = .accepted .gatt)

def Moment.seats (m : Moment) : Bool := m.core.seats m.env m.data

/-- The stream closes and leaves no link. -/
def closesLast (c : Core) (r : Ref) : Bool :=
  decide (r < c.links.conns.next) && !(c.links.conns.get r).closed &&
    decide ((c.links.onClose r).peers.size = 0)

variable {env : Env} {c : Core}

/-! Streams that are bound. -/

theorem onChannel_asksScan (st : Ref) (isInitiator : Bool) (id : Option PeripheralId)
    (announced : Bytes)
    (c : Core) : AsksScan env true c (c.onChannel env st isInitiator id announced).1 := by
  unfold onChannel
  split
  · rename_i halted
    exact .of_halted halted rfl
  · cases id with
    | none => exact (startScan_asksScan _).after rfl
    | some id => exact (startScan_asksScan _).after rfl

theorem bindServerStream_asksScan (r st : Ref) (c : Core) :
    AsksScan env true c (c.bindServerStream env r st) := by
  let named := c.setSession r fun s => { s with pipeTimer := none, stream := some st }
  let opened := named.onChannel env st false none (named.session r).announced
  have linked : AsksScan env true c opened.1 := (onChannel_asksScan st false none _ named).after rfl
  have whole : AsksScan env true c (opened.1.setSession r fun s => { s with conn := opened.2 }) :=
    linked.before rfl
  simp only [bindServerStream]
  split
  · exact whole.before (maybeCycle_sameScan _)
  · exact whole

theorem openServer_asksScan (r : Ref) (c : Core) : AsksScan env true c (c.openServer env r) :=
  (bindServerStream_asksScan r c.streams.next _).after rfl

theorem takeOver_asksScan (r ch : Ref) (rest : Bytes) (c : Core) :
    AsksScan env true c (c.takeOver env r ch rest) := by
  have bound : AsksScan env true c (bindServerStream env (addReader { c with
      streams := c.streams.alloc { pipe := .l2cap, owner := .server r, channel := some ch } } ch
      (.stream c.streams.next)) r c.streams.next) := (bindServerStream_asksScan r _ _).after rfl
  simp only [takeOver]
  split
  · exact bound.before rfl
  · exact bound

theorem resumeAccept_asksScan (a : Ref) (c : Core) :
    AsksScan env (c.awaited? a).isSome c (c.resumeAccept env a) := by
  let resumed := c.setAcceptor a fun acceptor => { acceptor with resumed := true }
  have resumes : c.SameScan resumed := rfl
  have refused : ∀ ch, c.SameScan (resumed.issue (.destroyChannel ch)) :=
    fun ch => resumes.trans (issue_sameScan _ rfl)
  unfold awaited? resumeAccept
  dsimp only
  cases (c.server.acceptors.get a).result with
  | none => exact rfl
  | some resolved =>
    obtain ⟨named, rest⟩ := resolved
    dsimp only
    cases (c.server.acceptors.get a).resumed with
    | true => exact rfl
    | false =>
      simp only [Bool.false_eq_true, if_false]
      have table : named.bind resumed.server.table.get? = named.bind c.server.table.get? := rfl
      rw [table]
      cases named.bind c.server.table.get? with
      | none => exact (refused _).asksScan
      | some r =>
        have session : resumed.session r = c.session r := rfl
        dsimp only
        rw [session]
        cases (c.session r).stream with
        | none => exact (takeOver_asksScan r _ rest resumed).after resumes
        | some st => exact (refused _).asksScan

/-! Frames. -/

theorem onOpen_asksScan (f : Frame) (c : Core) :
    AsksScan env (decide (c.judgeOpen env (decodeKeyPayload f.payload).key
      (decodeKeyPayload f.payload).flags = .accepted .gatt)) c (c.onOpen env f) := by
  simp only [onOpen]
  cases c.judgeOpen env (decodeKeyPayload f.payload).key (decodeKeyPayload f.payload).flags with
  | final => exact rfl
  | transient => exact rfl
  | accepted name =>
    cases name with
    | l2cap => exact rfl
    | gatt =>
      let entered : Core := { c with
        server.sessions := c.server.sessions.alloc
          { id := f.id, announced := (decodeKeyPayload f.payload).key }
        server.table := c.server.table.set f.id c.server.sessions.next }
      have enters : c.SameScan entered := rfl
      have opened : AsksScan env true entered (entered.openServer env c.server.sessions.next) :=
        openServer_asksScan c.server.sessions.next entered
      have told : AsksScan env true c
          ((entered.openServer env c.server.sessions.next).notifyHello env
          f.id env.cfg.publicKey) := (opened.after enters).before rfl
      simp only [decide_true]
      exact told

theorem onServerFrame_asksScan (data : Bytes) (c : Core) :
    AsksScan env (c.seats env data) c (c.onServerFrame env data) := by
  unfold onServerFrame seats
  cases decodeFrame (some data) with
  | none => exact rfl
  | some f =>
    dsimp only
    cases entry : c.server.table.get? f.id with
    | none =>
      by_cases opens : f.type = typeOpen
      · simp only [opens, if_true, Option.isNone_none, decide_true, Bool.true_and]
        exact onOpen_asksScan f c
      · simp only [opens, if_false, decide_false, Bool.and_false, Bool.false_and]
        exact rfl
    | some r =>
      simp only [Option.isNone_some, Bool.false_and]
      apply SameScan.asksScan
      refine .ite ?_ (.ite ?_ (.refl c))
      · split
        · exact .of_performs env (closeServerSession_performs _ c rfl)
        · exact rfl
      · have reaped : Performs env .unscanned c (c.reapSession env f.id r) :=
          reapSession_performs f.id r c rfl
        split
        · exact (SameScan.of_performs env reaped).trans rfl
        · exact .of_performs env reaped

theorem onWriteRequest_asksScan (req : Bytes × Bool) (c : Core) :
    AsksScan env (Moment.seats ⟨env, c, req.1⟩) c (c.onWriteRequests env [req]) := by
  obtain ⟨data, needed⟩ := req
  let answered : Core := if needed then c.issue .respondToRequest else c
  have answers : c.SameScan answered := .ite (issue_sameScan c rfl) (.refl c)
  have run : c.onWriteRequests env [(data, needed)] =
      if env.life.suspended then answered else answered.onServerFrame env data := rfl
  rw [run]
  split
  · rename_i suspended
    exact .of_halted (by simp [Env.halted, suspended]) answers
  · have same : answered.seats env data = c.seats env data := by
      cases needed <;> rfl
    have framed := (@onServerFrame_asksScan env data answered).after answers
    rw [same] at framed
    exact framed

/-- A batch asks for the scan if one of its frames does. -/
theorem onWriteRequests_asksScan (requests : List (Bytes × Bool)) (c : Core) :
    AsksScan env ((moments env c requests).any Moment.seats) c
      (c.onWriteRequests env requests) := by
  induction requests generalizing c with
  | nil => exact rfl
  | cons req requests ih =>
    rw [onWriteRequests_cons, moments, List.any_cons]
    exact (onWriteRequest_asksScan req c).trans (ih _)

/-! Links. -/

theorem untrack_asksScan (r : Ref) (c : Core) :
    AsksScan env (decide ((c.links.untrack r).peers.size = 0)) c (c.untrack env r) := by
  let untracked : Core := { c with links := c.links.untrack r }
  have leaves : c.SameScan untracked := rfl
  have told : ∀ c : Core, c.SameScan (c.issue .emitUpdate) := fun c => issue_sameScan c rfl
  simp only [untrack]
  split
  · rename_i ends
    refine .of_halted ?_ leaves
    simp only [Env.halted, Bool.or_assoc, ends, Bool.or_true]
  · by_cases last : (c.links.untrack r).peers.size = 0
    · cases suspended : env.life.suspended with
      | true =>
        simp only [Bool.not_true, Bool.and_false, Bool.false_eq_true, if_false]
        refine .of_halted ?_ (leaves.trans (told untracked))
        simp only [Env.halted, suspended, Bool.true_or]
      | false =>
        simp only [last, decide_true, Bool.not_false, Bool.and_true, if_true]
        let hunting : Core := { untracked with radio.huntUntil := env.now + huntWindow }
        have hunts : AsksScan env true c (hunting.startScan env) :=
          (startScan_asksScan hunting).after rfl
        exact (hunts.before (armScanRestart_sameScan _)).before (told _)
    · simp only [last, decide_false, Bool.false_and, Bool.false_eq_true, if_false]
      exact leaves.trans (told untracked)

theorem onConnClose_asksScan (r : Ref) (c : Core) :
    AsksScan env (c.closesLast r) c (c.onConnClose env r) := by
  simp only [onConnClose, closesLast, Links.onClose]
  split
  · rename_i closes
    let marked : Core := { c with links := c.links.markClosed r }
    have marks : c.SameScan marked := rfl
    have left : c.SameScan (marked.unmark (c.links.conns.get r).peripheralId) :=
      marks.andThen fun c => .of_performs env (unmark_performs _ c)
    have links : (marked.unmark (c.links.conns.get r).peripheralId).links = c.links.markClosed r :=
      (unmark_quiet marked _).links
    have untracked := (@untrack_asksScan env r _).after left
    rw [links] at untracked
    simp only [closes, Bool.true_and]
    exact untracked
  · rename_i keeps
    simp only [Bool.eq_false_iff.mpr keeps, Bool.false_and]
    exact rfl

/-! The ends of a dial. -/

theorem abortDial_asksScan (p : Ref) (c : Core) : AsksScan env true c (c.abortDial env p) := by
  let base := if c.linked then dialCooldownBase else dialCooldownBaseLonely
  let failed := c.updateDevice (c.peripheral p).id fun d =>
    { d with
      failures := d.failures + 1
      coolUntil := env.now + min dialCooldownMax (base * Nat.pow 2 (min 4 (d.failures + 1 - 1)))
      peripheral := none }
  have fails : c.SameScan failed := rfl
  have parted : ∀ c : Core, c.SameScan (c.disconnect p) := fun c => issue_sameScan c rfl
  have given := (fails.andThen (clearDial_sameScan env (c.peripheral p).id)).andThen parted
  exact (startScan_asksScan _).after given

theorem endCentral_asksScan (p : Ref) (sess : Option Ref) (keep : Bool) (c : Core) :
    AsksScan env true c (c.endCentral env p sess keep) := by
  have closed : c.SameScan (c.closeSession p sess) := by
    cases sess with
    | none => exact .refl c
    | some s => exact issue_sameScan c rfl
  let left := (c.closeSession p sess).setPeripheral p fun q => { q with session := none }
  let cooled := left.updateDevice (left.peripheral p).id fun d =>
    { d with coolUntil := env.now + dialCooldownMax, peripheral := if keep then some p else none }
  have cools : c.SameScan cooled := closed.trans rfl
  have given := cools.andThen (clearDial_sameScan env (left.peripheral p).id)
  have hung : ∀ c : Core, c.SameScan (if keep then c else c.disconnect p) :=
    fun c => .ite (.refl c) (issue_sameScan c rfl)
  exact (startScan_asksScan _).after (given.andThen hung)

theorem bindCentralStream_asksScan (p st : Ref) (announced : Bytes) (c : Core) :
    AsksScan env true c (c.bindCentralStream env p st announced) := by
  let placed := c.setPeripheral p fun q => { q with stream := some st }
  let cleared := placed.clearDial (placed.peripheral p).id
  have places : c.SameScan placed := rfl
  have clears : c.SameScan cleared := places.andThen (clearDial_sameScan env _)
  have bound : AsksScan env true cleared
      (cleared.onChannel env st true (some (placed.peripheral p).id) announced).1 :=
    onChannel_asksScan st true _ announced cleared
  exact (bound.after clears).before rfl

theorem openCentralGatt_asksScan (p sess : Ref) (announced : Bytes) (c : Core) :
    AsksScan env true c (c.openCentralGatt env p sess announced) :=
  (bindCentralStream_asksScan p c.streams.next announced _).after rfl

theorem onHello_asksScan (p sess : Ref) (payload : Bytes) (c : Core) :
    AsksScan env (c.helloFate env p sess payload).isSome c (c.onHello env p sess payload) := by
  unfold helloFate onHello
  obtain ⟨key, flags, psm⟩ := decodeKeyPayload payload
  split
  · exact rfl
  · dsimp only
    split
    · exact endCentral_asksScan p (some sess) false c
    · split
      · exact (endCentral_asksScan p (some sess) true _).after rfl
      · cases env.cfg.pipeFor flags with
        | none => exact endCentral_asksScan p (some sess) false c
        | some name =>
          cases name with
          | gatt => exact openCentralGatt_asksScan p sess key c
          | l2cap =>
            cases psm with
            | none => exact endCentral_asksScan p (some sess) false c
            | some psm =>
              exact SameScan.asksScan
                (.of_performs env (openCentralL2cap_performs p sess psm key c rfl))

theorem onCentralNotify_asksScan (p : Ref) (data : Bytes) (c : Core) :
    AsksScan env (c.notifyFate env p data).isSome c (c.onCentralNotify env p data) := by
  unfold notifyFate onCentralNotify
  cases (c.peripheral p).session with
  | none => exact rfl
  | some sess =>
    cases decodeFrame (some data) with
    | none => exact rfl
    | some f =>
      dsimp only
      split
      · exact rfl
      · split
        · exact onHello_asksScan p sess f.payload c
        · by_cases closes : f.type = typeClose
          · have carries : f.type ≠ typeData := by
              rw [closes]
              decide
            rw [if_pos closes, if_pos closes, if_neg carries]
            cases (c.peripheral p).stream with
            | none => exact endCentral_asksScan p none _ c
            | some st => exact rfl
          · rw [if_neg closes, if_neg closes]
            split
            · cases (c.peripheral p).stream with
              | none => exact rfl
              | some st => exact rfl
            · exact rfl

/-- The first listener answers a notification, if any does. -/
theorem iterate_onCentralNotify_asksScan (p : Ref) (data : Bytes) (n : Nat) (c : Core) :
    AsksScan env (decide (0 < n) && (c.notifyFate env p data).isSome) c
      ((fun c => c.onCentralNotify env p data)^[n] c) := by
  cases n with
  | zero => exact rfl
  | succ n =>
    let Q : Core → Prop := fun c => c.notifyFate env p data = none
    have silent : ∀ c, Q c →
        AsksScan env false c (c.onCentralNotify env p data) ∧ Q (c.onCentralNotify env p data) := by
      intro c none
      have first := @onCentralNotify_asksScan env p data c
      rw [none] at first
      exact ⟨first, onCentralNotify_fate p data c⟩
    have first := @onCentralNotify_asksScan env p data c
    have rest := AsksScan.iterate silent n (onCentralNotify_fate p data c)
    have whole := first.trans rest
    rw [Bool.and_false, Bool.or_false] at whole
    rw [Function.iterate_succ_apply, decide_eq_true (Nat.succ_pos n), Bool.true_and]
    exact whole

theorem onPeripheralError_asksScan (p : Ref) (n : Nat) (c : Core) :
    AsksScan env (decide (0 < n) && !c.ignores p) c
      ((fun c => c.onPeripheralError env p)^[n] c) := by
  refine AsksScan.iterate (Q := fun d => d.ignores p = c.ignores p) (fun d same => ?_) n rfl
  rw [← same]
  cases ignored : d.ignores p with
  | true =>
    rw [onPeripheralError_of_ignores ignored]
    exact ⟨rfl, ignored⟩
  | false =>
    rw [onPeripheralError_of_heeds ignored]
    refine ⟨abortDial_asksScan p d, ?_⟩
    have central := (abortDial_quiet env d p).central
    simp only [ignores, peripheral, central] at ignored ⊢
    exact ignored

/-- Listeners that find what they look for, or abort. -/
theorem iterate_found_asksScan {f : Core → Core} (p : Ref) (found : Bool)
    (goes : found = true → ∀ c, SameScan c (f c))
    (aborts : found = false → ∀ c, f c = c.abortDial env p)
    (n : Nat) (c : Core) : AsksScan env (decide (0 < n) && !found) c (f^[n] c) := by
  refine AsksScan.iterate (Q := fun _ => True) (fun d _ => ⟨?_, trivial⟩) n trivial
  cases found with
  | true => exact (goes rfl d).asksScan
  | false =>
    rw [aborts rfl d]
    exact abortDial_asksScan p d

theorem onServicesDiscover_asksScan (p : Ref) (found : Bool) (n : Nat) (c : Core) :
    AsksScan env (decide (0 < n) && !found) c
      ((fun c => c.onServicesDiscover env p found)^[n] c) := by
  refine iterate_found_asksScan p found (fun yes c => ?_) (fun no c => ?_) n c
  · subst yes
    exact issue_sameScan c rfl
  · subst no
    rfl

theorem onCharacteristicsDiscover_asksScan (p : Ref) (found : Bool) (n : Nat) (c : Core) :
    AsksScan env (decide (0 < n) && !found) c
      ((fun c => c.onCharacteristicsDiscover env p found)^[n] c) := by
  refine iterate_found_asksScan p found (fun yes c => ?_) (fun no c => ?_) n c
  · subst yes
    exact issue_sameScan c rfl
  · subst no
    rfl

theorem bindCentral_asksScan (p sess ch : Ref) (announced : Bytes) (c : Core) :
    AsksScan env true c (c.bindCentral env p sess ch announced) := by
  have written :
      c.SameScan (c.issue (.writeChannel ch (fromHex (c.central.sessions.get sess).id))) :=
    issue_sameScan c rfl
  simp only [bindCentral]
  split
  · exact (abortDial_asksScan p _).after written
  · exact (bindCentralStream_asksScan p _ announced _).after (written.trans rfl)

theorem settleOpen_asksScan (attempt : OpenAttempt) (channel : Option Ref) (c : Core) :
    AsksScan env (!(decide ((c.peripheral attempt.peripheral).session ≠ some attempt.session) ||
      env.halted)) c (c.settleOpen env attempt channel) := by
  simp only [settleOpen]
  split
  · rename_i ended
    rw [ended]
    exact SameScan.asksScan (.of_performs env (destroyChannel_performs channel c))
  · rename_i current
    rw [Bool.eq_false_iff.mpr current]
    cases channel with
    | none => exact abortDial_asksScan attempt.peripheral c
    | some ch =>
      exact bindCentral_asksScan attempt.peripheral attempt.session ch attempt.announced c

theorem resumeOpen_asksScan (a : Ref) (c : Core) :
    AsksScan env (c.openFate env a).isSome c (c.resumeOpen env a) := by
  unfold openFate resumeOpen
  dsimp only
  obtain ⟨p, sess, announced, listening, timer, result, resumed⟩ := c.central.attempts.get a
  cases result with
  | none =>
    dsimp only
    split <;> exact rfl
  | some channel =>
    cases resumed with
    | true => exact rfl
    | false =>
      let marked := c.setAttempt a fun attempt => { attempt with resumed := true }
      let noted := marked.setCentralChannel (marked.peripheral p).id channel
      have notes : c.SameScan noted := by
        cases channel <;> exact rfl
      have slot : noted.peripheral p = c.peripheral p := by
        cases channel <;> rfl
      have settled := (@settleOpen_asksScan env
        ⟨p, sess, announced, listening, timer, some channel, false⟩ channel noted).after notes
      rw [slot] at settled
      dsimp only
      rw [Bool.false_or]
      split
      · rename_i ended
        rw [ended] at settled
        exact settled
      · rename_i current
        rw [Bool.eq_false_iff.mpr current] at settled
        cases channel with
        | none => exact settled
        | some ch =>
          dsimp only
          split <;> exact settled

theorem onDialTimeout_asksScan (id : PeripheralId) (c : Core) :
    AsksScan env (c.dialDue env id).isSome c (c.onDialTimeout env id) := by
  unfold dialDue onDialTimeout
  cases (c.dial.devices.get? id).bind Device.timer with
  | none => exact rfl
  | some due =>
    obtain ⟨p, deadline⟩ := due
    dsimp only
    split
    · exact abortDial_asksScan p c
    · exact rfl

theorem onStrayTimeout_asksScan (i : Nat) (c : Core) :
    AsksScan env (c.strayDue env i).isSome c (c.onStrayTimeout env i) := by
  unfold strayDue onStrayTimeout
  cases c.dial.strays[i]? with
  | none => exact rfl
  | some due =>
    obtain ⟨p, deadline⟩ := due
    dsimp only
    split
    · have marked : c.SameScan { c with dial.strays := c.dial.strays.eraseIdx i } := rfl
      exact (abortDial_asksScan p _).after marked
    · exact rfl

end BleSwarm.Core
