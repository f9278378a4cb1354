import BleSwarm.Transport.Ledger

/-!
# The psm of a listener that is gone

A power cycle of the radio takes the listener away, and the psm stays recorded until another
is reported. Until then a HELLO hands it out.
-/

namespace BleSwarm

namespace Notice

/-- The last psm that was reported. -/
def reported? (log : List Notice) : Option Nat :=
  log.reverse.findSome? fun
    | .published psm => some psm
    | _ => none

/-- What came after the last power-off, latest first. -/
def sinceDown (log : List Notice) : List Notice := log.reverse.takeWhile (· != .down)

/-- A psm was reported since the last power-off. -/
def renewed (log : List Notice) : Bool :=
  (sinceDown log).any fun
    | .published _ => true
    | _ => false

@[simp] theorem reported_append_published (log : List Notice) (psm : Nat) :
    reported? (log ++ [.published psm]) = some psm := by
  simp [reported?]

theorem reported_append_of_unpublished {log : List Notice} {notice : Notice}
    (unpublished : ∀ psm, notice ≠ .published psm) : reported? (log ++ [notice]) = reported? log := by
  cases notice with
  | published psm => exact absurd rfl (unpublished psm)
  | _ => simp [reported?]

/-- The psm that was reported last was reported since the power-off, if any was. -/
theorem mem_sinceDown {log : List Notice} {psm : Nat} (last : reported? log = some psm)
    (renews : renewed log = true) : .published psm ∈ sinceDown log := by
  unfold reported? at last
  unfold renewed at renews
  unfold sinceDown at *
  generalize log.reverse = past at last renews
  induction past with
  | nil => cases last
  | cons notice past ih =>
    cases notice with
    | published psm' =>
      obtain rfl : psm' = psm := by simpa using last
      simp
    | down => simp at renews
    | requested =>
      rw [List.takeWhile_cons_of_pos (by decide)] at renews ⊢
      exact List.mem_cons_of_mem _ (ih last renews)
    | retracted psm' =>
      rw [List.takeWhile_cons_of_pos (by simp)] at renews ⊢
      exact List.mem_cons_of_mem _ (ih last renews)

theorem renewed_of_mem {log : List Notice} {psm : Nat} (mem : .published psm ∈ sinceDown log) :
    renewed log = true := List.any_eq_true.mpr ⟨_, mem, rfl⟩

end Notice

namespace Listener

open Notice

/-- The psm that is recorded is the last that was reported. -/
def Latest (l : Listener) : Prop := ∀ psm, l.psm = some psm → reported? l.log = some psm

variable {supported : Bool} {l : Listener}

theorem cycle_psm (supported : Bool) (l : Listener) : (l.take supported .cycle).psm = none := by
  obtain ⟨psm, log⟩ := l
  cases psm <;> cases supported <;> rfl

theorem publish_latest (h : l.Latest) : (l.publish supported).Latest := by
  unfold publish
  split
  · exact h
  · intro psm recorded
    exact (reported_append_of_unpublished (by simp)).trans (h psm recorded)

theorem unpublish_latest (h : l.Latest) : (l.unpublish supported).Latest := by
  unfold unpublish
  split
  · exact h
  · exact fun psm recorded => absurd recorded (by simp)

theorem take_latest (h : l.Latest) (turn : Turn) : (l.take supported turn).Latest := by
  cases turn with
  | publish => exact publish_latest h
  | unpublish => exact unpublish_latest h
  | cycle => exact publish_latest (unpublish_latest h)
  | published psm =>
    intro psm' recorded
    obtain rfl := Option.some.inj recorded
    exact reported_append_published l.log psm
  | down => exact fun psm recorded => (reported_append_of_unpublished (by simp)).trans (h psm recorded)

theorem foldl_latest (h : l.Latest) (turns : List Turn) : (turns.foldl (take supported) l).Latest := by
  induction turns generalizing l with
  | nil => exact h
  | cons turn turns ih => exact ih (take_latest h turn)

end Listener

namespace Core

variable {env : Env} {c : Core}

/-- A frame leaves the psm recorded that was, or none. -/
theorem onWriteRequest_psm (l2cap : env.cfg.pipe = .l2cap) (running : env.life.suspended = false)
    {req : Bytes × Bool} {psm : Nat} (recorded : (c.onWriteRequests env [req]).server.psm = some psm) :
    c.server.psm = some psm := by
  have now := congrArg Listener.psm (onWriteRequest_listener l2cap running c req)
  rw [listener, recorded] at now
  simp only [Moment.turns] at now
  split at now
  · exact now.symm
  · split at now
    · exact absurd (now.trans (Listener.cycle_psm _ _)) (by simp)
    · exact now.symm

/-- No psm is new to the frames of a batch. -/
theorem moments_psm (l2cap : env.cfg.pipe = .l2cap) (running : env.life.suspended = false)
    {requests : List (Bytes × Bool)} {m : Moment} (mem : m ∈ moments env c requests) {psm : Nat}
    (recorded : m.core.server.psm = some psm) : c.server.psm = some psm := by
  induction requests generalizing c with
  | nil => cases mem
  | cons req requests ih =>
    rcases List.mem_cons.mp mem with rfl | later
    · exact recorded
    · exact onWriteRequest_psm l2cap running (ih later)

theorem promises_recorded {data : Bytes} {id : Hex} {psm : Nat}
    (promises : c.promises? env data = some (id, psm)) : c.server.psm = some psm := by
  unfold promises? at promises
  split at promises
  · cases promises
  · split at promises
    · cases promises
    · simp only at promises
      split at promises
      · obtain ⟨psm', recorded, pair⟩ := Option.map_eq_some_iff.mp promises
        rw [recorded, (Prod.mk.inj pair).2]
      · cases promises

end Core

namespace Ledger

open BleSwarm.Core BleSwarm.Transport Notice

/-- Each HELLO of the step carries a psm that was reported since the last power-off. -/
def Lively (w : Ledger) (a : Action) : Prop :=
  ∀ m ∈ w.transport.frames a, ∀ promise ∈ m.core.promises? m.env m.data,
    .published promise.2 ∈ sinceDown w.log

/-- An OPEN is accepted only once the server has reported a psm since the last power-off. -/
def Renewed (w : Ledger) (a : Action) : Prop :=
  ∀ m ∈ w.transport.frames a, (m.core.promises? m.env m.data).isSome = true → renewed w.log = true

instance (w : Ledger) (a : Action) : Decidable (w.Lively a) :=
  inferInstanceAs (Decidable (∀ m ∈ w.transport.frames a, ∀ promise ∈ m.core.promises? m.env m.data, _))

instance (w : Ledger) (a : Action) : Decidable (w.Renewed a) :=
  inferInstanceAs (Decidable (∀ m ∈ w.transport.frames a, _))

structure Reports (w : Ledger) : Prop where
  l2cap : w.transport.cfg.pipe = .l2cap
  latest : w.listener.Latest

theorem frames_psm {w : Ledger} (h : w.Reports) {a : Action} {m : Moment} (mem : m ∈ w.transport.frames a)
    {psm : Nat} (recorded : m.core.server.psm = some psm) : w.transport.core.server.psm = some psm := by
  unfold frames at mem
  split at mem
  · rename_i i
    split at mem
    · rename_i requests
      split at mem
      · rename_i running
        have running : (w.transport.env i.now i.native).life.suspended = false := by
          have running : w.transport.life.suspended = false := by
            simpa using (Bool.and_eq_true_iff.mp running).2
          exact running
        have l2cap : (w.transport.env i.now i.native).cfg.pipe = .l2cap := h.l2cap
        exact moments_psm l2cap running mem recorded
      · cases mem
    · cases mem
  · cases mem

theorem lively_iff {w : Ledger} (h : w.Reports) (a : Action) : w.Lively a ↔ w.Renewed a := by
  constructor
  · intro lively m mem promises
    obtain ⟨promise, here⟩ := Option.isSome_iff_exists.mp promises
    exact renewed_of_mem (lively m mem promise here)
  · rintro renews m mem ⟨id, psm⟩ promises
    apply mem_sinceDown
    · exact h.latest psm (frames_psm h mem (promises_recorded promises))
    · exact renews m mem (by simp [Option.mem_def.mp promises])

theorem act_reports {w : Ledger} (h : w.Reports) (a : Action) : (w.act a).Reports := by
  have cfg : (w.act a).transport.cfg = w.transport.cfg := act_cfg w.transport a
  refine ⟨by rw [cfg, h.l2cap], ?_⟩
  rw [act_listener h.l2cap]
  exact Listener.foldl_latest h.latest _

/-- On the l2cap pipe every HELLO carries the psm of a listener that no power-off took away,
exactly in the runs in which no OPEN is accepted between a power-off and the next psm that the
server reports. -/
theorem hello_lively_iff (cfg : Config) (topic : Option Bytes) (online : Bool) (ids : Ref → PeripheralId)
    (actions : List Action) :
    Runs.Each act Lively { transport := create { cfg with pipe := .l2cap } topic online ids } actions ↔
      Runs.Each act Renewed { transport := create { cfg with pipe := .l2cap } topic online ids } actions := by
  refine Runs.each_iff (fun _ a h => lively_iff h a) (fun _ a h _ => act_reports h a) ?_ actions
  exact ⟨rfl, fun psm recorded => absurd recorded (by simp [listener, create])⟩

/-- The server's radio is cycled, and a remote asks for a session before a psm is reported. -/
theorem hello_of_dead_listener :
    ¬ Runs.Each act Lively
      { transport := create (Config.plain (List.replicate 32 1) .l2cap .mac) none false id }
      (startThen [.channelPublish 128, .serverState .poweredOff, .serverState .poweredOn,
        .writeRequests [(asksChannel (List.replicate 8 7) (List.replicate 32 2), false)]]) := by
  decide +kernel

end Ledger

end BleSwarm
