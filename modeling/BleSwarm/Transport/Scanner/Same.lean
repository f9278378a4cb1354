import BleSwarm.Transport.Scanner

/-!
# Handlers that leave the scan alone

What hosts the service does, and so does every handler that is not allowed to scan.
-/

namespace BleSwarm

/-- Everything but the scan. -/
def Effects.unscanned : Effects := { Effects.all with scans := false }

namespace Core

variable {env : Env} {effects : Effects} {c c' : Core}

/-! Hosting the service. -/

theorem maybeAdvertise_sameScan (c : Core) : c.SameScan c.maybeAdvertise :=
  .ite (.refl c) (issue_sameScan { c with radio.advertising := true } rfl)

theorem onServiceAdd_sameScan (c : Core) : c.SameScan c.onServiceAdd :=
  maybeAdvertise_sameScan { c with radio.serviceAdded := true }

theorem publish_sameScan (c : Core) : c.SameScan (c.publish env) :=
  .ite (.refl c) (issue_sameScan c rfl)

theorem unpublish_sameScan (c : Core) : c.SameScan (c.unpublish env) := by
  unfold unpublish
  split
  · exact .refl c
  · have retracted : ∀ psm, c.SameScan
        (if env.cfg.channelSupport then c.issue (.unpublishChannel psm)
        else c) := fun psm => .ite (issue_sameScan c rfl) (.refl c)
    exact (retracted _).trans rfl

theorem cycle_sameScan (c : Core) : c.SameScan (c.cycle env) :=
  (unpublish_sameScan c).andThen publish_sameScan

theorem maybeCycle_sameScan (c : Core) : c.SameScan (c.maybeCycle env) :=
  .ite rfl (cycle_sameScan { c with server.cyclePending := false })

theorem startServer_sameScan (c : Core) : c.SameScan (c.startServer env) := by
  have hosted : c.SameScan (if c.radio.serviceAdded then c
      else c.issue (.addService (env.cfg.toServiceUUID none))) :=
    .ite (.refl c) (issue_sameScan c rfl)
  refine .ite (.refl c) (.ite (.refl c) (.ite (.refl c) (.ite ?_ hosted)))
  exact hosted.andThen publish_sameScan

theorem scheduleSelfHeal_sameScan (c : Core) : c.SameScan (c.scheduleSelfHeal env) :=
  .ite (.refl c) (.ite (.refl c)
    (issue_sameScan { c with radio.radioWasDown := false, radio.healing := true } rfl))

/-! Handlers that are made of the elementary changes. -/

theorem Performs.sameScan (h : Performs env effects c c') (still : effects.scans = false) :
    c.SameScan c' := by
  induction h with
  | refl c => exact .refl c
  | trans _ _ ih ih' => exact ih.trans ih'
  | issue c minor => exact issue_sameScan c (Command.toggles_of_minor minor)
  | connect c p live settles => exact issue_sameScan c rfl
  | sendOpen c p id payload starts begins => exact issue_sameScan c rfl
  | askChannel c p psm begins => exact issue_sameScan c rfl
  | maybeCycle c serves due => exact maybeCycle_sameScan c
  | note c state huntUntil online noted =>
    obtain rfl := noted.resolve_left (by simp [still])
    rfl
  | startScan c scans => simp [still] at scans
  | stopScan c scans => simp [still] at scans
  | onScanTimer c scans => simp [still] at scans
  | _ => rfl

theorem SameScan.of_performs (env : Env) (h : Performs env .unscanned c c') : c.SameScan c' :=
  h.sameScan rfl

theorem clearDial_sameScan (env : Env) (id : PeripheralId) (c : Core) :
    c.SameScan (c.clearDial id) :=
  .of_performs env (clearDial_performs id c rfl)

/-! The 'open' event of a link. -/

theorem onConnOpen_sameScan (r : Ref) (key : Bytes) (c : Core) :
    c.SameScan (c.onConnOpen env r key) := by
  have proved : c.SameScan { c with links := c.links.prove r key } := rfl
  have noted := proved.andThen fun c => .of_performs env (notePeerKey_performs r c)
  have tracked : ∀ c : Core, c.SameScan { c with links := c.links.track env.cfg.publicKey r } :=
    fun _ => rfl
  have told : ∀ c : Core, c.SameScan (c.issue .emitUpdate) := fun c => issue_sameScan c rfl
  exact .ite (.ite noted (.ite (noted.andThen tracked) ((noted.andThen tracked).andThen told))) (.refl c)

end Core

end BleSwarm
