import BleSwarm.Transport.Step

/-!
# What each step does to the lifecycle flags

Handlers run in an environment they cannot write, so only the owner's calls
change the flags, each in the way stated here.
-/

namespace BleSwarm.Transport

variable (t : Transport) (now : Nat) (native : Native)

@[simp] theorem withCore_life (f : Core → Core) : (t.withCore f).life = t.life := rfl

@[simp] theorem withCore_core (f : Core → Core) : (t.withCore f).core = f t.core := rfl

@[simp] theorem withCore_listeners (f : Core → Core) : (t.withCore f).listeners = t.listeners := rfl

@[simp] theorem setListeners_core (p : Ref) (f : Listeners → Listeners) :
    (t.setListeners p f).core = t.core := rfl

@[simp] theorem begin_life : (t.begin native).life = t.life := rfl

@[simp] theorem begin_listeners : (t.begin native).listeners = t.listeners := rfl

/-- What one callback keeps, any number of callbacks in a row keep. -/
theorem iterate_keeps {α β : Type*} (view : α → β) (f : α → α) (keep : ∀ a, view (f a) = view a)
    (n : Nat) (a : α) : view (f^[n] a) = view a := by
  induction n generalizing a with
  | zero => rfl
  | succ n ih =>
    rw [Function.iterate_succ_apply, ih]
    exact keep a

theorem onNotifyState_life (env : Env) (p : Ref) (isNotifying : Bool) :
    (onNotifyState env t p isNotifying).life = t.life := by
  unfold onNotifyState startCentralSession
  split <;> rfl

@[simp] theorem handle_life (env : Env) (e : Event) : (t.handle env e).life = t.life := by
  cases e with
  | notifyState p isNotifying =>
    exact iterate_keeps life _ (fun t => onNotifyState_life t env p isNotifying) _ _
  | _ => rfl

@[simp] theorem input_life (i : Input) : (t.input i).life = t.life := by
  simp only [input]
  split
  · rw [handle_life, begin_life]
  · rfl

@[simp] theorem setOnline_life (online : Bool) : (t.setOnline online now).life = t.life := rfl

@[simp] theorem setTopic_life (topic : Option Bytes) : (t.setTopic topic).1.life = t.life := rfl

@[simp] theorem destroyManagers_life :
    t.destroyManagers.life = { t.life with managersDestroyed := true } := rfl

@[simp] theorem removeServices_life :
    t.removeServices.life = { t.life with servicesRemoved := true } := rfl

@[simp] theorem suspend_life : (t.suspend now native).life =
    { t.life with
      suspended := true
      drains := t.life.drains ++ [t.life.nextDrain]
      nextDrain := t.life.nextDrain + 1 } := rfl

@[simp] theorem drained_life (call : Nat) :
    (t.drained call now native).life = { t.life with drains := t.life.drains.erase call } := by
  simp only [drained]
  split
  · rfl
  · rename_i absent
    have same : t.life.drains.erase call = t.life.drains := List.erase_of_not_mem absent
    rw [same]
    rfl

@[simp] theorem resume_life : (t.resume now).life = { t.life with suspended := false } := by
  simp only [resume]
  split <;> rfl

@[simp] theorem close_closing : (t.close now).life.closing = true := by
  simp only [close]
  split
  · rename_i closing
    exact closing
  · split <;> rfl

@[simp] theorem runOpen_suspended (server central : AdapterState) :
    (t.runOpen server central now).life.suspended = t.life.suspended := by
  simp only [runOpen]
  split
  · rfl
  · split <;> rfl

@[simp] theorem runOpen_drains (server central : AdapterState) :
    (t.runOpen server central now).life.drains = t.life.drains := by
  simp only [runOpen]
  split
  · rfl
  · split <;> rfl

@[simp] theorem runOpen_closing (server central : AdapterState) :
    (t.runOpen server central now).life.closing = t.life.closing := by
  simp only [runOpen]
  split
  · rfl
  · split <;> rfl

theorem runOpen_closed (server central : AdapterState) (h : t.life.closed = true) :
    (t.runOpen server central now).life.closed = true := by
  simp only [runOpen]
  split
  · exact h
  · split
    · rfl
    · exact h

@[simp] theorem handle_cfg (env : Env) (e : Event) : (t.handle env e).cfg = t.cfg := by
  cases e with
  | notifyState p isNotifying =>
    refine iterate_keeps cfg _ (fun t => ?_) _ _
    unfold onNotifyState startCentralSession
    split <;> rfl
  | _ => rfl

@[simp] theorem act_cfg (a : Action) : (t.act a).cfg = t.cfg := by
  cases a with
  | input i =>
    simp only [act, input]
    split
    · rw [handle_cfg]
      rfl
    · rfl
  | «open» server central now =>
    simp only [act, runOpen]
    split
    · rfl
    · split <;> rfl
  | drained call now native =>
    simp only [act, drained]
    split <;> rfl
  | resume now =>
    simp only [act, resume]
    split <;> rfl
  | close now =>
    simp only [act, close]
    split
    · rfl
    · split <;> rfl
  | _ => rfl

end BleSwarm.Transport
