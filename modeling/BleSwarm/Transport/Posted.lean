import BleSwarm.Transport.Mailed

/-!
# What a central writes

A central writes one OPEN for each session that it starts. All else that it writes is CLOSE,
but for the DATA that its owner hands to a stream.
-/

namespace BleSwarm.Core

variable (there : Ref → Bool)

/-- The frame that a command writes, if it goes there. -/
def post : Command → Option Bytes
  | .send p frame _ => if there p then some frame else none
  | _ => none

def posts (commands : List Command) : List Bytes := commands.filterMap (post there)

@[simp] theorem posts_append (commands commands' : List Command) :
    posts there (commands ++ commands') = posts there commands ++ posts there commands' :=
  List.filterMap_append

/-- The command writes no frame but CLOSE. -/
def Closes : Command → Prop
  | .send _ frame _ => frame.head? = some typeClose
  | _ => True

theorem plain_closes (command : Command) (plain : command.plain) : Closes command := by
  cases command with
  | send p frame withResponse => exact plain
  | _ => trivial

/-- What the sessions are sent is one OPEN each, and only those that start are. -/
structure Invites (cfg : Config) (c c' : Core) : Prop where
  started : c.central.sessions.next ≤ c'.central.sessions.next
  sends : ∃ more, c'.out = c.out ++ more ∧ ∀ n,
    (∀ m < c'.central.sessions.next, cfg.randomId m = cfg.randomId n → m = n) →
    mail (cfg.randomId n) (posts there more) = [] ∨
    c.central.sessions.next ≤ n ∧ n < c'.central.sessions.next ∧
      mail (cfg.randomId n) (posts there more) = [none]

variable {there} {env : Env} {ev : Evidence} {cfg : Config} {c c' c'' : Core}

namespace Invites

theorem trans (h : Invites there cfg c c') (h' : Invites there cfg c' c'') :
    Invites there cfg c c'' where
  started := h.started.trans h'.started
  sends := by
    obtain ⟨more, out, sent⟩ := h.sends
    obtain ⟨more', out', sent'⟩ := h'.sends
    refine ⟨more ++ more', by rw [out', out, List.append_assoc], fun n distinct => ?_⟩
    have earlier := sent n fun m lt => distinct m (lt.trans_le h'.started)
    rw [posts_append, mail_append]
    rcases sent' n distinct with none' | ⟨since', until', one'⟩
    · rw [none', List.append_nil]
      exact earlier.imp_right fun ⟨since, until_, one⟩ => ⟨since, until_.trans_le h'.started, one⟩
    · rcases earlier with none | ⟨-, until_, -⟩
      · rw [none, one']
        exact .inr ⟨h.started.trans since', until', rfl⟩
      · exact absurd since' (Nat.not_le_of_lt until_)

/-- Nothing starts and nothing is written but CLOSE. -/
theorem still (closes : Says Closes c c')
    (started : c'.central.sessions.next = c.central.sessions.next) :
    Invites there cfg c c' := by
  obtain ⟨more, out, closes⟩ := closes
  refine ⟨started.ge, more, out, fun n _ => .inl (mail_eq_nil fun frame mem => ?_)⟩
  obtain ⟨command, issued, is⟩ := List.mem_filterMap.mp mem
  cases command with
  | send p written withResponse =>
    have close : written.head? = some typeClose := closes _ issued
    simp only [post] at is
    split at is
    · obtain rfl := Option.some.inj is
      exact said_of_close close _
    · cases is
  | _ => cases is

/-- A session starts. -/
theorem start (whole : ∀ n, ∃ sid, sid.length = sidLen ∧ env.cfg.randomId n = toHex sid) (c : Core)
    (p : Ref) : Invites there env.cfg c (c.startCentralSession env p) := by
  let s := c.central.sessions.next
  have out : (c.startCentralSession env p).out =
      c.out ++ [.send p (openFrame env.cfg (env.cfg.randomId s)) true] ++
        [.requestMtu p requestMtu] := rfl
  refine ⟨Nat.le_succ s, _, out.trans (List.append_assoc ..), fun n distinct => ?_⟩
  obtain ⟨sid, long, drawn⟩ := whole s
  have opens : ∀ id, said id (openFrame env.cfg (env.cfg.randomId s)) =
      if env.cfg.randomId s = id then some none else none := by
    intro id
    rw [drawn]
    simp [said, openFrame, decodeFrame_encodeFrame typeOpen long]
  by_cases here : there p = true
  · by_cases same : env.cfg.randomId s = env.cfg.randomId n
    · obtain rfl := distinct s (Nat.lt_succ_self s) same
      refine .inr ⟨le_refl _, Nat.lt_succ_self _, ?_⟩
      simp [posts, post, here, mail, opens]
    · simp [posts, post, here, mail, opens, same]
  · simp [posts, post, here, mail]

end Invites

theorem Traces.invites (whole : ∀ n, ∃ sid, sid.length = sidLen ∧ env.cfg.randomId n = toHex sid)
    (unhanded : ∀ st payload, ¬ ev.handed st payload) (h : Traces env ev c c') :
    Invites there env.cfg c c' := by
  induction h with
  | trans _ _ ih ih' => exact ih.trans ih'
  | noneBegins h => exact .still (h.out.mono plain_closes) h.started.next
  | start c clear => exact .start whole c _
  | attempt c timer current told accepted suits => exact .still (.issue _ trivial) rfl
  | send c ackWrites handed => exact absurd handed (unhanded _ _)
  | _ => exact .still (.of_same rfl) rfl


/-! A fragment that is handed to a stream. -/

section

variable {st : Ref} (payload : Bytes) (ackWrites : Bool)

theorem sendFragment_of_not (other : ¬ (st < c.streams.next ∧ (c.streams.get st).pipe = .gatt)) :
    c.sendFragment env st payload ackWrites = c := if_neg (by simpa using other)

variable (made : st < c.streams.next ∧ (c.streams.get st).pipe = .gatt)

include made

theorem sendFragment_of_server {r : Ref} (owner : (c.streams.get st).owner = .server r) :
    c.sendFragment env st payload ackWrites =
      c.notify env (encodeFrame typeData (c.session r).id payload) := by
  simp [sendFragment, made, owner]

theorem sendFragment_of_central {p s : Ref} (owner : (c.streams.get st).owner = .central p s) :
    c.sendFragment env st payload ackWrites =
      c.send p (encodeFrame typeData (c.central.sessions.get s).id payload) ackWrites := by
  simp [sendFragment, made, owner]

end

end BleSwarm.Core
