import BleSwarm.Air.Agreement
import BleSwarm.Transport.Posted

/-!
# What a session delivers

Where a server takes the frames of a session as its central wrote them, the stream of the
session receives what was handed to the stream of the central: all of it in order, up to
where the server got.
-/

namespace BleSwarm

open BleSwarm.Core BleSwarm.Transport

namespace Core

/-- Chunks that followed the OPEN of a session which is all that came before them. -/
theorem Follows.begins {mail : List (Option Bytes)} {chunks sent : List Bytes} {lasts : Prop}
    (h : Follows mail chunks lasts)
    (posted : mail <+: sent.map some ∨ mail <+: none :: sent.map some) : chunks <+: sent := by
  obtain ⟨before, mid, after, rfl, rfl, -⟩ := h
  have none_mem : none ∈ before ++ none :: mid ++ after := by simp
  have unsent : (none : Option Bytes) ∉ sent.map some := by simp
  rcases posted with all | first
  · exact absurd (all.mem none_mem) unsent
  · cases before with
    | cons x before =>
      have rest : before ++ none :: mid ++ after <+: sent.map some :=
        (List.cons_prefix_cons.mp first).2
      exact absurd (rest.mem (by simp)) unsent
    | nil =>
      have rest : mid ++ after <+: sent.map some := (List.cons_prefix_cons.mp first).2
      have chunks := ((List.prefix_append mid after).trans rest).filterMap id
      simpa [List.reduceOption] using chunks

/-- All that followed the OPEN, where the session took all. -/
theorem Follows.whole {mail : List (Option Bytes)} {chunks sent : List Bytes} {lasts : Prop}
    (h : Follows mail chunks lasts) (last : lasts)
    (posted : mail = sent.map some ∨ mail = none :: sent.map some) : chunks = sent := by
  obtain ⟨before, mid, after, rfl, rfl, all⟩ := h
  obtain rfl := all last
  have unsent : (none : Option Bytes) ∉ sent.map some := by simp
  rcases posted with every | first
  · exact absurd (every ▸ by simp : none ∈ sent.map some) unsent
  · cases before with
    | cons x before =>
      have rest : before ++ none :: mid ++ [] = sent.map some := (List.cons.inj first).2
      exact absurd (rest ▸ by simp : none ∈ sent.map some) unsent
    | nil =>
      have rest : mid ++ [] = sent.map some := (List.cons.inj first).2
      rw [List.append_nil] at rest
      rw [rest]
      simp [List.reduceOption]

theorem said_ne_none {id : Hex} {frame : Bytes} (speaks : said id frame ≠ none) :
    ∃ payload, decodeFrame (some frame) = some ⟨typeOpen, id, payload⟩ ∨
      decodeFrame (some frame) = some ⟨typeData, id, payload⟩ := by
  unfold said at speaks
  cases decoded : decodeFrame (some frame) with
  | none => simp [decoded] at speaks
  | some f =>
    obtain ⟨type, id', payload⟩ := f
    simp only [decoded] at speaks
    split at speaks
    · rename_i own
      subst own
      split at speaks
      · rename_i opens
        exact ⟨payload, .inl (opens ▸ rfl)⟩
      · split at speaks
        · rename_i data
          exact ⟨payload, .inr (data ▸ rfl)⟩
        · exact absurd rfl speaks
    · exact absurd rfl speaks

end Core

namespace Airspace

variable {ι : Type*} [DecidableEq ι] (w : Airspace ι)

/-- The frame that a message brings to the server of a device. -/
def letter (b : ι) : Message ι → Option Bytes
  | .write _ dst frame => if dst = b then some frame else none
  | .notification _ _ => none

/-- The frames that were written to the server of a device. -/
def letters (b : ι) (air : List (Message ι)) : List Bytes := air.filterMap (letter b)

/-- The device is behind the peripheral. -/
def reaches (a b : ι) (p : Ref) : Bool := decide (w.peer a p = b)

/-- What a fragment that was handed to a stream is to the `n`-th session of a device. -/
def forwards (c : Core) (a : ι) (n : Ref) (b : ι) (handed : Ref × Bytes) : Option Bytes :=
  match (c.streams.get handed.1).owner with
  | .central p m => if m = n ∧ w.peer a p = b then some handed.2 else none
  | .server _ => none

/-- What was handed to the streams of the `n`-th session that `a` started, to go to `b`. -/
def sent (s : Sky ι) (a : ι) (n : Ref) (b : ι) : List Bytes :=
  (s.nodes a).handed.filterMap (w.forwards (s.nodes a).core a n b)

/-- What is on the air for a session is its OPEN and what was handed to its streams. -/
structure Posted (w : Airspace ι) (s : Sky ι) : Prop where
  made : ∀ a, ∀ handed ∈ (s.nodes a).handed, handed.1 < (s.nodes a).core.streams.next
  posted : w.Distinct s → ∀ a b, ∀ n < (s.nodes a).core.central.sessions.next,
    mail ((w.cfg a).randomId n) (letters b s.air) = (w.sent s a n b).map some ∨
    mail ((w.cfg a).randomId n) (letters b s.air) = none :: (w.sent s a n b).map some
  taken : ∀ b, Mailed (s.nodes b).heard (s.nodes b).core

variable {w} {s s' : Sky ι} {e : ι × Deed}

@[simp] theorem letters_append (b : ι) (air air' : List (Message ι)) :
    letters b (air ++ air') = letters b air ++ letters b air' := List.filterMap_append

theorem letters_speaks (b i : ι) (x : Station) (d : Deed) :
    letters b (w.speaks i x d) = posts (w.reaches i b) (x.step d).core.out := by
  have writes : ∀ command, (w.written i command).bind (letter b) =
      post (w.reaches i b) command := by
    intro command
    cases command with
    | send p frame withResponse => simp [written, letter, post, reaches]
    | _ => rfl
  have none : ∀ frames : List Bytes, letters b (frames.map (.notification i)) = [] := by
    intro frames
    refine List.filterMap_eq_nil_iff.mpr fun m mem => ?_
    obtain ⟨frame, -, rfl⟩ := List.mem_map.mp mem
    rfl
  rw [speaks, letters_append, none, List.append_nil, letters, List.filterMap_filterMap]
  exact List.filterMap_congr fun command _ => writes command

omit [DecidableEq ι] in
/-- Distinct ids were distinct before. -/
theorem Distinct.before (distinct : w.Distinct s')
    (lasts : ∀ i, Lasts (s.nodes i).core (s'.nodes i).core) :
    w.Distinct s :=
  fun i j m lt n lt' => distinct i j m (lt.trans_le (lasts i).started) n
    (lt'.trans_le (lasts j).started)

omit [DecidableEq ι] in
/-- Whoever wrote to a session started it. -/
theorem write_origin (lawful : w.Lawful) (justified : w.Justified s)
    (vouched : Network.Vouched w.Vouches s) {id : Hex} {a b : ι} {frame : Bytes}
    (written : .write a b frame ∈ s.air) (speaks : said id frame ≠ none) :
    ∃ n < (s.nodes a).core.central.sessions.next, (w.cfg a).randomId n = id := by
  obtain ⟨payload, opens | data⟩ := said_ne_none speaks
  · obtain ⟨n, started, -, drawn, -⟩ := open_origin lawful vouched written ⟨payload, opens, rfl⟩
    exact ⟨n, started, drawn.symm⟩
  · obtain ⟨-, n, -, -, started, -, -, drawn, -⟩ := data_origin lawful justified vouched written data
    exact ⟨n, started, drawn.symm⟩

theorem write_of_letter {b : ι} {frame : Bytes} {air : List (Message ι)}
    (letter : frame ∈ letters b air) :
    ∃ a, .write a b frame ∈ air := by
  obtain ⟨m, mem, is⟩ := List.mem_filterMap.mp letter
  cases m with
  | notification a frame => cases is
  | write a dst written =>
    simp only [Airspace.letter] at is
    split at is
    · rename_i here
      subst here
      obtain rfl := Option.some.inj is
      exact ⟨a, mem⟩
    · cases is

theorem write_of_post {i b : ι} {frame : Bytes} {commands : List Command}
    (mem : frame ∈ posts (w.reaches i b) commands) :
    .write i b frame ∈ commands.filterMap (w.written i) := by
  obtain ⟨command, issued, is⟩ := List.mem_filterMap.mp mem
  refine List.mem_filterMap.mpr ⟨command, issued, ?_⟩
  cases command with
  | send p written withResponse =>
    simp only [post, reaches, decide_eq_true_eq] at is
    split at is
    · rename_i there
      obtain rfl := Option.some.inj is
      rw [Airspace.written, there]
    · cases is
  | _ => cases is

theorem forwards_lasts {c c' : Core} (lasts : Lasts c c') {handed : Ref × Bytes}
    (made : handed.1 < c.streams.next) (a : ι) (n : Ref) (b : ι) :
    w.forwards c' a n b handed = w.forwards c a n b handed := by
  unfold forwards
  rw [lasts.owner handed.1 made]

theorem sent_step {a : ι} {x : Station} {d : Deed}
    (made : ∀ handed ∈ x.handed, handed.1 < x.core.streams.next) (n : Ref) (b : ι) :
    (x.step d).handed.filterMap (w.forwards (x.step d).core a n b) =
      x.handed.filterMap (w.forwards x.core a n b) ++
        (d.handed x.core).filterMap (w.forwards (x.step d).core a n b) := by
  have old : ∀ handed ∈ x.handed, w.forwards (x.step d).core a n b handed =
    w.forwards x.core a n b handed :=
    fun handed mem => forwards_lasts (x.step_lasts d) (made handed mem) a n b
  have all : (x.step d).handed = x.handed ++ d.handed x.core := rfl
  rw [all, List.filterMap_append, List.filterMap_congr old]

/-- What a device writes as it takes a step, to a session of its own. -/
theorem step_posts (lawful : w.Lawful) {a : ι} {x : Station} (cfg : x.transport.cfg = w.cfg a)
    (grounded : Grounded .all (w.cfg a) x.core) (d : Deed) (b : ι) (n : Ref)
    (distinct : ∀ m < (x.step d).core.central.sessions.next,
      (w.cfg a).randomId m = (w.cfg a).randomId n → m = n) :
    mail ((w.cfg a).randomId n) (posts (w.reaches a b) (x.step d).core.out) =
        ((d.handed x.core).filterMap (w.forwards (x.step d).core a n b)).map some ∨
    x.core.central.sessions.next ≤ n ∧ d.handed x.core = [] ∧
      mail ((w.cfg a).randomId n) (posts (w.reaches a b) (x.step d).core.out) = [none] := by
  cases d with
  | act action =>
    let ev : Evidence := { Evidence.all with handed := fun _ _ => False }
    have brings : x.transport.Brings ev action := by
      cases action with
      | input i =>
        obtain ⟨now, native, event⟩ := i
        cases event with
        | writeRequests requests => exact fun _ _ => trivial
        | notifyState p isNotifying => exact fun _ _ _ _ => trivial
        | _ => trivial
      | _ => trivial
    obtain ⟨env, same, traces⟩ := x.transport.act_traces brings
    rw [cfg] at same
    have invites : Invites (w.reaches a b) env.cfg (x.transport.begin env.native).core
        (x.step (.act action)).core :=
      traces.invites (fun n => same ▸ lawful.id a n) fun _ _ => not_false
    obtain ⟨more, out, sends⟩ := invites.sends
    have out : (x.step (.act action)).core.out = more := out
    rw [out]
    rw [same] at sends
    exact (sends n distinct).imp_right fun ⟨since, _, one⟩ => ⟨since, rfl, one⟩
  | transmit st payload ackWrites now native =>
    left
    let env : Env := x.transport.env now native
    let c : Core := (x.transport.begin native).core
    let d : Deed := .transmit st payload ackWrites now native
    have step : (x.step d).core = c.sendFragment env st payload ackWrites := rfl
    change mail _ (posts _ (x.step d).core.out) = ((d.handed x.core).filterMap _).map some
    by_cases made : st < c.streams.next ∧ (c.streams.get st).pipe = .gatt
    · have gatt : st < x.core.streams.next ∧ (x.core.streams.get st).pipe = .gatt := made
      have handed : d.handed x.core = [(st, payload)] := if_pos (by simpa using gatt)
      have forwards : w.forwards (x.step d).core a n b (st, payload) =
          w.forwards c a n b (st, payload) :=
        forwards_lasts (x.step_lasts d) made.1 a n b
      rw [handed, List.filterMap_cons, forwards]
      cases owner : (c.streams.get st).owner with
      | server r =>
        have silent : (x.step d).core.out = [] := by
          rw [step, sendFragment_of_server payload ackWrites made owner]
          rfl
        simp [silent, Airspace.forwards, owner, posts, mail]
      | central p m =>
        have owned : Owned .all (w.cfg a) x.core st (c.streams.get st).owner :=
          grounded.owners st made.1
        rw [owner] at owned
        have started : m < x.core.central.sessions.next := owned.1
        have drawn : (c.central.sessions.get m).id = (w.cfg a).randomId m := grounded.drawn m started
        have writes : (x.step d).core.out =
            [.send p (encodeFrame typeData ((w.cfg a).randomId m) payload) ackWrites] := by
          rw [step, sendFragment_of_central payload ackWrites made owner, drawn]
          rfl
        obtain ⟨sid, long, id⟩ := lawful.id a m
        have data : said ((w.cfg a).randomId n)
            (encodeFrame typeData ((w.cfg a).randomId m) payload) =
            if (w.cfg a).randomId m = (w.cfg a).randomId n then some (some payload) else none := by
          rw [id]
          simp only [said, decodeFrame_encodeFrame typeData long]
          simp [typeData, typeOpen]
        have same : (w.cfg a).randomId m = (w.cfg a).randomId n ↔ m = n :=
          ⟨distinct m (started.trans_le (x.step_lasts d).started), fun same => same ▸ rfl⟩
        rw [writes]
        by_cases own : m = n
        · subst own
          by_cases there : w.peer a p = b
          · simp [Airspace.forwards, owner, posts, post, reaches, mail, data, there]
          · simp [Airspace.forwards, owner, posts, post, reaches, mail, there]
        · simp [Airspace.forwards, owner, posts, post, mail, data, same, own]
    · have gatt : ¬ (st < x.core.streams.next ∧ (x.core.streams.get st).pipe = .gatt) := made
      have handed : d.handed x.core = [] := if_neg (by simpa using gatt)
      rw [handed, step, sendFragment_of_not payload ackWrites made]
      rfl

/-! The air of all devices. -/

theorem act_letters (s : Sky ι) (e : ι × Deed) (b : ι) :
    letters b (w.network.act s e).air =
      letters b s.air ++ posts (w.reaches e.1 b) ((w.network.act s e).nodes e.1).core.out := by
  have air : (w.network.act s e).air = s.air ++ w.speaks e.1 (s.nodes e.1) e.2 := rfl
  have here : (w.network.act s e).nodes e.1 = (s.nodes e.1).step e.2 := w.network.act_self s e
  rw [air, letters_append, letters_speaks, here]

/-- Nobody but who started a session under an id writes to it. -/
theorem mail_eq_nil_of_unstarted (lawful : w.Lawful) (justified : w.Justified s)
    (vouched : Network.Vouched w.Vouches s) {id : Hex} (b : ι)
    (unstarted : ∀ a, ∀ n < (s.nodes a).core.central.sessions.next, (w.cfg a).randomId n ≠ id) :
    mail id (letters b s.air) = [] := by
  refine mail_eq_nil fun frame letter => by_contra fun speaks => ?_
  obtain ⟨a, written⟩ := write_of_letter letter
  obtain ⟨n, started, same⟩ := write_origin lawful justified vouched written speaks
  exact unstarted a n started same

theorem act_made (made : ∀ a, ∀ handed ∈ (s.nodes a).handed, handed.1 < (s.nodes a).core.streams.next)
    (a : ι) : ∀ handed ∈ ((w.network.act s e).nodes a).handed,
      handed.1 < ((w.network.act s e).nodes a).core.streams.next := by
  let Made : Station → Station → Prop := fun x y =>
    (∀ handed ∈ x.handed, handed.1 < x.core.streams.next) →
      ∀ handed ∈ y.handed, handed.1 < y.core.streams.next
  refine w.network.act_related (R := Made) (fun _ => id) (fun made handed mem => ?_) a (made a)
  have lasts := (s.nodes e.1).step_lasts e.2
  rcases List.mem_append.mp mem with old | new
  · exact (made handed old).trans_le lasts.streams
  · obtain ⟨i, d⟩ := e
    cases d with
    | act action => cases new
    | transmit st payload ackWrites now native =>
      simp only [Deed.handed] at new
      split at new
      · rename_i there
        obtain rfl := List.mem_singleton.mp new
        simp only [Bool.and_eq_true, decide_eq_true_eq] at there
        exact there.1.trans_le lasts.streams
      · cases new

theorem act_taken (justified : w.Justified s) (taken : ∀ b, Mailed (s.nodes b).heard (s.nodes b).core)
    (b : ι) : Mailed ((w.network.act s e).nodes b).heard ((w.network.act s e).nodes b).core := by
  by_cases same : b = e.1
  · subst same
    have here : (w.network.act s e).nodes e.1 = (s.nodes e.1).step e.2 := w.network.act_self s e
    have grounded := (justified.grounded e.1).mono (Evidence.le_all _)
    rw [← justified.cfg e.1] at grounded
    rw [here]
    obtain ⟨i, d⟩ := e
    cases d with
    | act action => exact act_mailed grounded (taken i) action
    | transmit st payload ackWrites now native =>
      have begun : Keeps (s.nodes i).core ((s.nodes i).transport.begin native).core :=
        { Keeps.refl (s.nodes i).core with }
      have keeps := begun.trans (sendFragment_keeps ((s.nodes i).transport.env now native)
        ((s.nodes i).transport.begin native).core st payload ackWrites)
      have heard : ((s.nodes i).step (.transmit st payload ackWrites now native)).heard =
        (s.nodes i).heard :=
        List.append_nil _
      rw [heard]
      exact keeps.mailed' (taken i)
  · rw [w.network.act_of_ne s same]
    exact taken b

theorem act_posted (lawful : w.Lawful) (justified : w.Justified s)
    (vouched : Network.Vouched w.Vouches s)
    (justified' : w.Justified (w.network.act s e))
    (vouched' : Network.Vouched w.Vouches (w.network.act s e)) (posted : w.Posted s) :
    w.Posted (w.network.act s e) where
  made := act_made posted.made
  taken := act_taken justified posted.taken
  posted distinct a b n started := by
    have before : w.Distinct s := distinct.before (act_lasts s e)
    have lasts := act_lasts (w := w) s e
    rw [act_letters, mail_append]
    by_cases same : a = e.1
    · subst same
      have here : (w.network.act s e).nodes e.1 = (s.nodes e.1).step e.2 := w.network.act_self s e
      have own : ∀ m < ((s.nodes e.1).step e.2).core.central.sessions.next,
          (w.cfg e.1).randomId m = (w.cfg e.1).randomId n → m = n :=
        fun m lt same => (distinct e.1 e.1 m (here ▸ lt) n started same).2
      have grounded := (justified.grounded e.1).mono (Evidence.le_all _)
      have writes := step_posts lawful (justified.cfg e.1) grounded e.2 b n own
      have sent : w.sent (w.network.act s e) e.1 n b = w.sent s e.1 n b ++
          ((e.2.handed (s.nodes e.1).core).filterMap
            (w.forwards ((s.nodes e.1).step e.2).core e.1 n b)) := by
        unfold Airspace.sent
        rw [here]
        exact sent_step (posted.made e.1) n b
      rw [sent, here, List.map_append]
      by_cases old : n < (s.nodes e.1).core.central.sessions.next
      · rcases writes with data | ⟨since, -⟩
        · rw [data]
          refine (posted.posted before e.1 b n old).imp ?_ ?_
          · intro mail
            rw [mail]
          · intro mail
            rw [mail, List.cons_append]
        · omega
      · have unstarted : mail ((w.cfg e.1).randomId n) (letters b s.air) = [] := by
          refine mail_eq_nil_of_unstarted lawful justified vouched b fun i m lt same => ?_
          obtain ⟨rfl, rfl⟩ := distinct i e.1 m (lt.trans_le (lasts i).started) n started same
          exact old lt
        have unsent : w.sent s e.1 n b = [] := by
          refine List.filterMap_eq_nil_iff.mpr fun handed mem => ?_
          have owned := grounded.owners handed.1 (posted.made e.1 handed mem)
          unfold forwards
          cases owner : ((s.nodes e.1).core.streams.get handed.1).owner with
          | server r => rfl
          | central p m =>
            rw [owner] at owned
            refine if_neg fun own => old ?_
            exact own.1 ▸ owned.1
        rw [unstarted, unsent]
        rcases writes with data | ⟨-, idle, opens⟩
        · exact .inl data
        · rw [opens, idle]
          exact .inr rfl
    · have silent : mail ((w.cfg a).randomId n)
          (posts (w.reaches e.1 b) ((w.network.act s e).nodes e.1).core.out) = [] := by
        refine mail_eq_nil fun frame posted => by_contra fun speaks => ?_
        rw [w.network.act_self] at posted
        have written : .write e.1 b frame ∈ (w.network.act s e).air :=
          List.mem_append_right _ (List.mem_append_left _ (write_of_post posted))
        obtain ⟨m, lt, same'⟩ := write_origin lawful justified' vouched' written speaks
        exact same (distinct e.1 a m lt n started same').1.symm
      have stays : (w.network.act s e).nodes a = s.nodes a := w.network.act_of_ne s same
      have sent : w.sent (w.network.act s e) a n b = w.sent s a n b := by
        unfold Airspace.sent
        rw [stays]
      rw [silent, sent, List.append_nil]
      exact posted.posted before a b n (stays ▸ started)

theorem silent_posted (topic : ι → Option Bytes) (online : ι → Bool) (ids : ι → Ref → PeripheralId) :
    w.Posted (w.silent topic online ids) where
  made _ := List.forall_mem_nil _
  posted _ _ _ _ started := absurd started (Nat.not_lt_zero _)
  taken _ := {
    opens := fun _ => Nat.zero_le _
    waits := fun _ _ entry => by cases entry
    holds := fun _ lt => absurd lt (Nat.not_lt_zero _) }

theorem Reachable.posted (lawful : w.Lawful) (reachable : w.Reachable s) : w.Posted s := by
  obtain ⟨topic, online, ids, es, admitted, rfl⟩ := reachable
  let Kept : Sky ι → Prop := fun s =>
    w.Justified s ∧ Network.Vouched w.Vouches s ∧ w.Posted s
  have start : Kept (w.silent topic online ids) :=
    ⟨silent_justified topic online ids, List.forall_mem_nil _, silent_posted topic online ids⟩
  have step : ∀ s e, Kept s → w.network.Admitted s e → Kept (w.network.act s e) := by
    rintro s e ⟨justified, vouched, posted⟩ admitted
    have justified' := act_justified justified admitted
    have vouched' : Network.Vouched w.Vouches (w.network.act s e) :=
      vouched.act (fun _ => vouches_act) fun _ => speaks_vouched justified'
    exact ⟨justified', vouched', act_posted lawful justified vouched justified' vouched' posted⟩
  exact (Runs.invariant step start admitted).2.2

/-- Where a server takes the frames for a session in the order in which they were written, its
stream receives what was handed to the central of the session in order and without a gap, and
once it took every frame, all of it while the session lasts. -/
theorem received_in_order (lawful : w.Lawful) (reachable : w.Reachable s) (distinct : w.Distinct s)
    (a : ι) (n : Ref) (b : ι) (k st : Ref) (paired : w.Paired s a n b k)
    (made : st < (s.nodes b).core.streams.next)
    (owner : ((s.nodes b).core.streams.get st).owner = .server k)
    (inOrder : mail ((w.cfg a).randomId n) (s.nodes b).heard <+:
      mail ((w.cfg a).randomId n) (letters b s.air)) :
    fromFrames ((s.nodes b).core.streams.get st) <+: w.sent s a n b ∧
    ((s.nodes b).core.server.table.get? ((w.cfg a).randomId n) = some k →
      mail ((w.cfg a).randomId n) (s.nodes b).heard = mail ((w.cfg a).randomId n) (letters b s.air) →
      fromFrames ((s.nodes b).core.streams.get st) = w.sent s a n b) := by
  have posted := reachable.posted lawful
  have holds := (posted.taken b).holds st made k owner
  have mails := posted.posted distinct a b n paired.started
  rw [paired.id] at holds
  refine ⟨holds.begins (mails.imp ?_ ?_), fun lasts every => holds.whole lasts ?_⟩
  · exact fun mail => mail ▸ inOrder
  · exact fun mail => mail ▸ inOrder
  · rw [every]
    exact mails

/-- Of two fragments that the dialer writes the server takes the first. -/
theorem received_in_order_of_two :
    let w := twoDevices .gatt
    let id := (w.cfg false).randomId 0
    let data := encodeFrame typeData id [7]
    let s := acquainted .gatt none
      [(false, .transmit 0 [7] true 8 {}), (false, .transmit 0 [8] true 9 {}),
      (true, hears 10 (.writeRequests [(data, true)]))]
    fromFrames ((s.nodes true).core.streams.get 0) <+: w.sent s false 0 true ∧
    ((s.nodes true).core.server.table.get? id = some 0 →
      mail id (s.nodes true).heard = mail id (letters true s.air) →
      fromFrames ((s.nodes true).core.streams.get 0) = w.sent s false 0 true) := by
  intro w id data s
  have air : s.air = [.write false true (openFrame (w.cfg false) id),
      .notification true (helloFrame (w.cfg true) id none), .write false true data,
      .write false true (encodeFrame typeData id [8])] := by decide +kernel
  have reachable : w.Reachable s := ⟨_, _, _, acquaint .gatt none _, by decide +kernel, rfl⟩
  have paired : w.Paired s false 0 true 0 := {
    started := by decide +kernel
    asked := air ▸ List.mem_cons_self
    accepted := by decide +kernel
    id := by decide +kernel
    announced := by decide +kernel
    accepts := by decide +kernel
    pipe := rfl }
  have inOrder : mail id (s.nodes true).heard ++ [some [8]] = mail id (letters true s.air) := by
    decide +kernel
  exact received_in_order (twoDevices_lawful .gatt) reachable
    (distinct_of_one (by decide +kernel) (by decide +kernel)) false 0 true 0 0 paired
    (by decide +kernel) (by decide +kernel) ⟨_, inOrder⟩

/-- Where a server takes no frame for a session more often than it was written, it accepted the
session once and made it one stream. -/
theorem served_once (lawful : w.Lawful) (reachable : w.Reachable s) (distinct : w.Distinct s)
    (a : ι) (n : Ref) (b : ι) (k k' : Ref) (paired : w.Paired s a n b k)
    (paired' : w.Paired s a n b k')
    (taken : List.Subperm (mail ((w.cfg a).randomId n) (s.nodes b).heard)
      (mail ((w.cfg a).randomId n) (letters b s.air))) :
    k = k' ∧ ∀ st < (s.nodes b).core.streams.next, ∀ st' < (s.nodes b).core.streams.next,
      ((s.nodes b).core.streams.get st).owner = .server k →
      ((s.nodes b).core.streams.get st').owner = .server k' → st = st' := by
  have posted := reachable.posted lawful
  obtain ⟨justified, -⟩ := reachable.justified
  have unsent : (((w.sent s a n b).map some).count none) = 0 := by
    simp [List.count_eq_zero]
  have opened : (mail ((w.cfg a).randomId n) (letters b s.air)).count none ≤ 1 := by
    rcases posted.posted distinct a b n paired.started with data | opens
    · rw [data, unsent]
      exact Nat.zero_le 1
    · rw [opens, List.count_cons_self, unsent]
  have once : (s.nodes b).core.acceptances ((w.cfg a).randomId n) ≤ 1 :=
    ((posted.taken b).opens _).trans ((taken.count_le none).trans opened)
  obtain rfl := session_unique once paired.accepted paired'.accepted paired.id paired'.id
  refine ⟨rfl, fun st made st' made' owner owner' => ?_⟩
  have owned := (justified.grounded b).owners st made
  have owned' := (justified.grounded b).owners st' made'
  rw [owner] at owned
  rw [owner'] at owned'
  exact Option.some.inj (owned.2.symm.trans owned'.2)

/-- The session has a stream, and no other. -/
theorem served_once_of_two :
    let s := acquainted .gatt none []
    ((s.nodes true).core.streams.get 0).owner = .server 0 ∧
      ∀ st < (s.nodes true).core.streams.next,
        ((s.nodes true).core.streams.get st).owner = .server 0 → st = 0 := by
  intro s
  let w := twoDevices .gatt
  let id := (w.cfg false).randomId 0
  have air : s.air = [.write false true (openFrame (w.cfg false) id),
      .notification true (helloFrame (w.cfg true) id none)] := by decide +kernel
  have reachable : w.Reachable s := ⟨_, _, _, acquaint .gatt none [], by decide +kernel, rfl⟩
  have paired : w.Paired s false 0 true 0 := {
    started := by decide +kernel
    asked := air ▸ List.mem_cons_self
    accepted := by decide +kernel
    id := by decide +kernel
    announced := by decide +kernel
    accepts := by decide +kernel
    pipe := rfl }
  have taken : mail id (s.nodes true).heard = mail id (letters true s.air) := by decide +kernel
  have first : ((s.nodes true).core.streams.get 0).owner = .server 0 := by decide +kernel
  obtain ⟨-, only⟩ := served_once (twoDevices_lawful .gatt) reachable
    (distinct_of_one (by decide +kernel) (by decide +kernel)) false 0 true 0 0 paired paired
    (taken ▸ List.Subperm.refl _)
  exact ⟨first, fun st made owner => only st made 0 (by decide +kernel) owner first⟩

end Airspace

end BleSwarm
