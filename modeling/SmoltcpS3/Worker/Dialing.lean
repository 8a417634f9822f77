import SmoltcpS3.Connection.Settlement
import SmoltcpS3.Smoltcp.Dial
import SmoltcpS3.Worker.Settlement

/-! The workers together with the SYNs that their sockets send within a poll. -/

namespace SmoltcpS3.Worker

open Smoltcp Connection ListUpdates

structure Line where
  dial : Dial
  reached : Bool
  deriving DecidableEq, Repr

namespace Line

def new : Line := ⟨.connected, false⟩

def observe (st : State) (l : Line) : Line := { l with reached := l.reached || st == .established }

-- Only `SynSent` sends a SYN. What `SynReceived` sends is a SYN|ACK.
def dispatch (st : State) (now : ℤ) (ok : Bool) (l : Line) : Line :=
  if st = .synSent then { l with dial := l.dial.dispatch now ok } else l

end Line

def Thread.states (t : Thread) : List State := t.sessions.map (·.sock.state)

inductive LineEvent
  | segment (seg : Segment)
  | dispatch (now : ℤ) (ok : Bool)
  deriving DecidableEq, Repr

inductive DialEvent
  | worker (e : Event)
  | dispatch (j : ℕ) (now : ℤ) (ok : Bool)
  deriving DecidableEq, Repr

structure Dialer where
  thread : Thread
  lines : List Line
  aligned : lines.length = thread.sessions.length

namespace Dialer

def new (t : Thread) : Dialer := ⟨t, t.sessions.map fun _ => .new, by simp⟩

def follow (d : Dialer) (t : Thread) : Dialer where
  thread := t
  lines := t.states.mapIdx fun j st => (d.lines.getD j .new).observe st
  aligned := by simp [Thread.states]

def dispatchAt (d : Dialer) (j : ℕ) (st : State) (now : ℤ) (ok : Bool) : Dialer where
  thread := d.thread
  lines := d.lines.modify j (·.dispatch st now ok)
  aligned := by simp [d.aligned]

def next (cfg : Config) (up : Startup) (d : Dialer) (k : Counters) : DialEvent → Dialer × Counters
  | .worker e => (d.follow (d.thread.next cfg up k e).1, (d.thread.next cfg up k e).2)
  | .dispatch j now ok =>
    match d.thread.phase, d.thread.states[j]? with
    | .polling, some st => (d.dispatchAt j st now ok, k)
    | _, _ => (d, k)

def lineEvent (d : Dialer) : DialEvent → Option (ℕ × LineEvent)
  | .worker e =>
    match d.thread.sessionEvent e with
    | some (j, .segment seg) => some (j, .segment seg)
    | _ => none
  | .dispatch j now ok => if d.thread.phase = .polling then some (j, .dispatch now ok) else none

def LineEvents (P : State → Line → LineEvent → Prop) (d : Dialer) (e : DialEvent) : Prop :=
  ∀ x ∈ d.lineEvent e, ∀ st ∈ d.thread.states[x.1]?, ∀ l ∈ d.lines[x.1]?, P st l x.2

instance (P : State → Line → LineEvent → Prop) [∀ st l e, Decidable (P st l e)] (d : Dialer)
    (e : DialEvent) : Decidable (d.LineEvents P e) :=
  inferInstanceAs (Decidable (∀ x ∈ d.lineEvent e, ∀ st ∈ d.thread.states[x.1]?,
    ∀ l ∈ d.lines[x.1]?, P st l x.2))

end Dialer

abbrev DialSystem := Interleaving.System Dialer Counters

def dialSpawn (cfg : Config) (up : Startup) : DialSystem :=
  ⟨(spawn cfg up).parts.map Dialer.new, (spawn cfg up).shared⟩

def dialedAfter (cfg : Config) (up : Startup) (es : List (ℕ × DialEvent)) : DialSystem :=
  EventRuns.run (Interleaving.step (Dialer.next cfg up)) (dialSpawn cfg up) es

section Projection

variable {cfg : Config} {up : Startup}

def workers (s : DialSystem) : System := ⟨s.parts.map Dialer.thread, s.shared⟩

def workerEvent (e : ℕ × DialEvent) : Option (ℕ × Event) :=
  match e.2 with
  | .worker w => some (e.1, w)
  | .dispatch _ _ _ => none

lemma next_dispatch (d : Dialer) (k : Counters) (j : ℕ) (now : ℤ) (ok : Bool) :
    (d.next cfg up k (.dispatch j now ok)).1.thread = d.thread ∧
      (d.next cfg up k (.dispatch j now ok)).2 = k := by
  rw [Dialer.next]
  split <;> exact ⟨rfl, rfl⟩

lemma workers_step_worker (s : DialSystem) (i : ℕ) (w : Event) :
    workers (Interleaving.step (Dialer.next cfg up) s (i, .worker w)) =
      Interleaving.step (Thread.next cfg up) (workers s) (i, w) := by
  simp only [Interleaving.step, workers, List.getElem?_map]
  cases hp : s.parts[i]? with
  | none => simp
  | some d =>
    simp only [Option.map_some, Interleaving.System.mk.injEq, List.map_set]
    exact ⟨rfl, rfl⟩

lemma workers_step_dispatch (s : DialSystem) (i j : ℕ) (now : ℤ) (ok : Bool) :
    workers (Interleaving.step (Dialer.next cfg up) s (i, .dispatch j now ok)) = workers s := by
  simp only [Interleaving.step, workers]
  cases hp : s.parts[i]? with
  | none => simp
  | some d =>
    obtain ⟨ht, hk⟩ := @next_dispatch cfg up d s.shared j now ok
    simp only [Interleaving.System.mk.injEq]
    exact ⟨map_set_of_getElem? hp ht, hk⟩

-- A dispatch changes nothing that a worker sees, so the run of the workers is the one without them.
theorem workers_run (s : DialSystem) (es : List (ℕ × DialEvent)) :
    workers (EventRuns.run (Interleaving.step (Dialer.next cfg up)) s es) =
      EventRuns.run (Interleaving.step (Thread.next cfg up)) (workers s) (es.filterMap workerEvent) := by
  induction es generalizing s with
  | nil => rfl
  | cons e es ih =>
    obtain ⟨i, w | ⟨j, now, ok⟩⟩ := e
    · rw [EventRuns.run_cons, ih, workers_step_worker]
      rfl
    · rw [EventRuns.run_cons, ih, workers_step_dispatch]
      rfl

theorem workers_dialedAfter (cfg : Config) (up : Startup) (es : List (ℕ × DialEvent)) :
    workers (dialedAfter cfg up es) = systemAfter cfg up (es.filterMap workerEvent) := by
  have hspawn : workers (dialSpawn cfg up) = spawn cfg up := by
    rw [workers, dialSpawn, List.map_map]
    have hid : Dialer.thread ∘ Dialer.new = id := rfl
    rw [hid, List.map_id]
  rw [dialedAfter, workers_run, hspawn]
  rfl

end Projection

section Retries

variable {cfg : Config} {up : Startup}

def AttemptedOnce (t : Thread) : Prop := t.EachSession fun _ s => s.conn.attempts = 1

lemma stepSession_synRetries (cfg : Config) (now : ℤ) (tls : List UnbufferedStatus) (k : Counters)
    {s : Session} (h : s.conn.attempts = 1) :
    (Thread.stepSession cfg now tls k s).1.counters.synRetries = k.synRetries ∧
      (Thread.stepSession cfg now tls k s).1.conn.attempts = 1 := by
  have hacc := Session.connStep_account cfg now tls { s with counters := k }
  have hretries := congrArg (fun a => a.figures.synRetries) hacc
  have hattempts := congrArg Account.attempts hacc
  rw [Thread.stepSession]
  cases hset : Session.settlement now { s with counters := k } with
  | none =>
    rw [hset] at hretries hattempts
    exact ⟨hretries, hattempts.trans h⟩
  | some b =>
    rw [hset] at hretries hattempts
    cases b with
    | false => exact ⟨hretries, hattempts.trans h⟩
    | true =>
      refine ⟨hretries.trans ?_, hattempts.trans h⟩
      simp [Session.book, Session.account, figures, h]

lemma next_attemptedOnce {t : Thread} (h : AttemptedOnce t) (k : Counters) (e : Event) :
    AttemptedOnce (t.next cfg up k e).1 ∧ (t.next cfg up k e).2.synRetries = k.synRetries := by
  constructor
  · refine Thread.EachSession.next (P := fun _ _ _ => True) (fun _ _ => rfl) (fun _ _ _ hs => hs)
      (fun _ _ _ _ _ => trivial) ?_ h (fun _ _ _ _ => trivial)
    intro j s ev hs _
    cases ev with
    | segment seg => exact hs
    | step now tls => exact (stepSession_synRetries cfg now tls s.counters hs).2
  · rcases Thread.next_sessions cfg up t k e with ⟨-, n, hk⟩ | ⟨o, -, hk⟩ | ⟨j, seg, s, -, -, -, hk⟩ |
      ⟨j, now, tls, s, -, hs, -, hk⟩ <;> rw [hk]
    exact (stepSession_synRetries cfg now tls k (h j s hs)).1

theorem synRetries_systemAfter (cfg : Config) (up : Startup) (es : List (ℕ × Event)) :
    (systemAfter cfg up es).shared.synRetries = 0 := by
  refine (Interleaving.Each.run_shared (I := fun _ t => AttemptedOnce t)
    (S := fun k : Counters => k.synRetries = 0) ?_ ?_ rfl es).2
  · intro _ t k e ht hk
    obtain ⟨ht', hk'⟩ := @next_attemptedOnce cfg up t ht k e
    exact ⟨ht', hk'.trans hk⟩
  · apply each_spawn
    intro k j s hs
    cases hs

end Retries

section States

variable (cfg : Config) (up : Startup)

lemma connStep_state (now : ℤ) (tls : List UnbufferedStatus) (s : Session) :
    (s.connStep cfg now tls).1.sock.state = s.sock.state ∨
      (s.connStep cfg now tls).1.sock.state = .closed := by
  rcases Session.connStep_cases cfg now tls s with ⟨-, he⟩ | ⟨-, -, he⟩ | ⟨-, -, he⟩ <;> rw [he]
  · exact .inl rfl
  · exact .inr rfl
  · left
    rw [← (Session.work_frame cfg now tls s).1]
    rcases Session.closeCheck_cases (((s.settle now).transfer cfg).runPump cfg tls) with
      hc | ⟨-, -, -, -, -, hc⟩ <;> rw [hc]

theorem Thread.next_states (t : Thread) (k : Counters) (e : Event) :
    (t.next cfg up k e).1.states = t.states ∨
    (t.next cfg up k e).1.states = t.states ++ [.synSent] ∨
    (∃ j seg st, t.sessionEvent e = some (j, .segment seg) ∧ t.states[j]? = some st ∧
      (t.next cfg up k e).1.states = t.states.set j ((nextState seg st).getD st)) ∨
    ∃ j, (t.next cfg up k e).1.states = t.states.set j .closed := by
  rcases next_sessions cfg up t k e with ⟨he, -⟩ | ⟨o, he, -⟩ | ⟨j, seg, s, hev, hs, he, -⟩ |
    ⟨j, now, tls, s, -, hs, he, -⟩ <;> rw [states, he]
  · exact .inl rfl
  · refine .inr (.inl ?_)
    rw [List.map_append]
    rfl
  · refine .inr (.inr (.inl ⟨j, seg, s.sock.state, hev, ?_, ?_⟩))
    · rw [states, List.getElem?_map, hs]
      rfl
    · rw [List.map_set]
      exact congrArg _ (Socket.process_state seg s.sock)
  · rcases connStep_state cfg now tls { s with counters := k } with hst | hst
    · exact .inl (map_set_of_getElem? hs hst)
    · refine .inr (.inr (.inr ⟨j, ?_⟩))
      rw [List.map_set]
      exact congrArg _ hst

end States

section Lines

variable {cfg : Config} {up : Startup}

namespace Dialer

def EachLine (I : State → Line → Prop) (d : Dialer) : Prop :=
  ∀ (j : ℕ) st l, d.thread.states[j]? = some st → d.lines[j]? = some l → I st l

lemma length_lines (d : Dialer) : d.lines.length = d.thread.states.length := by
  rw [d.aligned, Thread.states, List.length_map]

lemma EachLine.getD {I : State → Line → Prop} {d : Dialer} (h : d.EachLine I) {j : ℕ} {st : State}
    (hj : d.thread.states[j]? = some st) : I st (d.lines.getD j .new) := by
  have hlt : j < d.lines.length := d.length_lines ▸ (List.getElem?_eq_some_iff.mp hj).1
  have hl : d.lines[j]? = some d.lines[j] := List.getElem?_eq_getElem hlt
  rw [List.getD_eq_getElem?_getD, hl]
  exact h j st _ hj hl

lemma getD_of_length_le {d : Dialer} {j : ℕ} (h : d.thread.states.length ≤ j) :
    d.lines.getD j .new = .new := by
  rw [List.getD_eq_getElem?_getD, List.getElem?_eq_none (d.length_lines ▸ h)]
  rfl

lemma follow_getElem? (d : Dialer) (t : Thread) (j : ℕ) :
    (d.follow t).lines[j]? = t.states[j]?.map fun st => (d.lines.getD j .new).observe st := by
  simp [follow]

section Rule

variable {I : State → Line → Prop} {P : State → Line → LineEvent → Prop} (hnew : I .synSent .new)
  (hobserve : ∀ st l, I st l → I st (l.observe st)) (hclosed : ∀ st l, I st l → I .closed l)
  (hsegment : ∀ st l seg, I st l → P st l (.segment seg) → I ((nextState seg st).getD st) l)
  (hdispatch : ∀ l now ok, I .synSent l → P .synSent l (.dispatch now ok) →
    I .synSent (l.dispatch .synSent now ok))

include hnew hobserve hclosed hsegment in
lemma EachLine.follow {d : Dialer} (h : d.EachLine I) {k : Counters} {e : Event}
    (hp : d.LineEvents P (.worker e)) : (d.follow (d.thread.next cfg up k e).1).EachLine I := by
  intro j st l hst hl
  rw [follow_getElem?] at hl
  simp only [Dialer.follow] at hst
  rw [hst, Option.map_some, Option.some.injEq] at hl
  subst hl
  apply hobserve
  rcases Thread.next_states cfg up d.thread k e with he | he | ⟨i, seg, st', hev, hi, he⟩ | ⟨i, he⟩ <;>
    rw [he] at hst
  · exact h.getD hst
  · rw [List.getElem?_append] at hst
    split_ifs at hst with hlt
    · exact h.getD hst
    · rw [getD_of_length_le (not_lt.mp hlt)]
      rw [List.getElem?_singleton] at hst
      split_ifs at hst
      cases hst
      exact hnew
  · rcases getElem?_set_cases hi hst with ⟨rfl, rfl⟩ | ⟨-, hold⟩
    · refine hsegment _ _ _ (h.getD hi) ?_
      have hline : d.lines[j]? = some (d.lines.getD j .new) := by
        have hlt : j < d.lines.length := d.length_lines ▸ (List.getElem?_eq_some_iff.mp hi).1
        rw [List.getD_eq_getElem?_getD, List.getElem?_eq_getElem hlt]
        rfl
      exact hp (j, .segment seg) (by simp [lineEvent, hev]) st' hi _ hline
    · exact h.getD hold
  · rw [List.getElem?_set] at hst
    split_ifs at hst with hij hlt
    · subst hij
      cases hst
      exact hclosed _ _ (h.getD (List.getElem?_eq_getElem hlt))
    · exact h.getD hst

include hdispatch in
lemma EachLine.dispatchAt {d : Dialer} (h : d.EachLine I) {j : ℕ} {st : State} {now : ℤ} {ok : Bool}
    (hj : d.thread.states[j]? = some st) (hp : ∀ l, d.lines[j]? = some l → P st l (.dispatch now ok)) :
    (d.dispatchAt j st now ok).EachLine I := by
  intro i st' l hst hl
  simp only [Dialer.dispatchAt] at hst hl
  rw [List.getElem?_modify] at hl
  split_ifs at hl with hji
  · subst hji
    obtain ⟨l', hl', rfl⟩ := Option.map_eq_some_iff.mp hl
    rw [hj, Option.some.injEq] at hst
    subst hst
    by_cases hs : st = .synSent
    · subst hs
      exact hdispatch l' now ok (h j _ l' hj hl') (hp l' hl')
    · rw [Line.dispatch, if_neg hs]
      exact h j st l' hj hl'
  · exact h i st' l hst (by simpa using hl)

include hnew hobserve hclosed hsegment hdispatch in
theorem EachLine.next {d : Dialer} (h : d.EachLine I) {k : Counters} {e : DialEvent}
    (hp : d.LineEvents P e) : (d.next cfg up k e).1.EachLine I := by
  cases e with
  | worker e => exact h.follow hnew hobserve hclosed hsegment hp
  | dispatch j now ok =>
    rw [Dialer.next]
    split
    · rename_i st hph hst
      refine h.dispatchAt hdispatch hst ?_
      intro l hl
      exact hp (j, .dispatch now ok) (by simp [lineEvent, hph]) st hst l hl
    · exact h

end Rule

end Dialer

lemma each_dialSpawn (I : State → Line → Prop) :
    Interleaving.Each (fun _ d => Dialer.EachLine I d) (dialSpawn cfg up) := by
  intro k d hd j st l hst
  obtain ⟨t, ht, rfl⟩ := Option.map_eq_some_iff.mp ((List.getElem?_map ..).symm.trans hd)
  have hnone : t.sessions = [] := each_spawn (I := fun _ t => t.sessions = []) (fun _ => rfl) k t ht
  simp [Dialer.new, Thread.states, hnone] at hst

end Lines

section Count

variable {cfg : Config} {up : Startup}

def Answered : State → Line → LineEvent → Prop
  | st, l, .segment seg => st = .synSent → nextState seg st ≠ none → 0 < l.dial.syns
  | _, _, .dispatch _ _ => True

def NotResent : State → Line → LineEvent → Prop
  | _, _, .segment _ => True
  | st, l, .dispatch now ok => st = .synSent → ok = true → l.dial.sends now = true → l.dial.syns = 0

instance : (st : State) → (l : Line) → (e : LineEvent) → Decidable (Answered st l e)
  | st, _, .segment _ => inferInstanceAs (Decidable (st = .synSent → _ ≠ none → 0 < _))
  | _, _, .dispatch _ _ => inferInstanceAs (Decidable True)

instance : (st : State) → (l : Line) → (e : LineEvent) → Decidable (NotResent st l e)
  | _, _, .segment _ => inferInstanceAs (Decidable True)
  | st, _, .dispatch _ ok =>
    inferInstanceAs (Decidable (st = .synSent → ok = true → _ = true → _ = 0))

lemma dispatch_syns_synSent (l : Line) (now : ℤ) (ok : Bool) :
    (l.dispatch .synSent now ok).dial.syns = l.dial.syns + (l.dial.sends now && ok).toNat := by
  rw [Line.dispatch, if_pos rfl]
  exact Dial.dispatch_syns now ok l.dial

structure Sent (st : State) (l : Line) : Prop where
  past : st = .synSent ∨ st = .closed ∨ 0 < l.dial.syns
  reached : l.reached = true → 0 < l.dial.syns

lemma Sent.observe {st : State} {l : Line} (h : Sent st l) : Sent st (l.observe st) := by
  refine ⟨h.past, ?_⟩
  intro hr
  rw [Line.observe, Bool.or_eq_true, beq_iff_eq] at hr
  rcases hr with hr | rfl
  · exact h.reached hr
  · rcases h.past with hp | hp | hp
    · cases hp
    · cases hp
    · exact hp

lemma Sent.segment {st : State} {l : Line} {seg : Segment} (h : Sent st l)
    (ha : Answered st l (.segment seg)) : Sent ((nextState seg st).getD st) l := by
  cases hn : nextState seg st with
  | none => exact h
  | some st' =>
    refine ⟨.inr (.inr ?_), h.reached⟩
    rcases h.past with rfl | rfl | hp
    · exact ha rfl (by simp [hn])
    · cases hn
    · exact hp

lemma Sent.dispatch {l : Line} (h : Sent .synSent l) (now : ℤ) (ok : Bool) :
    Sent .synSent (l.dispatch .synSent now ok) := by
  refine ⟨.inl rfl, ?_⟩
  intro hr
  have hpos := h.reached (by simpa [Line.dispatch] using hr)
  rw [dispatch_syns_synSent]
  omega

theorem sent_of_answered {es : List (ℕ × DialEvent)}
    (h : Interleaving.LocalAlong (Dialer.next cfg up) (fun _ d e => d.LineEvents Answered e)
      (dialSpawn cfg up) es) :
    Interleaving.Each (fun _ d => Dialer.EachLine Sent d) (dialedAfter cfg up es) := by
  refine Interleaving.Each.run (P := fun _ d e => Dialer.LineEvents Answered d e) ?_
    (each_dialSpawn Sent) h
  intro k d c e hi hp
  exact hi.next ⟨.inl rfl, nofun⟩ (fun _ _ hs => hs.observe) (fun _ _ hs => ⟨.inr (.inl rfl), hs.reached⟩)
    (fun _ _ _ hs ha => hs.segment ha) (fun _ now ok hs _ => hs.dispatch now ok) hp

theorem once_of_notResent {es : List (ℕ × DialEvent)}
    (h : Interleaving.LocalAlong (Dialer.next cfg up) (fun _ d e => d.LineEvents NotResent e)
      (dialSpawn cfg up) es) :
    Interleaving.Each (fun _ d => Dialer.EachLine (fun _ l => l.dial.syns ≤ 1) d)
      (dialedAfter cfg up es) := by
  refine Interleaving.Each.run (P := fun _ d e => Dialer.LineEvents NotResent d e) ?_
    (each_dialSpawn _) h
  intro k d c e hi hp
  refine hi.next (by decide) (fun _ _ hs => hs) (fun _ _ hs => hs) (fun _ _ _ hs _ => hs) ?_ hp
  intro l now ok hs hnot
  rw [dispatch_syns_synSent]
  cases hsends : l.dial.sends now && ok with
  | false => exact hs
  | true =>
    obtain ⟨hsend, hok⟩ := (Bool.and_eq_true _ _).mp hsends
    rw [hnot rfl hok hsend]
    rfl

def Doubled (d : Dialer) : Prop := ∃ l ∈ d.lines, 2 ≤ l.dial.syns

lemma length_states_next (t : Thread) (k : Counters) (e : Event) :
    t.states.length ≤ (t.next cfg up k e).1.states.length := by
  rcases Thread.next_states cfg up t k e with he | he | ⟨j, seg, st, -, -, he⟩ | ⟨j, he⟩ <;>
    rw [he] <;> simp

lemma Doubled.follow {d : Dialer} (h : Doubled d) (k : Counters) (e : Event) :
    Doubled (d.follow (d.thread.next cfg up k e).1) := by
  obtain ⟨l, hl, htwo⟩ := h
  obtain ⟨j, hj⟩ := List.mem_iff_getElem?.mp hl
  have hlt : j < (d.thread.next cfg up k e).1.states.length := by
    have hlines := (List.getElem?_eq_some_iff.mp hj).1
    rw [d.length_lines] at hlines
    exact hlines.trans_le (length_states_next d.thread k e)
  obtain ⟨st, hst⟩ : ∃ st, (d.thread.next cfg up k e).1.states[j]? = some st :=
    ⟨_, List.getElem?_eq_getElem hlt⟩
  refine ⟨l.observe st, List.mem_iff_getElem?.mpr ⟨j, ?_⟩, htwo⟩
  rw [Dialer.follow_getElem?, hst, List.getD_eq_getElem?_getD, hj]
  rfl

lemma syns_le_dispatch (st : State) (now : ℤ) (ok : Bool) (l : Line) :
    l.dial.syns ≤ (l.dispatch st now ok).dial.syns := by
  by_cases hs : st = .synSent
  · subst hs
    rw [dispatch_syns_synSent]
    exact Nat.le_add_right _ _
  · rw [Line.dispatch, if_neg hs]

lemma Doubled.dispatchAt {d : Dialer} (h : Doubled d) (j : ℕ) (st : State) (now : ℤ) (ok : Bool) :
    Doubled (d.dispatchAt j st now ok) := by
  obtain ⟨l, hl, htwo⟩ := h
  obtain ⟨i, hi⟩ := List.mem_iff_getElem?.mp hl
  by_cases hji : j = i
  · subst hji
    refine ⟨l.dispatch st now ok, List.mem_iff_getElem?.mpr ⟨j, ?_⟩,
      htwo.trans (syns_le_dispatch st now ok l)⟩
    simp [Dialer.dispatchAt, hi]
  · refine ⟨l, List.mem_iff_getElem?.mpr ⟨i, ?_⟩, htwo⟩
    simp [Dialer.dispatchAt, hji, hi]

lemma Doubled.next {d : Dialer} (h : Doubled d) (k : Counters) (e : DialEvent) :
    Doubled (d.next cfg up k e).1 := by
  cases e with
  | worker e => exact h.follow k e
  | dispatch j now ok =>
    rw [Dialer.next]
    split
    · exact h.dispatchAt j _ now ok
    · exact h

lemma doubled_of_resent {d : Dialer} {e : DialEvent} (h : ¬ d.LineEvents NotResent e) (k : Counters) :
    Doubled (d.next cfg up k e).1 := by
  rw [Dialer.LineEvents] at h
  push Not at h
  obtain ⟨⟨j, ev⟩, hev, st, hst, l, hl, hnot⟩ := h
  rw [Option.mem_def] at hev hst hl
  cases e with
  | worker e =>
    simp only [Dialer.lineEvent] at hev
    split at hev
    · cases hev
      exact absurd trivial hnot
    · cases hev
  | dispatch i now ok =>
    rw [Dialer.lineEvent] at hev
    split_ifs at hev with hph
    cases hev
    simp only [NotResent] at hnot
    push Not at hnot
    obtain ⟨rfl, rfl, hsend, hsyns⟩ := hnot
    rw [Dialer.next, hph, hst]
    refine ⟨l.dispatch .synSent now true, List.mem_iff_getElem?.mpr ⟨j, ?_⟩, ?_⟩
    · simp [Dialer.dispatchAt, hl]
    · rw [dispatch_syns_synSent, hsend, Bool.and_self, Bool.toNat_true]
      omega

def linesOf (s : DialSystem) : List Line := s.parts.flatMap Dialer.lines

def synsSent (s : DialSystem) : ℕ := ((linesOf s).map fun l => l.dial.syns).sum

lemma length_linesOf (s : DialSystem) : (linesOf s).length = connections (workers s) := by
  rw [linesOf, List.length_flatMap, connections, workers, List.map_map]
  congr 1
  apply List.map_congr_left
  intro d _
  exact d.aligned

lemma eachLine_linesOf {I : State → Line → Prop} {s : DialSystem}
    (h : Interleaving.Each (fun _ d => Dialer.EachLine I d) s) {l : Line} (hl : l ∈ linesOf s) :
    ∃ st, I st l := by
  obtain ⟨d, hd, hld⟩ := List.mem_flatMap.mp hl
  obtain ⟨k, hk⟩ := List.mem_iff_getElem?.mp hd
  obtain ⟨j, hj⟩ := List.mem_iff_getElem?.mp hld
  have hlt : j < d.thread.states.length := d.length_lines ▸ (List.getElem?_eq_some_iff.mp hj).1
  exact ⟨_, h k d hk j _ l (List.getElem?_eq_getElem hlt) hj⟩

theorem synsSent_eq_iff {s : DialSystem} (h : ∀ l ∈ linesOf s, 0 < l.dial.syns) :
    synsSent s = connections (workers s) ↔ ∀ l ∈ linesOf s, l.dial.syns ≤ 1 := by
  have hlen : connections (workers s) = ((linesOf s).map fun _ => 1).sum := by
    rw [← length_linesOf]
    simp
  rw [synsSent, hlen]
  constructor
  · intro hsum l hl
    exact (eq_of_sum_eq h hsum.symm l hl).symm.le
  · intro hone
    congr 1
    apply List.map_congr_left
    intro l hl
    exact (hone l hl).antisymm (h l hl)

theorem synRetries_eq_iff (cfg : Config) (up : Startup) (es : List (ℕ × DialEvent))
    (hanswered : Interleaving.LocalAlong (Dialer.next cfg up) (fun _ d e => d.LineEvents Answered e)
      (dialSpawn cfg up) es)
    (hreached : ∀ l ∈ linesOf (dialedAfter cfg up es), l.reached = true) :
    ((dialedAfter cfg up es).shared.synRetries : ℤ) =
        synsSent (dialedAfter cfg up es) - connections (workers (dialedAfter cfg up es)) ↔
      Interleaving.LocalAlong (Dialer.next cfg up) (fun _ d e => d.LineEvents NotResent e)
        (dialSpawn cfg up) es := by
  have hzero : (dialedAfter cfg up es).shared.synRetries = 0 := by
    have hshared := congrArg Interleaving.System.shared (workers_dialedAfter cfg up es)
    exact (congrArg Counters.synRetries hshared).trans (synRetries_systemAfter cfg up _)
  have hsent : ∀ l ∈ linesOf (dialedAfter cfg up es), 0 < l.dial.syns := by
    intro l hl
    obtain ⟨st, hs⟩ := eachLine_linesOf (sent_of_answered hanswered) hl
    exact hs.reached (hreached l hl)
  have hcount : (((dialedAfter cfg up es).shared.synRetries : ℤ) =
      synsSent (dialedAfter cfg up es) - connections (workers (dialedAfter cfg up es))) ↔
      synsSent (dialedAfter cfg up es) = connections (workers (dialedAfter cfg up es)) := by
    rw [hzero]
    omega
  rw [hcount, synsSent_eq_iff hsent]
  constructor
  · intro hone
    refine Interleaving.localAlong_of_not_somewhere (B := Doubled) (fun d k e hd => hd.next k e)
      (fun _ d k e hn => doubled_of_resent hn k) ?_
    rintro ⟨d, hd, l, hl, htwo⟩
    have hle := hone l (List.mem_flatMap.mpr ⟨d, hd, hl⟩)
    omega
  · intro hnot l hl
    obtain ⟨-, hle⟩ := eachLine_linesOf (once_of_notResent hnot) hl
    exact hle

def synAck : Segment := ⟨.syn, true, 0, false, []⟩

def answeredAtOnce : List (ℕ × DialEvent) :=
  [0, 1].flatMap fun k => [.worker .start, .worker (.connect true true 0), .dispatch 0 0 true,
    .dispatch 0 49 true, .worker (.segment 0 synAck), .worker .polled, .worker (.step 49 [])].map fun e =>
      (k, e)

lemma dialSpawn_pair : dialSpawn (.small true) pairStartup =
    ⟨[.new (pairWorker 0 49152), .new (pairWorker 1 49153)], .zero⟩ := by
  rw [dialSpawn, spawn_pair]
  rfl

theorem synRetries_answeredAtOnce :
    ((dialedAfter (.small true) pairStartup answeredAtOnce).shared.synRetries : ℤ) =
      synsSent (dialedAfter (.small true) pairStartup answeredAtOnce) -
        connections (workers (dialedAfter (.small true) pairStartup answeredAtOnce)) := by
  refine (synRetries_eq_iff (.small true) pairStartup answeredAtOnce ?_ ?_).mpr ?_
  · rw [dialSpawn_pair]
    decide +kernel
  · rw [dialedAfter, dialSpawn_pair]
    decide +kernel
  · rw [dialSpawn_pair]
    decide +kernel

-- The first SYN or its answer is lost; the poll at 50 ms sends the SYN again.
def answeredLate : List (ℕ × DialEvent) :=
  [.worker .start, .worker (.connect true true 0), .dispatch 0 0 true, .worker .polled,
    .worker (.step 1 []), .dispatch 0 50 true, .worker (.segment 0 synAck), .worker .polled,
    .worker (.step 51 [])].map fun e => (0, e)

theorem synRetries_answeredLate :
    Interleaving.LocalAlong (Dialer.next (.small true) pairStartup)
      (fun _ d e => d.LineEvents Answered e) (dialSpawn (.small true) pairStartup) answeredLate ∧
    (∀ l ∈ linesOf (dialedAfter (.small true) pairStartup answeredLate), l.reached = true) ∧
    (dialedAfter (.small true) pairStartup answeredLate).shared.connsEstablished = 1 ∧
    connections (workers (dialedAfter (.small true) pairStartup answeredLate)) = 1 ∧
    synsSent (dialedAfter (.small true) pairStartup answeredLate) = 2 ∧
    (dialedAfter (.small true) pairStartup answeredLate).shared.synRetries = 0 ∧
    ((dialedAfter (.small true) pairStartup answeredLate).shared.synRetries : ℤ) ≠
      synsSent (dialedAfter (.small true) pairStartup answeredLate) -
        connections (workers (dialedAfter (.small true) pairStartup answeredLate)) := by
  rw [dialedAfter, dialSpawn_pair]
  decide +kernel

end Count

section Timeout

-- The eighth SYN is due 6350 ms after the first, and `conn_step` gives up after 5000 ms.
end Timeout

end SmoltcpS3.Worker
