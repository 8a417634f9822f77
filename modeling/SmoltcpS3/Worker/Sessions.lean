import SmoltcpS3.Connection.Stages
import SmoltcpS3.Worker.Thread

/-! What one event does to a worker, and the rule that carries an invariant of single connections
to all workers. -/

namespace SmoltcpS3.Worker

open Smoltcp Connection ListUpdates

namespace Thread

variable (cfg : Config) (up : Startup)

theorem next_cases (t : Thread) (k : Counters) (e : Event) :
    t.next cfg up k e = (t, k) ∨
    (t.phase = .starting ∧ e = .start ∧ t.next cfg up k e =
      (if up.serverNameOk then t.connectFrom cfg 0 else { t with phase := .returned }, k)) ∨
    (∃ i accepted tlsNew now, t.phase = .connecting i ∧ e = .connect accepted tlsNew now ∧
      t.next cfg up k e = (t.onConnect cfg i accepted tlsNew now k, k)) ∨
    (∃ j seg, t.phase = .polling ∧ e = .segment j seg ∧ t.next cfg up k e =
      ({ t with sessions := t.sessions.modify j (·.onSegment seg) }, k)) ∨
    (t.phase = .polling ∧ e = .misrouted ∧ t.next cfg up k e =
      (t, { k with misroutedDrops := k.misroutedDrops + 1 })) ∨
    (t.phase = .polling ∧ e = .polled ∧ t.next cfg up k e = (t.stepFrom 0 true, k)) ∨
    (∃ j allDone now tls s, t.phase = .stepping j allDone ∧ e = .step now tls ∧
      t.sessions[j]? = some s ∧ t.next cfg up k e =
        (({ t with sessions := t.sessions.set j (stepSession cfg now tls k s).1 } : Thread).stepFrom
            (j + 1) (allDone && (stepSession cfg now tls k s).2),
          (stepSession cfg now tls k s).1.counters)) := by
  simp only [next]
  split
  · rename_i hp
    exact Or.inr (Or.inl ⟨hp, rfl, rfl⟩)
  · rename_i i accepted tlsNew now hp
    exact Or.inr (Or.inr (Or.inl ⟨i, accepted, tlsNew, now, hp, rfl, rfl⟩))
  · rename_i j seg hp
    exact Or.inr (Or.inr (Or.inr (Or.inl ⟨j, seg, hp, rfl, rfl⟩)))
  · rename_i hp
    exact Or.inr (Or.inr (Or.inr (Or.inr (Or.inl ⟨hp, rfl, rfl⟩))))
  · rename_i hp
    exact Or.inr (Or.inr (Or.inr (Or.inr (Or.inr (Or.inl ⟨hp, rfl, rfl⟩)))))
  · rename_i j allDone now tls hp
    rw [onStep]
    split
    · exact Or.inl rfl
    · rename_i s hs
      exact Or.inr (Or.inr (Or.inr (Or.inr (Or.inr (Or.inr
        ⟨j, allDone, now, tls, s, hp, rfl, hs, rfl⟩)))))
  · exact Or.inl rfl

@[simp] lemma stepFrom_sessions (j : ℕ) (allDone : Bool) (t : Thread) :
    (t.stepFrom j allDone).sessions = t.sessions := by
  rw [stepFrom]
  split_ifs <;> rfl

lemma onConnect_sessions (t : Thread) (i : ℕ) (accepted tlsNew : Bool) (now : ℤ) (k : Counters) :
    (t.onConnect cfg i accepted tlsNew now k).sessions = t.sessions ∨
      (t.onConnect cfg i accepted tlsNew now k).sessions =
        t.sessions ++ [(t.opening cfg i now k).session] := by
  rw [onConnect]
  split_ifs
  · exact Or.inl rfl
  · exact Or.inl rfl
  · exact Or.inr rfl

def sessionEvent (t : Thread) (e : Event) : Option (ℕ × Connection.Event) :=
  match t.phase, e with
  | .polling, .segment j seg => some (j, .segment seg)
  | .stepping j _, .step now tls => some (j, .step now tls)
  | _, _ => none

/-- What an event does to the connections of a worker: nothing, a new one, or one of them takes its
own event. The counters change with a step only, up to `MISROUTED_DROPS`. -/
theorem next_sessions (t : Thread) (k : Counters) (e : Event) :
    ((t.next cfg up k e).1.sessions = t.sessions ∧
      ∃ n, (t.next cfg up k e).2 = { k with misroutedDrops := n }) ∨
    (∃ o : Opening, (t.next cfg up k e).1.sessions = t.sessions ++ [o.session] ∧
      (t.next cfg up k e).2 = k) ∨
    (∃ j seg s, t.sessionEvent e = some (j, .segment seg) ∧ t.sessions[j]? = some s ∧
      (t.next cfg up k e).1.sessions = t.sessions.set j (s.onSegment seg) ∧
      (t.next cfg up k e).2 = k) ∨
    ∃ j now tls s, t.sessionEvent e = some (j, .step now tls) ∧ t.sessions[j]? = some s ∧
      (t.next cfg up k e).1.sessions = t.sessions.set j (stepSession cfg now tls k s).1 ∧
      (t.next cfg up k e).2 = (stepSession cfg now tls k s).1.counters := by
  rcases next_cases cfg up t k e with he | ⟨_, _, he⟩ | ⟨i, accepted, tlsNew, now, _, _, he⟩ |
    ⟨j, seg, hph, rfl, he⟩ | ⟨_, _, he⟩ | ⟨_, _, he⟩ | ⟨j, allDone, now, tls, s, hph, rfl, hs, he⟩ <;>
    rw [he]
  · exact .inl ⟨rfl, k.misroutedDrops, rfl⟩
  · refine .inl ⟨?_, k.misroutedDrops, rfl⟩
    dsimp only
    split_ifs <;> rfl
  · rcases onConnect_sessions cfg t i accepted tlsNew now k with hc | hc
    · exact .inl ⟨hc, k.misroutedDrops, rfl⟩
    · exact .inr (.inl ⟨_, hc, rfl⟩)
  · cases hj : t.sessions[j]? with
    | none =>
      refine .inl ⟨?_, k.misroutedDrops, rfl⟩
      exact List.modify_eq_self (List.getElem?_eq_none_iff.mp hj)
    | some s =>
      refine .inr (.inr (.inl ⟨j, seg, s, ?_, hj, modify_of_getElem? hj _, rfl⟩))
      simp [sessionEvent, hph]
  · exact .inl ⟨rfl, _, rfl⟩
  · exact .inl ⟨stepFrom_sessions _ _ _, k.misroutedDrops, rfl⟩
  · refine .inr (.inr (.inr ⟨j, now, tls, s, ?_, hs, stepFrom_sessions _ _ _, rfl⟩))
    simp [sessionEvent, hph]

def SessionEvents (P : ℕ → Session → Connection.Event → Prop) (t : Thread) (e : Event) : Prop :=
  ∀ x ∈ t.sessionEvent e, ∀ s ∈ t.sessions[x.1]?, P x.1 s x.2

instance (P : ℕ → Session → Connection.Event → Prop) [∀ j s e, Decidable (P j s e)] (t : Thread) (e : Event) :
    Decidable (t.SessionEvents P e) :=
  inferInstanceAs (Decidable (∀ x ∈ t.sessionEvent e, ∀ s ∈ t.sessions[x.1]?, P x.1 s x.2))

def EachSession (I : ℕ → Session → Prop) (t : Thread) : Prop := ∀ j s, t.sessions[j]? = some s → I j s

variable {cfg up}

lemma EachSession.append {I : ℕ → Session → Prop} {t t' : Thread} (h : t.EachSession I) {s : Session}
    (hs : ∀ j, I j s) (he : t'.sessions = t.sessions ++ [s]) : t'.EachSession I := by
  intro j s' hj
  rw [he, List.getElem?_append] at hj
  split_ifs at hj with hlt
  · exact h j s' hj
  · rw [List.getElem?_singleton] at hj
    split_ifs at hj
    cases hj
    exact hs j

lemma EachSession.set {I : ℕ → Session → Prop} {t t' : Thread} (h : t.EachSession I) {i : ℕ}
    {s : Session} (hs : I i s) (he : t'.sessions = t.sessions.set i s) : t'.EachSession I := by
  intro j s' hj
  rw [he, List.getElem?_set] at hj
  split_ifs at hj with hij hlt
  · cases hj
    exact hij ▸ hs
  · exact h j s' hj

/-- What the events of a connection keep of it, the events of its worker keep of all its connections.
The counters are shared, so `I` and `P` must not depend on them. -/
theorem EachSession.next {I : ℕ → Session → Prop} {P : ℕ → Session → Connection.Event → Prop}
    (hopen : ∀ j (o : Opening), I j o.session)
    (hcount : ∀ j s k, I j s → I j { s with counters := k })
    (hcountP : ∀ j s k e, P j s e → P j { s with counters := k } e)
    (hnext : ∀ j s e, I j s → P j s e → I j (s.next cfg e)) {t : Thread} (h : t.EachSession I)
    {k : Counters} {e : Event} (hp : t.SessionEvents P e) : (t.next cfg up k e).1.EachSession I := by
  rcases next_sessions cfg up t k e with ⟨he, -⟩ | ⟨o, he, -⟩ | ⟨j, seg, s, hev, hs, he, -⟩ |
    ⟨j, now, tls, s, hev, hs, he, -⟩
  · intro j s hj
    rw [he] at hj
    exact h j s hj
  · exact h.append (fun j => hopen j o) he
  · exact h.set (hnext j s (.segment seg) (h j s hs) (hp _ hev s hs)) he
  · have hserved := hcountP j s k _ (hp _ hev s hs)
    exact h.set (hnext j _ (.step now tls) (hcount j s k (h j s hs)) hserved) he

structure Rounds (t : Thread) : Prop where
  stepping : ∀ j, t.phase = .stepping j true → ∀ i < j, ∀ s, t.sessions[i]? = some s → s.conn.done = true
  finished : t.phase = .finished → ∀ s ∈ t.sessions, s.conn.done = true

lemma rounds_of_phase {t : Thread} (hs : ∀ j d, t.phase ≠ .stepping j d) (hf : t.phase ≠ .finished) :
    t.Rounds :=
  ⟨fun j h => absurd h (hs j true), fun h => absurd h hf⟩

lemma rounds_connectFrom (i : ℕ) (t : Thread) : (t.connectFrom cfg i).Rounds := by
  rw [connectFrom]
  split_ifs <;> exact rounds_of_phase nofun nofun

lemma rounds_onConnect (t : Thread) (i : ℕ) (accepted tlsNew : Bool) (now : ℤ) (k : Counters) :
    (t.onConnect cfg i accepted tlsNew now k).Rounds := by
  rw [onConnect]
  split_ifs
  · exact rounds_connectFrom _ _
  · exact rounds_of_phase nofun nofun
  · exact rounds_connectFrom _ _

lemma rounds_stepFrom {t : Thread} {j : ℕ} {allDone : Bool}
    (h : allDone = true → ∀ i < j, ∀ s, t.sessions[i]? = some s → s.conn.done = true) :
    (t.stepFrom j allDone).Rounds := by
  rw [stepFrom]
  split_ifs with hj hd
  · refine ⟨fun j' hph => ?_, nofun⟩
    cases hph
    exact h rfl
  · refine ⟨nofun, fun _ s hs => ?_⟩
    obtain ⟨i, hi⟩ := List.mem_iff_getElem?.mp hs
    have hlt : i < t.sessions.length := (List.getElem?_eq_some_iff.mp hi).1
    exact h hd i (by omega) s hi
  · exact rounds_of_phase nofun nofun

lemma connStep_snd (cfg : Config) (now : ℤ) (tls : List UnbufferedStatus) (s : Session) :
    (s.connStep cfg now tls).2 = (s.connStep cfg now tls).1.conn.done := by
  rcases Session.connStep_cases cfg now tls s with ⟨hd, he⟩ | ⟨_, _, he⟩ | ⟨_, _, he⟩ <;> rw [he]
  · exact hd.symm
  · rfl

theorem Rounds.next {t : Thread} (h : t.Rounds) (k : Counters) (e : Event) :
    (t.next cfg up k e).1.Rounds := by
  rcases next_cases cfg up t k e with he | ⟨_, _, he⟩ | ⟨i, accepted, tlsNew, now, _, _, he⟩ |
    ⟨j, seg, hp, _, he⟩ | ⟨_, _, he⟩ | ⟨_, _, he⟩ | ⟨j, allDone, now, tls, s, hp, _, _, he⟩ <;> rw [he]
  · exact h
  · dsimp only
    split_ifs
    · exact rounds_connectFrom _ _
    · exact rounds_of_phase nofun nofun
  · exact rounds_onConnect t i accepted tlsNew now k
  · exact rounds_of_phase (by simp [hp]) (by simp [hp])
  · exact h
  · exact rounds_stepFrom fun _ i hi => absurd hi (Nat.not_lt_zero i)
  · apply rounds_stepFrom
    intro hall i hi s' hs'
    obtain ⟨hall, hd⟩ := (Bool.and_eq_true _ _).mp hall
    subst hall
    rw [List.getElem?_set] at hs'
    split_ifs at hs' with hij hlt
    · cases hs'
      exact (connStep_snd cfg now tls _).symm.trans hd
    · exact h.stepping j hp i (by omega) s' hs'

end Thread

lemma each_spawn {cfg : Config} {up : Startup} {I : ℕ → Thread → Prop} (h : ∀ k, I k (Thread.new cfg up k)) :
    Interleaving.Each I (spawn cfg up) := by
  intro k t ht
  obtain ⟨i, hi, rfl⟩ := Option.map_eq_some_iff.mp ((List.getElem?_map ..).symm.trans ht)
  obtain ⟨hlt, rfl⟩ := List.getElem?_eq_some_iff.mp hi
  rw [List.getElem_range]
  exact h k

end SmoltcpS3.Worker
