import SmoltcpS3.Worker.Sessions

namespace SmoltcpS3.Worker

open Smoltcp Connection ListUpdates

structure Plan where
  queueId : UInt16
  srcPort : UInt16
  request : List UInt8
  expected : UInt64
  deriving DecidableEq, Repr

def planOf (s : Session) : Plan := ⟨s.conn.queueId, s.conn.srcPort, s.conn.request, s.conn.expected⟩

def planned (cfg : Config) (up : Startup) (k i : ℕ) : Plan :=
  planOf ((Thread.new cfg up k).opening cfg i 0 .zero).session

lemma expectedOf_eq (cfg : Config) (block : UInt64) : expectedOf cfg block = cfg.blockSize := by
  rw [expectedOf, blockEnd]
  abel

lemma planned_expected (cfg : Config) (up : Startup) (k i : ℕ) :
    (planned cfg up k i).expected = cfg.blockSize := expectedOf_eq cfg _

lemma planOf_pump (s : Session) (tls : List UnbufferedStatus) : planOf (s.pump tls) = planOf s := by
  refine Session.pump_invariant (I := fun t => planOf t = planOf s) ?_ s tls rfl
  intro t r h
  obtain ⟨_, _, _, _, _, hr | ⟨_, _, hr⟩ | ⟨_, _, hr⟩ | ⟨_, hr⟩ | ⟨_, _, _, _, hr⟩ | ⟨_, _, hr⟩⟩ :=
    Session.pumpOnce_cases t r <;> rw [hr] <;> exact h

lemma planOf_connStep (cfg : Config) (now : ℤ) (tls : List UnbufferedStatus) (s : Session) :
    planOf (s.connStep cfg now tls).1 = planOf s := by
  have hsettle : planOf (s.settle now) = planOf s := by
    obtain ⟨_, _, h⟩ := Session.settle_eq now s
    rw [h]
    rfl
  rcases Session.connStep_cases cfg now tls s with ⟨_, he⟩ | ⟨_, _, he⟩ | ⟨_, _, he⟩ <;> rw [he]
  · exact hsettle
  · have hqueue : planOf ((s.settle now).queueRequest cfg) = planOf s := by
      rw [Session.queueRequest]
      split <;> exact hsettle
    have htransfer : planOf ((s.settle now).transfer cfg) = planOf s := by
      obtain ⟨_, _, _, _, _, h⟩ := Session.transfer_eq cfg (s.settle now)
      rw [h]
      exact hqueue
    have hpump : planOf (((s.settle now).transfer cfg).runPump cfg tls) = planOf s := by
      rw [Session.runPump]
      split_ifs
      · exact htransfer
      · exact (planOf_pump _ tls).trans htransfer
    rcases Session.closeCheck_cases (((s.settle now).transfer cfg).runPump cfg tls) with h |
      ⟨_, _, _, _, _, h⟩ <;> dsimp only <;> rw [h] <;> exact hpump

namespace Thread

variable {cfg : Config} {up : Startup} {k : ℕ}

def opened (cfg : Config) (t : Thread) : ℕ :=
  match t.phase with
  | .starting => 0
  | .connecting i => i
  | _ => t.nConns cfg

structure Assigned (cfg : Config) (up : Startup) (k n : ℕ) (t : Thread) : Prop where
  queueId : t.queueId = (new cfg up k).queueId
  firstBlock : t.firstBlock = (new cfg up k).firstBlock
  ports : t.ports = (new cfg up k).ports
  plans : ∃ is : List ℕ, is.Sublist (List.range n) ∧ t.sessions.map planOf = is.map (planned cfg up k)
  n_le : n ≤ t.nConns cfg

structure Accounted (cfg : Config) (up : Startup) (k : ℕ) (t : Thread) : Prop where
  assigned : t.Assigned cfg up k (t.opened cfg)
  inLoop : ∀ i, t.phase = .connecting i → i < t.nConns cfg
  sums : t.sums = if t.phase = .finished then sumsOf t.sessions else ⟨0, 0, 0, 0⟩

lemma Assigned.mono {n n' : ℕ} {t t' : Thread} (h : t.Assigned cfg up k n) (hn : n ≤ n')
    (hn' : n' ≤ t.nConns cfg) (hq : t'.queueId = t.queueId) (hb : t'.firstBlock = t.firstBlock)
    (hp : t'.ports = t.ports) (hs : t'.sessions.map planOf = t.sessions.map planOf) :
    t'.Assigned cfg up k n' := by
  obtain ⟨is, hsub, hplans⟩ := h.plans
  refine ⟨hq.trans h.queueId, hb.trans h.firstBlock, hp.trans h.ports,
    ⟨is, hsub.trans (List.range_sublist.mpr hn), hs.trans hplans⟩, ?_⟩
  rwa [nConns, hp]

lemma accounted_new (cfg : Config) (up : Startup) (k : ℕ) : (new cfg up k).Accounted cfg up k where
  assigned := ⟨rfl, rfl, rfl, ⟨[], List.nil_sublist _, rfl⟩, Nat.zero_le _⟩
  inLoop _ h := by cases h
  sums := rfl

lemma Assigned.connectFrom {i : ℕ} {t : Thread} (h : t.Assigned cfg up k i)
    (hsums : t.sums = ⟨0, 0, 0, 0⟩) : (t.connectFrom cfg i).Accounted cfg up k := by
  rw [Thread.connectFrom]
  split_ifs with hi
  · refine ⟨h.mono le_rfl h.n_le rfl rfl rfl rfl, ?_, hsums⟩
    intro j hj
    cases hj
    exact hi
  · exact ⟨h.mono h.n_le le_rfl rfl rfl rfl rfl, by simp, hsums⟩

lemma Assigned.stepFrom {n : ℕ} {t : Thread} (h : t.Assigned cfg up k n) (hn : n = t.nConns cfg)
    (hsums : t.sums = ⟨0, 0, 0, 0⟩) (j : ℕ) (allDone : Bool) :
    (t.stepFrom j allDone).Accounted cfg up k := by
  subst hn
  rw [Thread.stepFrom]
  split_ifs
  · exact ⟨h.mono le_rfl le_rfl rfl rfl rfl rfl, by simp, hsums⟩
  · refine ⟨h.mono le_rfl le_rfl rfl rfl rfl rfl, ?_, rfl⟩
    intro i hi
    cases hi
  · exact ⟨h.mono le_rfl le_rfl rfl rfl rfl rfl, by simp, hsums⟩

lemma Accounted.sums_zero {t : Thread} (h : t.Accounted cfg up k) (hp : t.phase ≠ .finished) :
    t.sums = ⟨0, 0, 0, 0⟩ := by
  rw [h.sums, if_neg hp]

lemma Assigned.planOf_opening {n : ℕ} {t : Thread} (h : t.Assigned cfg up k n) (i : ℕ) (now : ℤ)
    (c : Counters) : planOf (t.opening cfg i now c).session = planned cfg up k i := by
  simp only [planOf, planned, opening, Opening.session, h.queueId, h.firstBlock, h.ports]

lemma Assigned.onConnect {i : ℕ} {t : Thread} (h : t.Assigned cfg up k i) (hi : i < t.nConns cfg)
    (hsums : t.sums = ⟨0, 0, 0, 0⟩) (accepted tlsNew : Bool) (now : ℤ) (c : Counters) :
    (t.onConnect cfg i accepted tlsNew now c).Accounted cfg up k := by
  rw [Thread.onConnect]
  split_ifs
  · exact (h.mono (Nat.le_succ i) hi rfl rfl rfl rfl).connectFrom hsums
  · exact ⟨h.mono h.n_le le_rfl rfl rfl rfl rfl, by simp, hsums⟩
  · obtain ⟨is, hsub, hplans⟩ := h.plans
    refine Assigned.connectFrom ⟨h.queueId, h.firstBlock, h.ports, ⟨is ++ [i], ?_, ?_⟩, hi⟩ hsums
    · rw [List.range_succ]
      exact hsub.append (List.Sublist.refl _)
    · rw [List.map_append, List.map_append, hplans, List.map_singleton, h.planOf_opening]
      rfl

theorem Accounted.next {t : Thread} (h : t.Accounted cfg up k) (c : Counters) (e : Event) :
    (t.next cfg up c e).1.Accounted cfg up k := by
  have hassigned := h.assigned
  rcases next_cases cfg up t c e with he | ⟨hp, _, he⟩ | ⟨i, accepted, tlsNew, now, hp, _, he⟩ |
    ⟨j, seg, hp, _, he⟩ | ⟨_, _, he⟩ | ⟨hp, _, he⟩ | ⟨j, allDone, now, tls, s, hp, _, hs, he⟩ <;> rw [he]
  · exact h
  · have hsums := h.sums_zero (by simp [hp])
    simp only [opened, hp] at hassigned
    dsimp only
    split_ifs
    · exact hassigned.connectFrom hsums
    · exact ⟨hassigned.mono (Nat.zero_le _) le_rfl rfl rfl rfl rfl, by simp, hsums⟩
  · simp only [opened, hp] at hassigned
    exact hassigned.onConnect (h.inLoop i hp) (h.sums_zero (by simp [hp])) accepted tlsNew now c
  · have hsums := h.sums_zero (by simp [hp])
    simp only [opened, hp] at hassigned
    refine ⟨?_, by simp [hp], by simpa [hp] using hsums⟩
    simp only [opened, hp]
    exact hassigned.mono le_rfl le_rfl rfl rfl rfl
      (map_modify_of_forall (g := Session.onSegment seg) (fun _ => rfl) t.sessions j)
  · exact h
  · simp only [opened, hp] at hassigned
    exact hassigned.stepFrom rfl (h.sums_zero (by simp [hp])) 0 true
  · simp only [opened, hp] at hassigned
    have hplan : planOf (stepSession cfg now tls c s).1 = planOf s := planOf_connStep cfg now tls _
    have hset : ({ t with sessions := t.sessions.set j (stepSession cfg now tls c s).1 } : Thread).Assigned
        cfg up k (t.nConns cfg) :=
      hassigned.mono le_rfl le_rfl rfl rfl rfl (map_set_of_getElem? hs hplan)
    exact hset.stepFrom rfl (h.sums_zero (by simp [hp])) _ _

lemma Assigned.plans_of_length {n : ℕ} {t : Thread} (h : t.Assigned cfg up k n)
    (hlen : n ≤ t.sessions.length) :
    t.sessions.map planOf = (List.range n).map (planned cfg up k) := by
  obtain ⟨is, hsub, hplans⟩ := h.plans
  have hlen' : t.sessions.length = is.length := by
    simpa using congrArg List.length hplans
  have hle : (List.range n).length ≤ is.length := by
    rw [List.length_range]
    omega
  rw [hplans, hsub.eq_of_length_le hle]

lemma Assigned.length_le {n : ℕ} {t : Thread} (h : t.Assigned cfg up k n) : t.sessions.length ≤ n := by
  obtain ⟨is, hsub, hplans⟩ := h.plans
  have hlen : t.sessions.length = is.length := by
    simpa using congrArg List.length hplans
  have := hsub.length_le
  rw [List.length_range] at this
  omega

lemma Assigned.expected {n : ℕ} {t : Thread} (h : t.Assigned cfg up k n) {s : Session}
    (hs : s ∈ t.sessions) : s.conn.expected = cfg.blockSize := by
  obtain ⟨is, _, hplans⟩ := h.plans
  have hmem : planOf s ∈ is.map (planned cfg up k) := hplans ▸ List.mem_map_of_mem hs
  obtain ⟨i, _, hi⟩ := List.mem_map.mp hmem
  have he : (planOf s).expected = cfg.blockSize := hi ▸ planned_expected cfg up k i
  exact he

end Thread

theorem accounted_systemAfter (cfg : Config) (up : Startup) (es : List (ℕ × Event)) :
    Interleaving.Each (Thread.Accounted cfg up) (systemAfter cfg up es) := by
  refine Interleaving.Each.run_of_forall (fun _ _ c e h => h.next c e) ?_ es
  exact each_spawn fun k => Thread.accounted_new cfg up k

lemma length_systemAfter (cfg : Config) (up : Startup) (es : List (ℕ × Event)) :
    (systemAfter cfg up es).parts.length = up.nWorkers.toNat := by
  rw [systemAfter, Interleaving.length_run, spawn, List.length_map, List.length_range]

end SmoltcpS3.Worker
