import SmoltcpS3.Connection.Input
import SmoltcpS3.Rss.Selection
import SmoltcpS3.Worker.Accounting
import SmoltcpS3.Worker.Verdict

namespace SmoltcpS3.Worker

open Smoltcp Connection ListUpdates

lemma sum_map_toNat {α : Type*} (f : α → UInt64) (l : List α) :
    (l.map f).sum = UInt64.ofNat (l.map fun a => (f a).toNat).sum := by
  induction l with
  | nil => rfl
  | cons a l ih => rw [List.map_cons, List.sum_cons, ih, List.map_cons, List.sum_cons, UInt64.ofNat_add,
      UInt64.ofNat_toNat]

lemma ofNat_inj_of_lt {m n : ℕ} (hm : m < 2 ^ 64) (hn : n < 2 ^ 64) (h : UInt64.ofNat m = UInt64.ofNat n) :
    m = n := by
  rw [← UInt64.toNat_ofNat_of_lt' hm, ← UInt64.toNat_ofNat_of_lt' hn, h]

def reported (t : Thread) : List Session := if t.phase = .finished then t.sessions else []

def sessionsOf (s : System) : List Session := s.parts.flatMap Thread.sessions

lemma sums_eq {cfg : Config} {up : Startup} {k : ℕ} {t : Thread} (h : t.Accounted cfg up k) :
    t.sums = sumsOf (reported t) := by
  rw [h.sums, reported]
  split_ifs <;> rfl

lemma sumsOf_append (l m : List Session) :
    sumsOf (l ++ m) =
      ⟨(sumsOf l).bytesReceived + (sumsOf m).bytesReceived, (sumsOf l).bytesExpected + (sumsOf m).bytesExpected,
        (sumsOf l).connsTotal + (sumsOf m).connsTotal, (sumsOf l).connsClean + (sumsOf m).connsClean⟩ := by
  simp only [sumsOf, List.map_append, List.sum_append, List.length_append, List.countP_append,
    UInt64.ofNat_add]

lemma totals_eq {ts : List Thread} (h : ∀ t ∈ ts, t.sums = sumsOf (reported t)) :
    totals ts = sumsOf (ts.flatMap reported) := by
  induction ts with
  | nil => rfl
  | cons t ts ih =>
    have hts := ih fun u hu => h u (List.mem_cons_of_mem t hu)
    rw [List.flatMap_cons, sumsOf_append, ← hts, ← h t List.mem_cons_self]
    rfl

lemma planned_lt (cfg : Config) (up : Startup) : up.nWorkers.toNat * cfg.connsPerWorker < 2 ^ 64 := by
  have hn : up.nWorkers.toNat ≤ rxBufferSize := by
    have := up.nWorkers.toNat_lt
    simp only [rxBufferSize]
    omega
  calc up.nWorkers.toNat * cfg.connsPerWorker
      ≤ rxBufferSize * cfg.connsPerWorker := Nat.mul_le_mul_right _ hn
    _ = cfg.connsPerWorker * rxBufferSize := Nat.mul_comm _ _
    _ < 2 ^ 64 := cfg.buffers_fit

lemma verdict_eq_complete {cfg : Config} {up : Startup} {s : Sums} {misrouted : ℕ} {totalB : UInt64}
    (h : verdict cfg up s misrouted = .complete totalB) :
    s.connsClean = s.connsTotal ∧ s.connsTotal = plannedConns cfg up ∧ s.bytesReceived = s.bytesExpected ∧
      misrouted = 0 ∧ totalB = s.bytesReceived := by
  rw [verdict] at h
  split_ifs at h with hok hstub
  cases h
  simp only [Bool.and_eq_true, beq_iff_eq, rangesOk, bytesOk, hstub] at hok
  exact ⟨hok.1.1.1.1, hok.1.1.2, by simpa using hok.1.2, hok.2, rfl⟩

lemma length_reported_le {cfg : Config} {up : Startup} {k : ℕ} {t : Thread} (h : t.Accounted cfg up k) :
    (reported t).length ≤ cfg.connsPerWorker := by
  have hle : t.sessions.length ≤ cfg.connsPerWorker :=
    (h.assigned.length_le.trans h.assigned.n_le).trans (min_le_left _ _)
  rw [reported]
  split_ifs
  · exact hle
  · exact Nat.zero_le _

lemma all_opened {cfg : Config} {up : Startup} {ts : List Thread}
    (hle : ∀ t ∈ ts, (reported t).length ≤ cfg.connsPerWorker) (hn : ts.length = up.nWorkers.toNat)
    (h : UInt64.ofNat (ts.flatMap reported).length = plannedConns cfg up) :
    ∀ t ∈ ts, reported t = t.sessions ∧ t.sessions.length = cfg.connsPerWorker := by
  have hplanned : (ts.map fun _ => cfg.connsPerWorker).sum = up.nWorkers.toNat * cfg.connsPerWorker := by
    rw [List.map_const', List.sum_replicate, smul_eq_mul, hn]
  have hsum : (ts.map fun t => (reported t).length).sum ≤ up.nWorkers.toNat * cfg.connsPerWorker :=
    hplanned ▸ List.sum_le_sum hle
  have hlen : (ts.map fun t => (reported t).length).sum = up.nWorkers.toNat * cfg.connsPerWorker := by
    rw [List.length_flatMap, plannedConns, ← UInt64.ofNat_mul] at h
    exact ofNat_inj_of_lt (hsum.trans_lt (planned_lt cfg up)) (planned_lt cfg up) h
  have heach := eq_of_sum_eq hle (hlen.trans hplanned.symm)
  intro t ht
  have hfull := heach t ht
  have hpos := cfg.conns_pos
  rw [reported] at hfull ⊢
  split_ifs at hfull ⊢ with hf
  · exact ⟨rfl, hfull⟩
  · rw [List.length_nil] at hfull
    omega

lemma length_sessionsOf {cfg : Config} {up : Startup} {sys : System}
    (hn : sys.parts.length = up.nWorkers.toNat)
    (h : ∀ t ∈ sys.parts, t.sessions.length = cfg.connsPerWorker) :
    (sessionsOf sys).length = up.nWorkers.toNat * cfg.connsPerWorker := by
  have hmap : (sys.parts.map fun t => t.sessions.length) = sys.parts.map fun _ => cfg.connsPerWorker :=
    List.map_congr_left h
  rw [sessionsOf, List.length_flatMap, hmap, List.map_const', List.sum_replicate, smul_eq_mul, hn]

lemma sum_blocks {cfg : Config} {l : List Session} (h : ∀ s ∈ l, s.conn.expected = cfg.blockSize) :
    (l.map fun s => s.conn.expected.toNat).sum = l.length * cfg.blockSize.toNat := by
  have hmap : (l.map fun s => s.conn.expected.toNat) = l.map fun _ => cfg.blockSize.toNat :=
    List.map_congr_left fun s hs => by rw [h s hs]
  rw [hmap, List.map_const', List.sum_replicate, smul_eq_mul]

lemma input_systemAfter {cfg : Config} (hp : cfg.plainHttp = true) (up : Startup) (es : List (ℕ × Event)) :
    Interleaving.Each (fun _ t => t.EachSession fun _ s => s.InputInv) (systemAfter cfg up es) := by
  refine Interleaving.Each.run_of_forall (fun _ t c e h => ?_) ?_ es
  · refine Thread.EachSession.next (P := fun _ _ _ => True) (fun _ o => o.inputInv)
      (fun _ _ _ hi => ⟨hi.incoming, hi.counted, hi.conserved⟩) (fun _ _ _ _ _ => trivial)
      (fun _ _ e hi _ => hi.next hp e) h ?_
    exact fun _ _ _ _ => trivial
  · exact each_spawn fun k j s hs => by simp [Thread.new] at hs

theorem complete_sound (cfg : Config) (up : Startup) (es : List (ℕ × Event)) (totalB : UInt64)
    (h : osvAppMain cfg up (systemAfter cfg up es) = some (.complete totalB)) :
    let sys := systemAfter cfg up es
    sys.parts.length = up.nWorkers.toNat ∧
      (∀ k t, sys.parts[k]? = some t →
        t.sessions.map planOf = (List.range cfg.connsPerWorker).map (planned cfg up k)) ∧
      (∀ s ∈ sessionsOf sys, s.conn.closedCleanly = true ∧
        (cfg.plainHttp = true → s.conn.body.bytes = (Http.bodyOf s.trace.dequeued).length)) ∧
      sys.shared.misroutedDrops = 0 ∧
      totalB = UInt64.ofNat ((sessionsOf sys).map fun s => s.conn.body.bytes).sum ∧
      totalB = UInt64.ofNat ((sessionsOf sys).map fun s => s.conn.expected.toNat).sum ∧
      (up.nWorkers.toNat * cfg.connsPerWorker * cfg.blockSize.toNat < 2 ^ 64 →
        (∀ s ∈ sessionsOf sys, s.conn.body.bytes ≤ s.conn.expected.toNat) →
        ∀ s ∈ sessionsOf sys, s.conn.body.bytes = s.conn.expected.toNat) := by
  intro sys
  have hacc : Interleaving.Each (Thread.Accounted cfg up) sys := accounted_systemAfter cfg up es
  have hmem : ∀ t ∈ sys.parts, ∃ k, t.Accounted cfg up k := fun t ht => by
    obtain ⟨k, hk⟩ := List.mem_iff_getElem?.mp ht
    exact ⟨k, hacc k t hk⟩
  have hn : sys.parts.length = up.nWorkers.toNat := length_systemAfter cfg up es
  have hv : verdict cfg up (totals sys.parts) sys.shared.misroutedDrops = .complete totalB := by
    rw [osvAppMain] at h
    split_ifs at h
    exact Option.some.inj h
  rw [totals_eq fun t ht => (hmem t ht).elim fun _ ha => sums_eq ha] at hv
  obtain ⟨hclean, htotal, hbytes, hmis, rfl⟩ := verdict_eq_complete hv
  have hopened := all_opened (fun t ht => (hmem t ht).elim fun _ ha => length_reported_le ha) hn htotal
  have hall : sys.parts.flatMap reported = sessionsOf sys :=
    List.flatMap_congr fun t ht => (hopened t ht).1
  rw [hall] at hclean hbytes ⊢
  have hlen : (sessionsOf sys).length = up.nWorkers.toNat * cfg.connsPerWorker :=
    length_sessionsOf hn fun t ht => (hopened t ht).2
  have hsession : ∀ s ∈ sessionsOf sys, s.conn.expected = cfg.blockSize := fun s hs => by
    obtain ⟨t, ht, hst⟩ := List.mem_flatMap.mp hs
    exact (hmem t ht).elim fun _ ha => ha.assigned.expected hst
  have hexpected : (sumsOf (sessionsOf sys)).bytesReceived =
      UInt64.ofNat ((sessionsOf sys).map fun s => s.conn.expected.toNat).sum :=
    hbytes.trans (sum_map_toNat _ _)
  refine ⟨hn, ?_, ?_, hmis, rfl, hexpected, ?_⟩
  · intro k t hk
    have ht := hopened t (List.mem_of_getElem? hk)
    have ha := (hacc k t hk).assigned
    have hle : t.opened cfg ≤ cfg.connsPerWorker := ha.n_le.trans (min_le_left _ _)
    have hopen : t.opened cfg = cfg.connsPerWorker := le_antisymm hle (ht.2 ▸ ha.length_le)
    rw [ha.plans_of_length (by rw [hopen, ht.2]), hopen]
  · intro s hs
    have hcount : (sessionsOf sys).countP (fun s => s.conn.closedCleanly) = (sessionsOf sys).length := by
      have hlt := hlen ▸ planned_lt cfg up
      exact ofNat_inj_of_lt (List.countP_le_length.trans_lt hlt) hlt hclean
    refine ⟨List.countP_eq_length.mp hcount s hs, fun hp => ?_⟩
    obtain ⟨t, ht, hst⟩ := List.mem_flatMap.mp hs
    obtain ⟨k, hk⟩ := List.mem_iff_getElem?.mp ht
    obtain ⟨j, hj⟩ := List.mem_iff_getElem?.mp hst
    exact (input_systemAfter hp up es k t hk j s hj).counted.bytes_eq
  · intro hfit hover
    have hblocks := sum_blocks hsession
    rw [hlen] at hblocks
    refine eq_of_sum_eq hover (ofNat_inj_of_lt ?_ (hblocks ▸ hfit) hexpected)
    exact (List.sum_le_sum hover).trans_lt (hblocks ▸ hfit)

def pairStartup : Startup where
  nWorkers := 2
  rss := ⟨false, List.replicate 15 0 ++ 2 :: List.replicate 24 0, [0, 1]⟩
  ourIp := ⟨10, 0, 0, 2⟩
  serverNameOk := true
  workers_ne := by decide

def pairWorker (k : ℕ) (port : UInt16) : Thread :=
  { Thread.new (.small true) pairStartup k with ports := [port] }

lemma pair_steering :
    Rss.queueForLocalPort (.small true) pairStartup.rss pairStartup.ourIp
        (Rss.ephPort ⟨0, by decide⟩) = 0 ∧
      Rss.queueForLocalPort (.small true) pairStartup.rss pairStartup.ourIp
        (Rss.ephPort ⟨1, by decide⟩) = 1 := by
  decide +kernel

lemma spawn_pair :
    spawn (.small true) pairStartup = ⟨[pairWorker 0 49152, pairWorker 1 49153], .zero⟩ := by
  obtain ⟨l, hl⟩ := Rss.finRange_ephLen
  have hports : Rss.myPorts (.small true) pairStartup.rss pairStartup.ourIp 0 = [49152] :=
    Rss.myPorts_of_single_conn rfl (l := []) ⟨_, hl⟩ (fun _ => nofun) pair_steering.1
  have hports' : Rss.myPorts (.small true) pairStartup.rss pairStartup.ourIp 1 = [49153] := by
    refine Rss.myPorts_of_single_conn rfl (l := [⟨0, by decide⟩]) ⟨l, hl⟩ (fun j hj => ?_)
      pair_steering.2
    rw [List.mem_singleton.mp hj, pair_steering.1]
    decide
  have hnew : Thread.new (.small true) pairStartup 0 = pairWorker 0 49152 := by
    rw [pairWorker, ← hports]
    rfl
  have hnew' : Thread.new (.small true) pairStartup 1 = pairWorker 1 49153 := by
    rw [pairWorker, ← hports']
    rfl
  have hrange : List.range pairStartup.nWorkers.toNat = [0, 1] := by decide
  rw [spawn, hrange, List.map_cons, List.map_singleton, hnew, hnew']

def fetch (k : ℕ) (response : List UInt8) : List (ℕ × Event) :=
  [.start, .connect true true 0, .polled, .step 1 [], .segment 0 ⟨.syn, true, 0, false, []⟩, .polled,
    .step 2 [], .segment 0 ⟨.none, true, 3, false, response.take 5⟩, .polled, .step 3 [],
    .segment 0 ⟨.fin, true, 0, false, response.drop 5⟩, .polled, .step 4 []].map fun e => (k, e)

def pairRun (response response' : List UInt8) : List (ℕ × Event) :=
  ((fetch 0 response).zip (fetch 1 response')).flatMap fun e => [e.1, e.2]

def pairSystem (response response' : List UInt8) : System :=
  EventRuns.run (Interleaving.step (Thread.next (.small true) pairStartup))
    ⟨[pairWorker 0 49152, pairWorker 1 49153], .zero⟩ (pairRun response response')

lemma systemAfter_pairRun (response response' : List UInt8) :
    systemAfter (.small true) pairStartup (pairRun response response') = pairSystem response response' := by
  rw [systemAfter, spawn_pair, pairSystem]

def fullResponse : List UInt8 := Http.bytesOf "HTTP/1.1 206 Partial Content\r\n\r\nX"

theorem complete_sound_pair :
    ((sessionsOf (systemAfter (.small true) pairStartup (pairRun fullResponse fullResponse))).map
        fun s => s.conn.body.bytes) =
      (sessionsOf (systemAfter (.small true) pairStartup (pairRun fullResponse fullResponse))).map
        fun s => s.conn.expected.toNat := by
  have hcomplete : osvAppMain (.small true) pairStartup (pairSystem fullResponse fullResponse) =
      some (.complete 2) := by decide +kernel
  have hover : ∀ s ∈ sessionsOf (pairSystem fullResponse fullResponse),
      s.conn.body.bytes ≤ s.conn.expected.toNat := by decide +kernel
  rw [← systemAfter_pairRun] at hcomplete hover
  have hsound := complete_sound (.small true) pairStartup (pairRun fullResponse fullResponse) 2 hcomplete
  exact List.map_congr_left (hsound.2.2.2.2.2.2 (by decide) hover)

theorem complete_with_shortfall :
    ¬ ∀ (cfg : Config) (up : Startup) (es : List (ℕ × Event)) (totalB : UInt64),
      cfg.stubTlsAfterHandshake = false →
      osvAppMain cfg up (systemAfter cfg up es) = some (.complete totalB) →
      ∀ s ∈ sessionsOf (systemAfter cfg up es),
        s.conn.body.status = 206 ∧ s.conn.body.bytes = s.conn.expected.toNat := by
  intro h
  have hcomplete : osvAppMain (.small true) pairStartup
      (pairSystem (Http.bytesOf "HTTP/1.1 206 Partial Content\r\n\r\nXY")
        (Http.bytesOf "HTTP/1.1 503 Slow Down\r\n\r\n")) = some (.complete 2) := by decide +kernel
  rw [← systemAfter_pairRun] at hcomplete
  have hall := h (.small true) pairStartup _ 2 rfl hcomplete
  rw [systemAfter_pairRun] at hall
  revert hall
  decide +kernel

end SmoltcpS3.Worker
