import SmoltcpS3.Connection.Served
import SmoltcpS3.Worker.Completeness

namespace SmoltcpS3.Worker

open Smoltcp Connection

def Event.rejected : Event → Bool
  | .connect accepted _ _ => !accepted
  | _ => false

namespace Thread

variable {cfg : Config} {up : Startup} {k : ℕ}

structure AllOpened (cfg : Config) (t : Thread) : Prop where
  running : t.phase ≠ .returned
  length : t.sessions.length = t.opened cfg

lemma allOpened_connectFrom {t : Thread} {i : ℕ} (hlen : t.sessions.length = i) (hi : i ≤ t.nConns cfg) :
    (t.connectFrom cfg i).AllOpened cfg := by
  rw [connectFrom]
  split_ifs with hlt
  · exact ⟨by simp, hlen⟩
  · exact ⟨by simp, hlen.trans (le_antisymm hi (not_lt.mp hlt))⟩

lemma allOpened_stepFrom {t : Thread} (h : t.sessions.length = t.nConns cfg) (j : ℕ) (allDone : Bool) :
    (t.stepFrom j allDone).AllOpened cfg := by
  rw [stepFrom]
  split_ifs <;> exact ⟨by simp [finish], h⟩

theorem AllOpened.next {t : Thread} (h : t.AllOpened cfg) (ha : t.Accounted cfg up k)
    (hp : cfg.plainHttp = true) (hname : up.serverNameOk = true) {e : Event}
    (he : e.rejected = false) (c : Counters) :
    (t.next cfg up c e).1.AllOpened cfg := by
  have hlen := h.length
  rcases next_cases cfg up t c e with hs | ⟨hph, _, hs⟩ | ⟨i, accepted, tlsNew, now, hph, hc, hs⟩ |
    ⟨j, seg, hph, _, hs⟩ | ⟨_, _, hs⟩ | ⟨hph, _, hs⟩ | ⟨j, allDone, now, tls, s, hph, _, _, hs⟩ <;> rw [hs]
  · exact h
  · simp only [opened, hph] at hlen
    rw [hname, if_pos rfl]
    exact allOpened_connectFrom hlen (Nat.zero_le _)
  · simp only [opened, hph] at hlen
    subst hc
    obtain rfl : accepted = true := by simpa [Event.rejected] using he
    have hi := ha.inLoop i hph
    have hopen : t.onConnect cfg i true tlsNew now c =
        ({ t with sessions := t.sessions ++ [(t.opening cfg i now c).session] } : Thread).connectFrom cfg
          (i + 1) := by simp [onConnect, hp]
    rw [hopen]
    exact allOpened_connectFrom (by simp [hlen]) hi
  · simp only [opened, hph] at hlen
    exact ⟨by simp [hph], by simpa [opened, hph] using! hlen⟩
  · exact h
  · simp only [opened, hph] at hlen
    exact allOpened_stepFrom hlen 0 true
  · simp only [opened, hph] at hlen
    exact allOpened_stepFrom (by simpa using! hlen) _ _

def GoodEvent (responses : ℕ → ℕ → Response) (k : ℕ) (t : Thread) (e : Event) : Prop :=
  e.rejected = false ∧ t.SessionEvents (fun j s => s.ServedBy (responses k j)) e

instance (responses : ℕ → ℕ → Response) (k : ℕ) (t : Thread) (e : Event) :
    Decidable (t.GoodEvent responses k e) :=
  inferInstanceAs (Decidable (_ ∧ _))

structure Good (cfg : Config) (up : Startup) (responses : ℕ → ℕ → Response) (k : ℕ) (t : Thread) : Prop
    extends Accounted cfg up k t, Rounds t, AllOpened cfg t where
  served : t.EachSession fun j s => s.Served (responses k j)

variable {responses : ℕ → ℕ → Response}

lemma good_new (cfg : Config) (up : Startup) (responses : ℕ → ℕ → Response) (k : ℕ) :
    (new cfg up k).Good cfg up responses k where
  toAccounted := accounted_new cfg up k
  toRounds := rounds_of_phase (by simp [new]) (by simp [new])
  toAllOpened := ⟨by simp [new], by simp [new, opened]⟩
  served j s hs := by simp [new] at hs

theorem Good.next {t : Thread} (h : t.Good cfg up responses k) (hp : cfg.plainHttp = true)
    (hname : up.serverNameOk = true) {e : Event} (he : t.GoodEvent responses k e) (c : Counters) :
    (t.next cfg up c e).1.Good cfg up responses k where
  toAccounted := h.toAccounted.next c e
  toRounds := h.toRounds.next c e
  toAllOpened := h.toAllOpened.next h.toAccounted hp hname he.1 c
  served :=
    EachSession.next (fun _ o => o.served _) (fun _ _ c hs => hs.withCounters c)
      (fun _ _ c _ hs => hs.withCounters c) (fun _ _ _ hs hserved => hs.next hp hserved) h.served he.2

end Thread

section

variable {cfg : Config} {up : Startup} {responses : ℕ → ℕ → Response}

lemma good_systemAfter (hp : cfg.plainHttp = true) (hname : up.serverNameOk = true)
    {es : List (ℕ × Event)}
    (hgood : Interleaving.LocalAlong (Thread.next cfg up) (Thread.GoodEvent responses) (spawn cfg up) es) :
    Interleaving.Each (Thread.Good cfg up responses) (systemAfter cfg up es) :=
  Interleaving.Each.run (fun _ _ c _ h he => h.next hp hname he c)
    (each_spawn fun k => Thread.good_new cfg up responses k) hgood

lemma Thread.Good.of_stopped {k : ℕ} {t : Thread} (h : t.Good cfg up responses k) (hs : t.Stopped)
    (hports : cfg.connsPerWorker ≤ Rss.ownedCount cfg up.rss up.ourIp (UInt16.ofNat k))
    (hbody : ∀ j, (responses k j).body.length = (planned cfg up k j).expected.toNat) :
    reported t = t.sessions ∧ t.sessions.length = cfg.connsPerWorker ∧
      ∀ s ∈ t.sessions, s.conn.closedCleanly = true ∧ s.conn.body.bytes = s.conn.expected.toNat := by
  have hf : t.phase = .finished := hs.resolve_right h.running
  refine ⟨if_pos hf, ?_, fun s hmem => ?_⟩
  · have hlen := h.length
    simp only [opened, hf, nConns, h.assigned.ports, Thread.new] at hlen
    rw [hlen, Rss.length_myPorts hports, min_self]
  · obtain ⟨j, hj⟩ := List.mem_iff_getElem?.mp hmem
    obtain ⟨hclean, hbytes⟩ := (h.served j s hj).of_done (h.finished hf s hmem)
    refine ⟨hclean, ?_⟩
    rw [hbytes, hbody, planned_expected, h.assigned.expected hmem]

lemma verdict_of_totals {s : Sums} {n : ℕ} (hstub : cfg.stubTlsAfterHandshake = false) (hpos : 0 < n)
    (hlt : n < 2 ^ 64) (htotal : s.connsTotal = UInt64.ofNat n) (hclean : s.connsClean = UInt64.ofNat n)
    (hplanned : plannedConns cfg up = UInt64.ofNat n) (hbytes : s.bytesReceived = s.bytesExpected) :
    verdict cfg up s 0 = .complete s.bytesReceived := by
  have hne : (0 : UInt64) < UInt64.ofNat n := by
    rw [UInt64.lt_iff_toNat_lt, UInt64.toNat_ofNat_of_lt' hlt]
    exact hpos
  simp [verdict, rangesOk, bytesOk, hstub, htotal, hclean, hplanned, hbytes, hne]

end

/-- If every worker owns enough ports, every `connect` succeeds, no SYN times out and every server
sends one header block, the octets of the range and its FIN, then the workers report COMPLETE. -/
theorem good_run_complete (cfg : Config) (hp : cfg.plainHttp = true) (up : Startup)
    (hname : up.serverNameOk = true)
    (hports : ∀ k < up.nWorkers.toNat,
      cfg.connsPerWorker ≤ Rss.ownedCount cfg up.rss up.ourIp (UInt16.ofNat k))
    (hfit : up.nWorkers.toNat * cfg.connsPerWorker * cfg.blockSize.toNat < 2 ^ 64)
    (responses : ℕ → ℕ → Response)
    (hbody : ∀ k j, (responses k j).body.length = (planned cfg up k j).expected.toNat)
    (es : List (ℕ × Event))
    (hgood : Interleaving.LocalAlong (Thread.next cfg up) (Thread.GoodEvent responses) (spawn cfg up) es)
    (hstop : ∀ t ∈ (systemAfter cfg up es).parts, t.Stopped)
    (hmis : (systemAfter cfg up es).shared.misroutedDrops = 0) :
    (∀ s ∈ sessionsOf (systemAfter cfg up es),
      s.conn.closedCleanly = true ∧ s.conn.body.bytes = s.conn.expected.toNat) ∧
    ∃ totalB : UInt64, osvAppMain cfg up (systemAfter cfg up es) = some (.complete totalB) ∧
      totalB.toNat = up.nWorkers.toNat * cfg.connsPerWorker * cfg.blockSize.toNat := by
  have hn := length_systemAfter cfg up es
  have hall := good_systemAfter hp hname hgood
  generalize systemAfter cfg up es = sys at *
  have hthread : ∀ t ∈ sys.parts, ∃ k, t.Good cfg up responses k ∧ k < up.nWorkers.toNat := fun t ht => by
    obtain ⟨k, hk⟩ := List.mem_iff_getElem?.mp ht
    exact ⟨k, hall k t hk, hn ▸ (List.getElem?_eq_some_iff.mp hk).1⟩
  have hdone : ∀ t ∈ sys.parts, reported t = t.sessions ∧ t.sessions.length = cfg.connsPerWorker ∧
      ∀ s ∈ t.sessions, s.conn.closedCleanly = true ∧ s.conn.body.bytes = s.conn.expected.toNat := by
    intro t ht
    obtain ⟨k, hgood, hk⟩ := hthread t ht
    exact hgood.of_stopped (hstop t ht) (hports k hk) (hbody k)
  have hsessions : ∀ s ∈ sessionsOf sys,
      s.conn.closedCleanly = true ∧ s.conn.body.bytes = s.conn.expected.toNat := fun s hs => by
    obtain ⟨t, ht, hst⟩ := List.mem_flatMap.mp hs
    exact (hdone t ht).2.2 s hst
  have hreported : totals sys.parts = sumsOf (sessionsOf sys) := by
    rw [totals_eq fun t ht => (hthread t ht).elim fun _ hg => sums_eq hg.1.toAccounted]
    exact congrArg sumsOf (List.flatMap_congr fun t ht => (hdone t ht).1)
  have hlen : (sessionsOf sys).length = up.nWorkers.toNat * cfg.connsPerWorker :=
    length_sessionsOf hn fun t ht => (hdone t ht).2.1
  have hexpected : ∀ s ∈ sessionsOf sys, s.conn.expected = cfg.blockSize := fun s hs => by
    obtain ⟨t, ht, hst⟩ := List.mem_flatMap.mp hs
    exact (hthread t ht).elim fun _ hg => hg.1.assigned.expected hst
  have hblocks := sum_blocks hexpected
  rw [hlen] at hblocks
  have hbytes : (sumsOf (sessionsOf sys)).bytesReceived =
      UInt64.ofNat (up.nWorkers.toNat * cfg.connsPerWorker * cfg.blockSize.toNat) := by
    rw [← hblocks]
    exact congrArg (fun l => UInt64.ofNat (List.sum l)) (List.map_congr_left fun s hs => (hsessions s hs).2)
  refine ⟨hsessions, (sumsOf (sessionsOf sys)).bytesReceived, ?_, ?_⟩
  · have hcount : (sessionsOf sys).countP (fun s => s.conn.closedCleanly) = (sessionsOf sys).length :=
      List.countP_eq_length.mpr fun s hs => (hsessions s hs).1
    have hpos : 0 < up.nWorkers.toNat * cfg.connsPerWorker :=
      Nat.mul_pos (Nat.pos_of_ne_zero fun h => up.workers_ne (UInt16.toNat_inj.mp h)) cfg.conns_pos
    rw [osvAppMain, if_pos hstop, hmis, hreported]
    refine congrArg some (verdict_of_totals ?_ hpos (planned_lt cfg up) (congrArg UInt64.ofNat hlen) ?_ ?_ ?_)
    · simp [Config.stubTlsAfterHandshake, hp]
    · exact congrArg UInt64.ofNat (hcount.trans hlen)
    · exact (UInt64.ofNat_mul _ _).symm
    · rw [hbytes, ← hblocks]
      exact (sum_map_toNat _ _).symm
  · rw [hbytes, UInt64.toNat_ofNat_of_lt' hfit]

def oneOctet : Response where
  header := Http.bytesOf "HTTP/1.1 206 Partial Content\r\n\r\n"
  body := Http.bytesOf "X"
  header_ends := by decide +kernel

lemma pair_ports : ∀ k < pairStartup.nWorkers.toNat, (Config.small true).connsPerWorker ≤
    Rss.ownedCount (.small true) pairStartup.rss pairStartup.ourIp (UInt16.ofNat k) := by
  intro k hk
  rw [Rss.ownedCount_eq]
  apply List.countP_pos_iff.mpr
  have hk : k < 2 := hk
  interval_cases k
  · exact ⟨⟨0, by decide⟩, List.mem_finRange _, decide_eq_true pair_steering.1⟩
  · exact ⟨⟨1, by decide⟩, List.mem_finRange _, decide_eq_true pair_steering.2⟩

theorem good_run_complete_pair :
    ∃ totalB : UInt64, osvAppMain (.small true) pairStartup
      (systemAfter (.small true) pairStartup (pairRun oneOctet.stream oneOctet.stream)) =
        some (.complete totalB) ∧ totalB.toNat = 2 := by
  refine (good_run_complete (.small true) rfl pairStartup rfl pair_ports (by decide) (fun _ _ => oneOctet)
    (fun k j => ?_) _ ?_ ?_ ?_).2
  · rw [planned_expected]
    decide +kernel
  · rw [spawn_pair]
    decide +kernel
  · rw [systemAfter_pairRun]
    decide +kernel
  · rw [systemAfter_pairRun]
    decide +kernel

end SmoltcpS3.Worker
