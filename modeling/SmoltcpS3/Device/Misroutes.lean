import Mathlib.Tactic.IntervalCases
import SmoltcpS3.Device.Ownership
import SmoltcpS3.Foundations.Interleaving

namespace SmoltcpS3.Device

open Lifetimes Rss EventRuns Interleaving

section Frames

def tupleOf (bytes : List UInt8) : Vector UInt8 12 :=
  let l4 := l4Offset (bytes.getD 14 0)
  #v[bytes.getD 26 0, bytes.getD 27 0, bytes.getD 28 0, bytes.getD 29 0,
    bytes.getD 30 0, bytes.getD 31 0, bytes.getD 32 0, bytes.getD 33 0,
    bytes.getD l4 0, bytes.getD (l4 + 1) 0, bytes.getD (l4 + 2) 0, bytes.getD (l4 + 3) 0]

structure IsTcp (bytes : List UInt8) : Prop where
  ethertype : bytes.getD 12 0 = 0x08 ∧ bytes.getD 13 0 = 0x00
  version : bytes.getD 14 0 >>> 4 = 4
  ihl : 5 ≤ bytes.getD 14 0 &&& 0x0f
  unfragmented : bytes.getD 20 0 &&& 0x3f = 0 ∧ bytes.getD 21 0 = 0
  proto : bytes.getD 23 0 = 6
  fits : l4Offset (bytes.getD 14 0) + 20 ≤ bytes.length

variable (cfg : Config) (rss : RssConfig) (ourIp : Ipv4Address)

/-- The queue that the frame arrives on is the one that its destination port is owned by. A TCP
packet is steered by its own tuple, anything else that the filter takes for one arrives anywhere. -/
def Harmless (queueId : UInt16) (bytes : List UInt8) : Prop :=
  54 ≤ bytes.length → ∀ port, frameDstPort bytes = some port → ephBase ≤ port →
    (IsTcp bytes → predictQueue rss (tupleOf bytes) = queueForLocalPort cfg rss ourIp port) ∧
      (¬ IsTcp bytes → queueId = queueForLocalPort cfg rss ourIp port)

variable {cfg rss ourIp}

lemma portFilter_of_harmless {queueId : UInt16} {bytes : List UInt8}
    (hsteer : IsTcp bytes → predictQueue rss (tupleOf bytes) = queueId)
    (h : Harmless cfg rss ourIp queueId bytes) :
    portFilter (some (ownedBitmap cfg rss ourIp queueId)) bytes = some true := by
  rw [portFilter_eq]
  by_cases hshort : bytes.length < 54
  · simp [hshort]
  cases hport : frameDstPort bytes with
  | none => simp
  | some port =>
    by_cases hlt : port < ephBase
    · simp [ownsPort, hlt]
    · have hle : ephBase ≤ port := UInt16.not_lt.mp hlt
      obtain ⟨htcp, hother⟩ := h (not_lt.mp hshort) port hport hle
      have hq : queueForLocalPort cfg rss ourIp port = queueId := by
        by_cases hp : IsTcp bytes
        · exact (htcp hp).symm.trans (hsteer hp)
        · exact (hother hp).symm
      simp [(ownsPort_ownedBitmap queueId hle).mpr hq]

lemma portFilter_of_foreign {queueId port : UInt16} {bytes : List UInt8} (hlen : 54 ≤ bytes.length)
    (hport : frameDstPort bytes = some port) (hle : ephBase ≤ port)
    (hq : queueForLocalPort cfg rss ourIp port ≠ queueId) :
    portFilter (some (ownedBitmap cfg rss ourIp queueId)) bytes = some false := by
  have hown : ownsPort (ownedBitmap cfg rss ourIp queueId) port = false := by
    rw [Bool.eq_false_iff]
    exact fun h => hq ((ownsPort_ownedBitmap queueId hle).mp h)
  rw [portFilter_eq, hport]
  simp [hown, hlen]

end Frames

section Counter

variable {q : RxQueue}

namespace Receiver.Inv

lemma lt_arrived {w : Receiver} {hs : List ℕ} (i : w.Inv q hs) {h : ℕ} (hh : h ∈ hs) : h < w.arrived := by
  have htaken : h ∈ takenIn w.log := i.ledger.perm.subset (by simp [hh])
  rw [← List.mem_range, ← i.fifo]
  exact List.mem_append_left _ htaken

lemma offer_misroutedDrops {w : Receiver} {h : ℕ} {hs : List ℕ} (i : w.Inv q (h :: hs))
    (hpass : portFilter q.ownedPorts (q.frames h).data ≠ some false) :
    (w.offer q).1.misroutedDrops = w.misroutedDrops := by
  obtain ⟨hh, hd, hl⟩ := i.slots.slot 0 h rfl
  rw [Nat.add_zero] at hh hd hl
  simp only [Receiver.offer, hh, hd, hl, List.take_length, if_neg hpass]
  rfl

lemma receive_misroutedDrops {w : Receiver} {hs : List ℕ} (i : w.Inv q hs)
    (hall : ∀ h < w.arrived, q.flags.rejects (q.frames h) = false →
      portFilter q.ownedPorts (q.frames h).data ≠ some false) (bursts : List ℕ) :
    (w.receive q bursts).1.misroutedDrops = w.misroutedDrops := by
  rw [Receiver.receive]
  cases w.pendingSynth with
  | some buf => rfl
  | none =>
    have hburst : ∀ (w' : Receiver) choice, w'.arrived = w.arrived ∧ w'.misroutedDrops = w.misroutedDrops →
        (w'.shimMbufRxBurstN q choice rxBurst).1.arrived = w.arrived ∧
          (w'.shimMbufRxBurstN q choice rxBurst).1.misroutedDrops = w.misroutedDrops := by
      rintro w' choice ⟨harrived, hdrops⟩
      obtain ⟨_, _, harrived', hdrops', _⟩ := w'.shimMbufRxBurstN_frame (q := q) choice rxBurst
      exact ⟨harrived'.trans harrived, hdrops'.trans hdrops⟩
    have hoffer : ∀ (w' : Receiver) h hs', w'.Inv q (h :: hs') →
        w'.arrived = w.arrived ∧ w'.misroutedDrops = w.misroutedDrops →
        (w'.offer q).1.arrived = w.arrived ∧ (w'.offer q).1.misroutedDrops = w.misroutedDrops := by
      rintro w' h hs' i' ⟨harrived, hdrops⟩
      have hlt : h < w.arrived := harrived ▸ i'.lt_arrived List.mem_cons_self
      refine ⟨?_, (i'.offer_misroutedDrops (hall h hlt (i'.good h List.mem_cons_self))).trans hdrops⟩
      rw [Receiver.offer]
      dsimp only
      split_ifs <;> exact harrived
    obtain ⟨_, _, ⟨_, hdrops⟩, _⟩ := i.receiveLoop_rule
      (J := fun w' => w'.arrived = w.arrived ∧ w'.misroutedDrops = w.misroutedDrops)
      hburst (fun _ _ _ h => h) hoffer ⟨rfl, rfl⟩ i.receive_fuel
    exact hdrops

lemma next_misroutedDrops {w : Receiver} (i : ∃ hs, w.Inv q hs)
    (hall : ∀ h < w.arrived, q.flags.rejects (q.frames h) = false →
      portFilter q.ownedPorts (q.frames h).data ≠ some false) (e : Event) :
    (w.next q e).misroutedDrops = w.misroutedDrops := by
  obtain ⟨hs, i⟩ := i
  have hrelease : ∀ (n : ℕ) (f : RxToken → Receiver → Receiver),
      (∀ token w, (f token w).misroutedDrops = w.misroutedDrops) →
        (w.release n f).misroutedDrops = w.misroutedDrops := by
    intro n f hf
    rw [Receiver.release]
    split
    · exact hf _ _
    · rfl
  cases e with
  | arrive => rfl
  | receive bursts => exact i.receive_misroutedDrops hall bursts
  | consume n => exact hrelease n _ fun token w => by cases token <;> rfl
  | drop n => exact hrelease n _ fun token w => by cases token <;> rfl

lemma next_arrived {w : Receiver} (i : ∃ hs, w.Inv q hs) (e : Event) :
    (w.next q e).arrived = w.arrived + if e = .arrive then 1 else 0 := by
  obtain ⟨hs, i⟩ := i
  have hrelease : ∀ (n : ℕ) (f : RxToken → Receiver → Receiver),
      (∀ token w, (f token w).arrived = w.arrived) → (w.release n f).arrived = w.arrived := by
    intro n f hf
    rw [Receiver.release]
    split
    · exact hf _ _
    · rfl
  cases e with
  | arrive => rfl
  | receive bursts =>
    obtain ⟨_, _, harrived, _⟩ := i.receive bursts
    exact harrived
  | consume n => exact hrelease n _ fun token w => by cases token <;> rfl
  | drop n => exact hrelease n _ fun token w => by cases token <;> rfl

end Receiver.Inv

end Counter

section Port

variable (cfg : Config) (rss : RssConfig) (ourIp : Ipv4Address) (flags : CksumFlags)
  (arrivals : ℕ → ℕ → Mbuf)

def workerQueue (k : ℕ) : RxQueue where
  flags := flags
  frames := arrivals k
  ownedPorts := some (ownedBitmap cfg rss ourIp (UInt16.ofNat k))

def portNext (p : RxQueue × Receiver) (drops : ℕ) (e : Event) : (RxQueue × Receiver) × ℕ :=
  let w := p.2.next p.1 e
  ((p.1, w), drops + (w.misroutedDrops - p.2.misroutedDrops))

/-- The `n` receive queues of the port and `MISROUTED_DROPS` after the events `es`, each of which is
tagged with its queue. The `m`-th frame that the NIC delivers to queue `k` is `arrivals k m`. -/
def portAfter (n : ℕ) (synth : Option (List UInt8)) (es : List (ℕ × Event)) :
    System (RxQueue × Receiver) ℕ :=
  run (step portNext)
    ⟨(List.range n).map fun k => (workerQueue cfg rss ourIp flags arrivals k, .initial synth), 0⟩ es

def SteeredAsPredicted (n : ℕ) : Prop :=
  ∀ k < n, ∀ m, IsTcp (arrivals k m).data →
    predictQueue rss (tupleOf (arrivals k m).data) = UInt16.ofNat k

def Serving (n k : ℕ) (p : RxQueue × Receiver) : Prop :=
  p.1 = workerQueue cfg rss ourIp flags arrivals k ∧ k < n ∧ ∃ hs, p.2.Inv p.1 hs

variable {cfg rss ourIp flags arrivals} {n : ℕ}

lemma serving_initial (synth : Option (List UInt8)) :
    Each (Serving cfg rss ourIp flags arrivals n) (γ := ℕ)
      ⟨(List.range n).map fun k => (workerQueue cfg rss ourIp flags arrivals k, .initial synth), 0⟩ := by
  intro k p hp
  rw [List.getElem?_map] at hp
  obtain ⟨k', hk', rfl⟩ := Option.map_eq_some_iff.mp hp
  obtain ⟨hlt, rfl⟩ := List.getElem?_eq_some_iff.mp hk'
  rw [List.getElem_range]
  exact ⟨rfl, by simpa using hlt, [], Receiver.Inv.initial synth⟩

lemma Serving.next {k : ℕ} {p : RxQueue × Receiver} (h : Serving cfg rss ourIp flags arrivals n k p)
    (drops : ℕ) (e : Event) : Serving cfg rss ourIp flags arrivals n k (portNext p drops e).1 :=
  ⟨h.1, h.2.1, Receiver.Inv.next h.2.2 e⟩

lemma shared_run {total : ℕ → ℕ}
    (hpass : ∀ k < n, ∀ h < total k, flags.rejects (arrivals k h) = false →
      portFilter (some (ownedBitmap cfg rss ourIp (UInt16.ofNat k))) (arrivals k h).data ≠ some false)
    (es : List (ℕ × Event)) {s : System (RxQueue × Receiver) ℕ}
    (hs : Each (fun k p => Serving cfg rss ourIp flags arrivals n k p ∧
      p.2.arrived + es.count (k, .arrive) ≤ total k) s) (hzero : s.shared = 0) :
    (run (step portNext) s es).shared = 0 := by
  induction es generalizing s with
  | nil => exact hzero
  | cons e es ih =>
    rw [run_cons, step]
    cases hp : s.parts[e.1]? with
    | none =>
      refine ih (fun k p hk => ?_) hzero
      obtain ⟨hserving, hle⟩ := hs k p hk
      exact ⟨hserving, le_trans (Nat.add_le_add_left List.count_le_count_cons _) hle⟩
    | some p =>
      obtain ⟨hserving, hle⟩ := hs e.1 p hp
      have hnext := hserving.next s.shared e.2
      obtain ⟨hq, hlt, i⟩ := hserving
      have hall : ∀ h < p.2.arrived, p.1.flags.rejects (p.1.frames h) = false →
          portFilter p.1.ownedPorts (p.1.frames h).data ≠ some false := by
        intro h hh hr
        rw [hq] at hr ⊢
        exact hpass e.1 hlt h (by omega) hr
      refine ih (fun k p' hk => ?_) ?_
      · rcases ListUpdates.getElem?_set_cases hp hk with ⟨rfl, rfl⟩ | ⟨_, hk⟩
        · refine ⟨hnext, ?_⟩
          have harrived := Receiver.Inv.next_arrived i e.2
          rw [List.count_cons] at hle
          by_cases he : e.2 = .arrive
          · rw [if_pos he] at harrived
            have harrive : (e == (e.1, Event.arrive)) = true := beq_iff_eq.mpr (Prod.ext rfl he)
            rw [if_pos harrive] at hle
            change (p.2.next p.1 e.2).arrived + _ ≤ _
            omega
          · rw [if_neg he] at harrived
            change (p.2.next p.1 e.2).arrived + _ ≤ _
            omega
        · obtain ⟨hserving', hle'⟩ := hs k p' hk
          exact ⟨hserving', le_trans (Nat.add_le_add_left List.count_le_count_cons _) hle'⟩
      · have hdrops := Receiver.Inv.next_misroutedDrops i hall e.2
        change s.shared + ((p.2.next p.1 e.2).misroutedDrops - p.2.misroutedDrops) = 0
        rw [hdrops, hzero, Nat.sub_self]

theorem misroutedDrops_eq_zero {n : ℕ} (hsteer : SteeredAsPredicted rss arrivals n)
    (synth : Option (List UInt8)) (es : List (ℕ × Event))
    (hharmless : ∀ k < n, ∀ m < es.count (k, .arrive), flags.rejects (arrivals k m) = false →
      Harmless cfg rss ourIp (UInt16.ofNat k) (arrivals k m).data) :
    (portAfter cfg rss ourIp flags arrivals n synth es).shared = 0 := by
  have hpass : ∀ k < n, ∀ h < es.count (k, .arrive), flags.rejects (arrivals k h) = false →
      portFilter (some (ownedBitmap cfg rss ourIp (UInt16.ofNat k))) (arrivals k h).data ≠ some false := by
    intro k hk h hh hr
    have htrue := portFilter_of_harmless (hsteer k hk h) (hharmless k hk h hh hr)
    simp [htrue]
  refine shared_run hpass es (fun k p hk => ?_) rfl
  have hserving : Serving cfg rss ourIp flags arrivals n k p := serving_initial synth k p hk
  rw [List.getElem?_map] at hk
  obtain ⟨_, _, rfl⟩ := Option.map_eq_some_iff.mp hk
  exact ⟨hserving, (Nat.zero_add _).le⟩

end Port

section Scan

def rssKey : List UInt8 :=
  [0x6d, 0x5a, 0x56, 0xda, 0x25, 0x5b, 0x0e, 0xc2, 0x41, 0x67, 0x25, 0x3d, 0x43, 0xa3, 0x8f, 0xb0,
    0xd0, 0xca, 0x2b, 0xcb, 0xae, 0x7b, 0x30, 0xb4, 0x77, 0xcb, 0x2d, 0xa3, 0x80, 0x30, 0xf2, 0x0c,
    0x6a, 0x42, 0xb7, 0x3b, 0xbe, 0xac, 0x01, 0xfa]

def steering : RssConfig := ⟨false, rssKey, [0, 1]⟩

def ownIp : Ipv4Address := ⟨10, 0, 0, 7⟩

def cksumFlags : CksumFlags := ⟨0x90, 0x10, 0x108, 0x8⟩

def segmentFrom (src : Ipv4Address) (srcPort : UInt16) (tcpFlags : UInt8) : Mbuf where
  olFlags := 0x180
  data :=
    let ethernet : List UInt8 := [2, 0, 0, 0, 0, 7, 2, 0, 0, 0, 0, 1, 0x08, 0x00]
    let ip : List UInt8 := [0x45, 0, 0, 40, 0, 0, 0x40, 0, 64, 6, 0, 0] ++ src.octets ++ ownIp.octets
    let ports : List UInt8 := [(srcPort >>> 8).toUInt8, srcPort.toUInt8, 0xc3, 0x50]
    let tcp : List UInt8 := [0, 0, 0, 0, 0, 0, 0, 0, 0x50, tcpFlags, 0xff, 0xff, 0, 0, 0, 0]
    ethernet ++ ip ++ ports ++ tcp

def reply : Mbuf := segmentFrom ⟨3, 5, 216, 240⟩ 443 0x12

def scan : Mbuf := segmentFrom ⟨198, 51, 100, 9⟩ 40000 0x02

def runt : Mbuf := ⟨0x180, []⟩

def replies (k _m : ℕ) : Mbuf := if k = 0 then reply else runt

def scans (k _m : ℕ) : Mbuf := if k = 1 then scan else runt

lemma not_isTcp_runt : ¬ IsTcp runt.data := fun h => absurd h.fits (by decide)

lemma isTcp_reply : IsTcp reply.data :=
  ⟨by decide, by decide, by decide, by decide, by decide, by decide⟩

lemma steered_replies : SteeredAsPredicted steering replies 2 := by
  have hreply : predictQueue steering (tupleOf reply.data) = 0 := by decide +kernel
  intro k hk m
  interval_cases k
  · exact fun _ => hreply
  · exact fun h => absurd h not_isTcp_runt

lemma steered_scans : SteeredAsPredicted steering scans 2 := by
  have hscan : predictQueue steering (tupleOf scan.data) = 1 := by decide +kernel
  intro k hk m
  interval_cases k
  · exact fun h => absurd h not_isTcp_runt
  · exact fun _ => hscan

theorem misroutedDrops_of_replies :
    SteeredAsPredicted steering replies 2 ∧
      (portAfter (.small false) steering ownIp cksumFlags replies 2 none
        [(0, .arrive), (0, .receive [1])]).shared = 0 := by
  have hport : frameDstPort reply.data = some 50000 := by decide +kernel
  have hqueue : predictQueue steering (tupleOf reply.data) =
      queueForLocalPort (.small false) steering ownIp 50000 := by decide +kernel
  refine ⟨steered_replies, misroutedDrops_eq_zero steered_replies none _ ?_⟩
  intro k hk m _ _ _ port hp _
  interval_cases k
  · obtain rfl : 50000 = port := Option.some.inj (hport.symm.trans hp)
    exact ⟨fun _ => hqueue, fun hno => absurd isTcp_reply hno⟩
  · cases hp

lemma Receiver.misroutedDrops_of_filtered {q : RxQueue} (hr : q.flags.rejects (q.frames 0) = false)
    (hf : portFilter q.ownedPorts (q.frames 0).data = some false) :
    (((initial none).next q .arrive).next q (.receive [1])).misroutedDrops = 1 := by
  simp [next, receive, receiveLoop, shimMbufRxBurstN, rteEthRxBurst, shimKeep, offer, note, initial,
    RxPref.put, rxBurst, hr, hf]

lemma shared_portAfter_of_filtered {cfg : Config} {rss : RssConfig} {ourIp : Ipv4Address}
    {flags : CksumFlags} {arrivals : ℕ → ℕ → Mbuf} (hr : flags.rejects (arrivals 1 0) = false)
    (hf : portFilter (some (ownedBitmap cfg rss ourIp 1)) (arrivals 1 0).data = some false) :
    (portAfter cfg rss ourIp flags arrivals 2 none [(1, .arrive), (1, .receive [1])]).shared = 1 := by
  have hdrop := Receiver.misroutedDrops_of_filtered
    (q := workerQueue cfg rss ourIp flags arrivals 1) hr hf
  have hzero : ((Receiver.initial none).next
      (workerQueue cfg rss ourIp flags arrivals 1) .arrive).misroutedDrops = 0 := rfl
  have hinit : (Receiver.initial none).misroutedDrops = 0 := rfl
  simp [portAfter, run, step, portNext, List.range_succ, hdrop, hzero, hinit]

theorem misroutedDrops_of_scan :
    SteeredAsPredicted steering scans 2 ∧
      (portAfter (.small false) steering ownIp cksumFlags scans 2 none
        [(1, .arrive), (1, .receive [1])]).shared = 1 := by
  have hport : frameDstPort (scans 1 0).data = some 50000 := by decide +kernel
  have hqueue : queueForLocalPort (.small false) steering ownIp 50000 ≠ 1 := by decide +kernel
  have hfilter := portFilter_of_foreign (by decide) hport (by decide) hqueue
  exact ⟨steered_scans, shared_portAfter_of_filtered (by decide) hfilter⟩

end Scan

end SmoltcpS3.Device
