import SmoltcpS3.Device.Ownership

/-! The agreement of all users of port ownership: the bitmap, the selected source ports and the
receive filter. -/

namespace SmoltcpS3.Device

open Lifetimes Rss

def Drops (q : RxQueue) (w w' : Receiver) : Prop :=
  ∃ log, w'.log = w.log ++ log ∧
    (∀ h ∈ freedIn log, q.flags.rejects (q.frames h) = true ∨
      portFilter q.ownedPorts (q.frames h).data = some false) ∧
    w'.misroutedDrops = w.misroutedDrops +
      ((freedIn log).filter fun h => !q.flags.rejects (q.frames h)).length

section Drops

variable {q : RxQueue} {w w' : Receiver}

lemma Drops.refl (w : Receiver) : Drops q w w := ⟨[], by simp, by simp, by simp⟩

lemma Drops.burst (h : Drops q w w') (choice max : ℕ) : Drops q w (w'.shimMbufRxBurstN q choice max).1 := by
  obtain ⟨log, hlog, hfreed, hcount⟩ := h
  obtain ⟨_, _, _, hdrops, log', hlog', hfreed'⟩ := w'.shimMbufRxBurstN_frame (q := q) choice max
  have hnone : (freedIn log').filter (fun h => !q.flags.rejects (q.frames h)) = [] := by
    rw [List.filter_eq_nil_iff]
    intro h hh
    simp [hfreed' h hh]
  refine ⟨log ++ log', by rw [hlog', hlog, List.append_assoc], fun h hh => ?_, ?_⟩
  · rw [freedIn_append] at hh
    exact (List.mem_append.mp hh).elim (hfreed h) fun hh => .inl (hfreed' h hh)
  · rw [hdrops, hcount, freedIn_append, List.filter_append, hnone, List.append_nil]

lemma Drops.offer (h : Drops q w w') {m : ℕ} {hs : List ℕ} (i : w'.Inv q (m :: hs)) :
    Drops q w (w'.offer q).1 := by
  obtain ⟨log, hlog, hfreed, hcount⟩ := h
  obtain ⟨hh, hd, hl⟩ := i.slots.slot 0 m rfl
  rw [Nat.add_zero] at hh hd hl
  have hgood : q.flags.rejects (q.frames m) = false := i.good m List.mem_cons_self
  simp only [Receiver.offer, hh, hd, hl, List.take_length]
  split_ifs with hf
  · refine ⟨log ++ [.read m, .freed m], by simp [Receiver.note, hlog], fun h hm => ?_, ?_⟩
    · rw [freedIn_append] at hm
      rcases List.mem_append.mp hm with hm | hm
      · exact hfreed h hm
      · obtain rfl : h = m := by simpa using hm
        exact .inr hf
    · simp only [Receiver.note, hcount, freedIn_append, freedIn_cons_read, freedIn_cons_freed, freedIn_nil,
        List.filter_append, List.filter_cons, hgood, Bool.not_false, if_true, List.filter_nil, List.length_append,
        List.length_singleton, Nat.add_assoc]
  · exact ⟨log ++ [.read m], by simp [Receiver.note, hlog], by simpa using hfreed, by simpa [Receiver.note] using hcount⟩

lemma Receiver.Inv.drops {hs : List ℕ} (i : w.Inv q hs) (bursts : List ℕ) : Drops q w (w.receive q bursts).1 := by
  rw [Receiver.receive]
  cases w.pendingSynth with
  | some buf => exact ⟨[], by simp, by simp, by simp⟩
  | none =>
    obtain ⟨_, _, hdrops, _⟩ := i.receiveLoop_rule (J := Drops q w)
      (fun _ choice h => h.burst choice rxBurst) (fun _ _ _ h => h) (fun _ _ _ i' h => h.offer i')
      (Drops.refl w) i.receive_fuel
    exact hdrops

end Drops

variable (cfg : Config) (rss : RssConfig) (ourIp : Ipv4Address)

/-- The bitmaps partition the ephemeral ports by predicted queue, the selected source ports
respect that, and the receive filter passes every frame for one of them. -/
theorem port_ownership_agrees :
    (∀ q p : UInt16, ephBase ≤ p →
      (ownsPort (ownedBitmap cfg rss ourIp q) p = true ↔ queueForLocalPort cfg rss ourIp p = q)) ∧
    (∀ q : UInt16, ownedCount cfg rss ourIp q =
      ((Finset.Ico 49152 65536).filter fun p =>
        queueForLocalPort cfg rss ourIp (UInt16.ofNat p) = q).card) ∧
    (∀ q q' p : UInt16, q ≠ q' → ephBase ≤ p →
      ¬ (ownsPort (ownedBitmap cfg rss ourIp q) p = true ∧
        ownsPort (ownedBitmap cfg rss ourIp q') p = true)) ∧
    (∀ n ≤ 65536, rss.singleQueue = false → rss.Loaded → (∀ q ∈ rss.reta, q.toNat < n) →
      ∑ q ∈ Finset.range n, ownedCount cfg rss ourIp (UInt16.ofNat q) = 16384) ∧
    (rss.singleQueue = true → ownedCount cfg rss ourIp 0 = 16384 ∧
      ∀ p, ownsPort (ownedBitmap cfg rss ourIp 0) p = true) ∧
    (∀ q q', q ≠ q' → (myPorts cfg rss ourIp q).Disjoint (myPorts cfg rss ourIp q')) ∧
    (∀ q frame, portFilter (some (ownedBitmap cfg rss ourIp q)) frame ≠ none) ∧
    (∀ q (rx : RxQueue) synth es bursts, rx.ownedPorts = some (ownedBitmap cfg rss ourIp q) →
      let w := receiverAfter rx synth es
      let w' := (w.receive rx bursts).1
      Receives rx w (w.receive rx bursts) ∧ ∃ log, w'.log = w.log ++ log ∧
        (∀ h ∈ freedIn log, rx.flags.rejects (rx.frames h) = true ∨
          ∀ p ∈ myPorts cfg rss ourIp q, frameDstPort (rx.frames h).data ≠ some p) ∧
        w'.misroutedDrops = w.misroutedDrops +
          ((freedIn log).filter fun h => !rx.flags.rejects (rx.frames h)).length) := by
  refine ⟨fun q p => ownsPort_ownedBitmap q, ownedCount_eq_card, ?_, ?_, ?_,
    fun q q' => disjoint_myPorts, fun q frame => by simp [portFilter_eq],
    fun q rx synth es bursts ho => ?_⟩
  · rintro q q' p hne hle ⟨hq, hq'⟩
    exact hne (((ownsPort_ownedBitmap q hle).mp hq).symm.trans ((ownsPort_ownedBitmap q' hle).mp hq'))
  · intro n hn hs hload hreta
    obtain ⟨hk, e, he⟩ := hload.resolve_left (by simp [hs])
    exact sum_ownedCount cfg rss ourIp hn fun port => hreta _ (predictQueue_mem hs hk he _)
  · intro hs
    have hq : ∀ port, queueForLocalPort cfg rss ourIp port = 0 :=
      fun port => predictQueue_of_single hs _
    constructor
    · have h := sum_ownedCount (n := 1) cfg rss ourIp (by decide) (by simp [hq])
      rwa [Finset.sum_range_one] at h
    · intro p
      by_cases hp : p < ephBase
      · simp [ownsPort, hp]
      · exact (ownsPort_ownedBitmap 0 (UInt16.not_lt.mp hp)).mpr (hq p)
  · obtain ⟨hs, i⟩ := inv_receiverAfter rx synth es
    obtain ⟨log, hlog, hfreed, hcount⟩ := i.drops bursts
    refine ⟨i.receives bursts, log, hlog, fun h hh => (hfreed h hh).imp_right fun hf p hp hport => ?_, hcount⟩
    rw [ho, portFilter_myPorts hp hport, Option.some.injEq] at hf
    exact absurd hf Bool.noConfusion

end SmoltcpS3.Device
