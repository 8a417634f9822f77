import SmoltcpS3.Device.Receive

namespace SmoltcpS3.Device

open Lifetimes Rss

def tokenHandles (tokens : List RxToken) : List ℕ :=
  tokens.filterMap fun
    | .mbuf handle _ _ => some handle
    | .synth _ => none

@[simp] lemma tokenHandles_append (l m : List RxToken) :
    tokenHandles (l ++ m) = tokenHandles l ++ tokenHandles m := by
  simp [tokenHandles]

@[simp] lemma tokenHandles_mbuf (handle data len : ℕ) (l : List RxToken) :
    tokenHandles (.mbuf handle data len :: l) = handle :: tokenHandles l := rfl

@[simp] lemma tokenHandles_synth (buf : List UInt8) (l : List RxToken) :
    tokenHandles (.synth buf :: l) = tokenHandles l := rfl

@[simp] lemma tokenHandles_nil : tokenHandles [] = [] := rfl

def RxToken.Honest (q : RxQueue) : RxToken → Prop
  | .mbuf handle data len => data = handle ∧ len = (q.frames handle).data.length
  | .synth _ => True

structure RxPref.Slots (q : RxQueue) (a : RxPref) (pos : ℕ) (hs : List ℕ) : Prop where
  size : a.handles.length = rxBurst ∧ a.data.length = rxBurst ∧ a.lens.length = rxBurst
  bound : pos + hs.length ≤ rxBurst
  slot : ∀ k h, hs[k]? = some h → a.handles.getD (pos + k) 0 = h ∧ a.data.getD (pos + k) 0 = h ∧
    a.lens.getD (pos + k) 0 = (q.frames h).data.length

structure Receiver.Inv (q : RxQueue) (w : Receiver) (hs : List ℕ) : Prop where
  slots : w.rxPref.Slots q w.rxPrefPos hs
  len_eq : w.rxPrefLen = w.rxPrefPos + hs.length
  good : ∀ h ∈ hs, q.flags.rejects (q.frames h) = false
  honest : ∀ t ∈ w.tokens, t.Honest q
  fifo : takenIn w.log ++ w.ring = List.range w.arrived
  ledger : Ledger w.log (hs ++ tokenHandles w.tokens)
  order : (List.range w.arrived).filter q.passes = w.handed ++ (hs ++ w.ring).filter q.passes
  seen : ∀ p ∈ w.seen, p.2 = (q.frames p.1).data

variable {q : RxQueue}

lemma getD_set_self {l : List ℕ} {n : ℕ} (h : n < l.length) (x : ℕ) : (l.set n x).getD n 0 = x := by
  rw [List.getD_eq_getElem?_getD, List.getElem?_set_self h]
  rfl

lemma getD_set_ne {l : List ℕ} {n m : ℕ} (h : n ≠ m) (x : ℕ) : (l.set n x).getD m 0 = l.getD m 0 := by
  rw [List.getD_eq_getElem?_getD, List.getElem?_set_ne h, ← List.getD_eq_getElem?_getD]

lemma RxPref.Slots.put {a : RxPref} {kept : List ℕ} (s : a.Slots q 0 kept)
    (hb : kept.length < rxBurst) (m : ℕ) :
    (a.put kept.length m (q.frames m).data.length).Slots q 0 (kept ++ [m]) := by
  obtain ⟨hh, hd, hl⟩ := s.size
  refine ⟨?_, by simpa using! hb, fun k h hk => ?_⟩
  · simpa only [RxPref.put, List.length_set] using s.size
  · rcases lt_trichotomy k kept.length with hlt | rfl | hgt
    · rw [List.getElem?_append_left hlt] at hk
      simp only [RxPref.put, Nat.zero_add, getD_set_ne hlt.ne']
      simpa only [Nat.zero_add] using s.slot k h hk
    · obtain rfl : m = h := by simpa using hk
      simp only [RxPref.put, Nat.zero_add]
      exact ⟨getD_set_self (by omega) _, getD_set_self (by omega) _, getD_set_self (by omega) _⟩
    · rw [List.getElem?_eq_none (by simp; omega)] at hk
      cases hk

lemma foldl_shimKeep (rest kept : List ℕ) (w : Receiver) (s : w.rxPref.Slots q 0 kept)
    (hb : kept.length + rest.length ≤ rxBurst)
    (l : Ledger w.log (kept ++ rest ++ tokenHandles w.tokens)) :
    ∃ a log, rest.foldl (Receiver.shimKeep q) (w, kept.length) =
        ({ w with rxPref := a, log := w.log ++ log },
          (kept ++ rest.filter fun h => !q.flags.rejects (q.frames h)).length) ∧
      takenIn log = [] ∧ a.Slots q 0 (kept ++ rest.filter fun h => !q.flags.rejects (q.frames h)) ∧
      Ledger (w.log ++ log)
        (kept ++ rest.filter (fun h => !q.flags.rejects (q.frames h)) ++ tokenHandles w.tokens) := by
  induction rest generalizing kept w with
  | nil => exact ⟨w.rxPref, [], by simp, rfl, by simpa using s, by simpa using l⟩
  | cons m rest ih =>
    have hread : Ledger (w.log ++ [.read m]) (kept ++ m :: rest ++ tokenHandles w.tokens) :=
      l.read (by simp)
    rw [List.length_cons] at hb
    by_cases hr : q.flags.rejects (q.frames m) = true
    · have hfree : Ledger (w.log ++ [.read m] ++ [.freed m]) (kept ++ rest ++ tokenHandles w.tokens) := by
        rw [List.append_assoc, List.cons_append] at hread
        simpa using hread.free
      obtain ⟨a, log, he, ht, hs, hl⟩ := ih kept ((w.note (.read m)).note (.freed m)) s (by omega) hfree
      have hkeep : Receiver.shimKeep q (w, kept.length) m =
          ((w.note (.read m)).note (.freed m), kept.length) := if_pos hr
      refine ⟨a, [.read m] ++ [.freed m] ++ log, ?_, by simp [ht], by simpa [hr] using hs, ?_⟩
      · rw [List.foldl_cons, hkeep, he]
        simp [hr, Receiver.note]
      · simpa [hr, Receiver.note] using hl
    · have hr' : q.flags.rejects (q.frames m) = false := by simpa using hr
      have hkept : Ledger (w.log ++ [.read m]) (kept ++ [m] ++ rest ++ tokenHandles w.tokens) := by
        simpa using hread
      obtain ⟨a, log, he, ht, hs, hl⟩ := ih (kept ++ [m])
        { w.note (.read m) with rxPref := w.rxPref.put kept.length m (q.frames m).data.length }
        (s.put (by omega) m) (by simp; omega) hkept
      have hkeep : Receiver.shimKeep q (w, kept.length) m =
          ({ w.note (.read m) with rxPref := w.rxPref.put kept.length m (q.frames m).data.length },
            (kept ++ [m]).length) := by
        simp [Receiver.shimKeep, hr', Receiver.note]
      refine ⟨a, [.read m] ++ log, ?_, by simp [ht], by simpa [hr'] using hs, ?_⟩
      · rw [List.foldl_cons, hkeep, he]
        simp [hr', Receiver.note]
      · simpa [hr', Receiver.note] using hl

lemma filter_passes_filter (l : List ℕ) :
    (l.filter fun h => !q.flags.rejects (q.frames h)).filter q.passes = l.filter q.passes := by
  rw [List.filter_filter]
  apply List.filter_congr
  intro h _
  rw [RxQueue.passes]
  cases q.flags.rejects (q.frames h) <;> simp

namespace Receiver

lemma Inv.refill {w : Receiver} (i : w.Inv q []) (choice : ℕ) :
    ∃ w' hs, w.shimMbufRxBurstN q choice rxBurst = (w', hs.length) ∧
      ({ w' with rxPrefPos := 0, rxPrefLen := hs.length } : Receiver).Inv q hs ∧
      (hs = [] → w'.Inv q []) ∧ w'.ring.length + hs.length ≤ w.ring.length := by
  obtain ⟨m, hm⟩ : ∃ m, m = min choice (min rxBurst 32) := ⟨_, rfl⟩
  have hmax : m ≤ rxBurst := by simp [hm, rxBurst]
  set bufs := w.ring.take m with hbufs
  set hs := bufs.filter (fun h => !q.flags.rejects (q.frames h)) with hhs
  set w₁ : Receiver := { w with ring := w.ring.drop m, log := w.log ++ bufs.map .taken } with hw₁
  have hnodup : (takenIn w.log ++ bufs).Nodup := by
    have h : (takenIn w.log ++ w.ring).Nodup := i.fifo ▸ List.nodup_range
    exact h.sublist ((List.take_sublist m w.ring).append_left _)
  have hl : Ledger w₁.log ([] ++ bufs ++ tokenHandles w₁.tokens) := by
    have h := i.ledger.takeAll hnodup
    exact h.of_perm (by simpa using List.perm_append_comm)
  have hsize : w₁.rxPref.Slots q 0 [] := ⟨i.slots.size, by simp, fun k h hk => by simp at hk⟩
  have hlen : ([] : List ℕ).length + bufs.length ≤ rxBurst := by
    simp only [hbufs, List.length_nil, List.length_take]
    omega
  obtain ⟨a, log, he, ht, hslots, hledger⟩ := foldl_shimKeep bufs [] w₁ hsize hlen hl
  rw [List.nil_append, ← hhs] at he hslots hledger
  have hburst : w.shimMbufRxBurstN q choice rxBurst = bufs.foldl (shimKeep q) (w₁, 0) := by
    rw [hw₁, hbufs, hm]
    rfl
  have hfifo : takenIn (w₁.log ++ log) ++ w₁.ring = List.range w.arrived := by
    rw [takenIn_append, ht, List.append_nil, ← i.fifo]
    simp only [hw₁, takenIn_append, takenIn_map_taken, List.append_assoc, hbufs, List.take_append_drop]
  have horder : (List.range w.arrived).filter q.passes =
      w.handed ++ (hs ++ w₁.ring).filter q.passes := by
    rw [i.order, List.nil_append, List.filter_append, hhs, filter_passes_filter, ← List.filter_append,
      hbufs, List.take_append_drop]
  have hgood : ∀ h ∈ hs, q.flags.rejects (q.frames h) = false := by
    intro h hh
    simpa using (List.mem_filter.mp hh).2
  refine ⟨{ w₁ with rxPref := a, log := w₁.log ++ log }, hs, ?_, ?_, ?_, ?_⟩
  · rw [hburst]
    exact he
  · exact ⟨hslots, (Nat.zero_add _).symm, hgood, i.honest, hfifo, hledger, horder, i.seen⟩
  · intro hnil
    rw [hnil] at hledger horder hslots
    exact ⟨⟨hslots.size, i.slots.bound, fun k h hk => by simp at hk⟩, i.len_eq, by simp, i.honest, hfifo,
      hledger, horder, i.seen⟩
  · have h₁ : hs.length ≤ bufs.length := List.length_filter_le _ _
    have h₂ : bufs.length ≤ w.ring.length := by simp [hbufs]
    simp only [hw₁, List.length_drop, hbufs, List.length_take] at h₁ h₂ ⊢
    omega

lemma Inv.offer {w : Receiver} {h : ℕ} {hs : List ℕ} (i : w.Inv q (h :: hs)) :
    (w.offer q).1.Inv q hs ∧ (w.offer q).1.ring = w.ring := by
  obtain ⟨hh, hd, hl⟩ := i.slots.slot 0 h rfl
  rw [Nat.add_zero] at hh hd hl
  have hbound := i.slots.bound
  rw [List.length_cons] at hbound
  have hslots : w.rxPref.Slots q (w.rxPrefPos + 1) hs := by
    refine ⟨i.slots.size, by omega, fun k h' hk => ?_⟩
    have := i.slots.slot (k + 1) h' (by simpa using hk)
    rwa [Nat.add_assoc, Nat.add_comm 1]
  have hlen : w.rxPrefLen = w.rxPrefPos + 1 + hs.length := by
    rw [i.len_eq, List.length_cons]
    omega
  have hgood : ∀ h' ∈ hs, q.flags.rejects (q.frames h') = false :=
    fun h' hm => i.good h' (List.mem_cons_of_mem _ hm)
  have hread : Ledger (w.log ++ [.read h]) (h :: hs ++ tokenHandles w.tokens) :=
    i.ledger.read (by simp)
  have hpass : q.passes h = (portFilter q.ownedPorts (q.frames h).data != some false) := by
    rw [RxQueue.passes, i.good h (by simp)]
    simp
  have horder := i.order
  rw [List.cons_append] at horder
  rw [Receiver.offer]
  simp only [hh, hd, hl, List.take_length, note]
  split_ifs with hf
  · rw [List.filter_cons_of_neg (by simp [hpass, hf])] at horder
    have hfree : Ledger (w.log ++ [.read h] ++ [.freed h]) ([] ++ (hs ++ tokenHandles w.tokens)) :=
      hread.free
    exact ⟨⟨hslots, hlen, hgood, i.honest, by simpa using i.fifo, hfree, horder, i.seen⟩, rfl⟩
  · rw [List.filter_cons_of_pos (by simp [hpass, hf])] at horder
    refine ⟨⟨hslots, hlen, hgood, ?_, by simpa using i.fifo, ?_, by simpa using horder, i.seen⟩, rfl⟩
    · intro t ht
      rcases List.mem_append.mp ht with ht | ht
      · exact i.honest t ht
      · rw [List.mem_singleton.mp ht]
        exact ⟨rfl, rfl⟩
    · rw [tokenHandles_append, tokenHandles_mbuf, ← List.append_assoc]
      exact hread.of_perm (List.perm_append_comm : ([h] ++ _).Perm _)

end Receiver

end SmoltcpS3.Device
