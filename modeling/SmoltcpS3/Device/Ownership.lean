import SmoltcpS3.Device.Prefetch

namespace SmoltcpS3.Device

open Lifetimes Rss EventRuns

variable {q : RxQueue}

namespace Receiver

lemma foldl_shimKeep_frame (bufs : List ℕ) (st : Receiver × ℕ) :
    let st' := bufs.foldl (shimKeep q) st
    st'.1.tokens = st.1.tokens ∧ st'.1.handed = st.1.handed ∧ st'.1.arrived = st.1.arrived ∧
      st'.1.misroutedDrops = st.1.misroutedDrops ∧
      ∃ log, st'.1.log = st.1.log ++ log ∧ ∀ h ∈ freedIn log, q.flags.rejects (q.frames h) = true := by
  induction bufs generalizing st with
  | nil => exact ⟨rfl, rfl, rfl, rfl, [], (List.append_nil _).symm, by simp⟩
  | cons m bufs ih =>
    obtain ⟨htokens, hhanded, harrived, hdrops, log, hlog, hfreed⟩ := ih (shimKeep q st m)
    rw [List.foldl_cons]
    dsimp only
    rw [htokens, hhanded, harrived, hdrops, hlog, shimKeep]
    split_ifs with hr
    · refine ⟨rfl, rfl, rfl, rfl, .read m :: .freed m :: log, by simp [note], fun h hh => ?_⟩
      rw [freedIn_cons_read, freedIn_cons_freed] at hh
      rcases List.mem_cons.mp hh with rfl | hh
      · exact hr
      · exact hfreed h hh
    · exact ⟨rfl, rfl, rfl, rfl, .read m :: log, by simp [note], hfreed⟩

lemma shimMbufRxBurstN_frame (w : Receiver) (choice max : ℕ) :
    let w' := (w.shimMbufRxBurstN q choice max).1
    w'.tokens = w.tokens ∧ w'.handed = w.handed ∧ w'.arrived = w.arrived ∧
      w'.misroutedDrops = w.misroutedDrops ∧
      ∃ log, w'.log = w.log ++ log ∧ ∀ h ∈ freedIn log, q.flags.rejects (q.frames h) = true := by
  obtain ⟨htokens, hhanded, harrived, hdrops, log, hlog, hfreed⟩ :=
    foldl_shimKeep_frame (q := q) (w.rteEthRxBurst choice (min max 32)).2 ((w.rteEthRxBurst choice (min max 32)).1, 0)
  refine ⟨htokens, hhanded, harrived, hdrops, _, hlog.trans (List.append_assoc _ _ _), fun h hh => ?_⟩
  have htaken : ∀ l : List ℕ, freedIn (l.map Action.taken) = [] := by
    intro l
    induction l with
    | nil => rfl
    | cons m l ih => exact ih
  rw [freedIn_append, htaken, List.nil_append] at hh
  exact hfreed h hh

def EmptyBurst (q : RxQueue) (w : Receiver) : Prop :=
  ∃ (w' : Receiver) (choice : ℕ), w'.rxPrefPos = w'.rxPrefLen ∧ w'.shimMbufRxBurstN q choice rxBurst = (w, 0)

theorem Inv.receiveLoop_rule {J : Receiver → Prop}
    (hburst : ∀ w choice, J w → J (w.shimMbufRxBurstN q choice rxBurst).1)
    (hset : ∀ w pos len, J w → J { w with rxPrefPos := pos, rxPrefLen := len })
    (hoffer : ∀ w h hs, w.Inv q (h :: hs) → J w → J (w.offer q).1)
    {fuel : ℕ} {bursts : List ℕ} {w : Receiver} {hs : List ℕ} (i : w.Inv q hs) (hj : J w)
    (hf : hs.length + w.ring.length < fuel) :
    ∃ hs', (w.receiveLoop q fuel bursts).1.Inv q hs' ∧ J (w.receiveLoop q fuel bursts).1 ∧
      ((w.receiveLoop q fuel bursts).2 = none → hs' = [] ∧ EmptyBurst q (w.receiveLoop q fuel bursts).1) := by
  induction fuel generalizing bursts w hs with
  | zero => omega
  | succ fuel ih =>
    cases hs with
    | nil =>
      obtain ⟨w', hs', he, hi, hnil, hring⟩ := i.refill (bursts.headD 0)
      have hj' : J w' := by
        have h := hburst w (bursts.headD 0) hj
        rwa [he] at h
      have hpos : w.rxPrefPos = w.rxPrefLen := i.len_eq.symm
      rw [Receiver.receiveLoop, if_pos hpos]
      simp only [he]
      cases hs' with
      | nil => exact ⟨[], hnil rfl, hj', fun _ => ⟨rfl, w, bursts.headD 0, hpos, he⟩⟩
      | cons h hs' =>
        obtain ⟨ho, hr⟩ := hi.offer
        have hjo := hoffer _ h hs' hi (hset w' 0 _ hj')
        rw [if_neg (by simp)]
        simp only [List.length_nil, List.length_cons] at hring hf
        generalize Receiver.offer q { w' with rxPrefPos := 0, rxPrefLen := (h :: hs').length } = r at ho hr hjo
        obtain ⟨w₂, _ | token⟩ := r
        · exact ih ho hjo (by rw [hr]; dsimp only; omega)
        · exact ⟨hs', ho, hjo, fun h => absurd h (Option.some_ne_none _)⟩
    | cons h hs =>
      obtain ⟨ho, hr⟩ := i.offer
      have hjo := hoffer w h hs i hj
      have hpos : w.rxPrefPos ≠ w.rxPrefLen := by
        rw [i.len_eq, List.length_cons]
        omega
      rw [Receiver.receiveLoop, if_neg hpos]
      rw [List.length_cons] at hf
      generalize Receiver.offer q w = r at ho hr hjo
      obtain ⟨w₂, _ | token⟩ := r
      · exact ih ho hjo (by rw [hr]; omega)
      · exact ⟨hs, ho, hjo, fun h => absurd h (Option.some_ne_none _)⟩

lemma Inv.receive_fuel {w : Receiver} {hs : List ℕ} (i : w.Inv q hs) :
    hs.length + w.ring.length < w.rxPrefLen - w.rxPrefPos + w.ring.length + 1 := by
  have := i.len_eq
  omega

lemma Inv.receive {w : Receiver} {hs : List ℕ} (i : w.Inv q hs) (bursts : List ℕ) :
    ∃ hs', (w.receive q bursts).1.Inv q hs' ∧ (w.receive q bursts).1.arrived = w.arrived ∧
      ((w.receive q bursts).2 = none → hs' = [] ∧ EmptyBurst q (w.receive q bursts).1) := by
  rw [Receiver.receive]
  cases w.pendingSynth with
  | some buf =>
    refine ⟨hs, ⟨i.slots, i.len_eq, i.good, ?_, i.fifo, ?_, i.order, i.seen⟩, rfl,
      fun h => absurd h (Option.some_ne_none _)⟩
    · intro t ht
      rcases List.mem_append.mp ht with ht | ht
      · exact i.honest t ht
      · rw [List.mem_singleton.mp ht]
        trivial
    · simpa using i.ledger
  | none =>
    apply i.receiveLoop_rule (J := fun w' => w'.arrived = w.arrived) ?_ (fun _ _ _ h => h) ?_ rfl i.receive_fuel
    · intro w' choice h
      exact (shimMbufRxBurstN_frame w' choice rxBurst).2.2.1.trans h
    · intro w' _ _ _ h
      rw [Receiver.offer]
      dsimp only
      split_ifs <;> exact h

lemma Inv.release {w : Receiver} {hs : List ℕ} (i : w.Inv q hs) (n : ℕ)
    {f : RxToken → Receiver → Receiver} (hf : f = Receiver.consume q ∨ f = Receiver.drop) :
    (w.release n f).Inv q hs := by
  rw [Receiver.release]
  cases ht : w.tokens[n]? with
  | none => exact i
  | some token =>
    obtain ⟨hn, hget⟩ := List.getElem?_eq_some_iff.mp ht
    have hsplit : w.tokens = w.tokens.take n ++ token :: w.tokens.drop (n + 1) := by
      rw [← hget, List.getElem_cons_drop, List.take_append_drop]
    have herase : w.tokens.eraseIdx n = w.tokens.take n ++ w.tokens.drop (n + 1) :=
      List.eraseIdx_eq_take_drop_succ ..
    have hhonest : ∀ t ∈ w.tokens.eraseIdx n, t.Honest q :=
      fun t hm => i.honest t (List.mem_of_mem_eraseIdx hm)
    have hledger := i.ledger
    rw [hsplit, tokenHandles_append] at hledger
    cases token with
    | synth buf =>
      have hl : Ledger w.log (hs ++ tokenHandles (w.tokens.eraseIdx n)) := by
        simpa [herase] using hledger
      rcases hf with rfl | rfl <;>
        exact ⟨i.slots, i.len_eq, i.good, hhonest, i.fifo, hl, i.order, i.seen⟩
    | mbuf handle data len =>
      obtain ⟨rfl, rfl⟩ := i.honest _ (hsplit ▸ List.mem_append_right _ (List.mem_cons_self ..))
      rw [tokenHandles_mbuf, ← List.append_assoc] at hledger
      rcases hf with rfl | rfl
      · have hl := (hledger.read (h := data) (by simp)).free
        refine ⟨i.slots, i.len_eq, i.good, hhonest, by simpa [note, Receiver.consume] using i.fifo, ?_,
          i.order, ?_⟩
        · simpa [note, Receiver.consume, herase] using hl
        · intro p hp
          rcases List.mem_append.mp hp with hp | hp
          · exact i.seen p hp
          · rw [List.mem_singleton.mp hp, List.take_length]
      · have hl := hledger.free
        refine ⟨i.slots, i.len_eq, i.good, hhonest, by simpa [note, Receiver.drop] using i.fifo, ?_,
          i.order, i.seen⟩
        simpa [note, Receiver.drop, herase] using hl

lemma Inv.arrive {w : Receiver} {hs : List ℕ} (i : w.Inv q hs) : (w.next q .arrive).Inv q hs := by
  refine ⟨i.slots, i.len_eq, i.good, i.honest, ?_, i.ledger, ?_, i.seen⟩
  · simp only [Receiver.next, List.range_succ, ← i.fifo, List.append_assoc]
  · simp only [Receiver.next, List.range_succ, List.filter_append, i.order, List.append_assoc]

lemma Inv.next {w : Receiver} (i : ∃ hs, w.Inv q hs) (e : Event) : ∃ hs, (w.next q e).Inv q hs := by
  obtain ⟨hs, i⟩ := i
  cases e with
  | arrive => exact ⟨hs, i.arrive⟩
  | receive bursts =>
    obtain ⟨hs', h, _⟩ := i.receive bursts
    exact ⟨hs', h⟩
  | consume n => exact ⟨hs, i.release n (Or.inl rfl)⟩
  | drop n => exact ⟨hs, i.release n (Or.inr rfl)⟩

lemma Inv.initial (synth : Option (List UInt8)) : (Receiver.initial synth).Inv q [] where
  slots := ⟨⟨rfl, rfl, rfl⟩, Nat.zero_le _, fun k h hk => by simp at hk⟩
  len_eq := rfl
  good := by simp
  honest := by simp [Receiver.initial]
  fifo := rfl
  ledger := Ledger.nil
  order := rfl
  seen := by simp [Receiver.initial]

end Receiver

lemma inv_receiverAfter (q : RxQueue) (synth : Option (List UInt8)) (es : List Event) :
    ∃ hs, (receiverAfter q synth es).Inv q hs :=
  run_preserves (I := fun w : Receiver => ∃ hs, w.Inv q hs) (fun _ e h => Receiver.Inv.next h e) es
    ⟨[], Receiver.Inv.initial synth⟩

def Receiver.slots (w : Receiver) : List ℕ :=
  (List.range' w.rxPrefPos (w.rxPrefLen - w.rxPrefPos)).map fun i => w.rxPref.handles.getD i 0

lemma Receiver.Inv.slots_eq {w : Receiver} {hs : List ℕ} (i : w.Inv q hs) : w.slots = hs := by
  have hlen : w.rxPrefLen - w.rxPrefPos = hs.length := by
    have := i.len_eq
    omega
  rw [Receiver.slots, hlen]
  refine List.ext_getElem? fun k => ?_
  by_cases hk : k < hs.length
  · have h := (i.slots.slot k hs[k] (List.getElem?_eq_getElem hk)).1
    rw [List.getElem?_map, List.getElem?_range' hk, List.getElem?_eq_getElem hk, Option.map_some,
      Nat.one_mul, h]
  · rw [List.getElem?_eq_none (by simpa using hk), List.getElem?_eq_none (by simpa using hk)]

namespace Receiver

lemma offer_tokens (w : Receiver) :
    (w.offer q).1.tokens = w.tokens ++ (w.offer q).2.toList ∧
      (w.offer q).1.handed = w.handed ++ tokenHandles (w.offer q).2.toList := by
  rw [offer]
  dsimp only
  split_ifs <;> simp [note]

lemma receiveLoop_tokens (fuel : ℕ) (bursts : List ℕ) (w : Receiver) :
    (w.receiveLoop q fuel bursts).1.tokens = w.tokens ++ (w.receiveLoop q fuel bursts).2.toList ∧
      (w.receiveLoop q fuel bursts).1.handed =
        w.handed ++ tokenHandles (w.receiveLoop q fuel bursts).2.toList := by
  induction fuel generalizing bursts w with
  | zero => simp [receiveLoop]
  | succ fuel ih =>
    rw [receiveLoop]
    split_ifs with hpos
    · obtain ⟨htokens, hhanded, _⟩ := shimMbufRxBurstN_frame (q := q) w (bursts.headD 0) rxBurst
      generalize w.shimMbufRxBurstN q (bursts.headD 0) rxBurst = r at htokens hhanded
      obtain ⟨w₁, got⟩ := r
      dsimp only at htokens hhanded ⊢
      split_ifs
      · simp [htokens, hhanded]
      · have ho := offer_tokens (q := q) { w₁ with rxPrefPos := 0, rxPrefLen := got }
        generalize offer q { w₁ with rxPrefPos := 0, rxPrefLen := got } = r at ho
        obtain ⟨w₂, _ | token⟩ := r
        · have hw : w₂.tokens = w.tokens ∧ w₂.handed = w.handed := by simpa [htokens, hhanded] using ho
          exact hw.1 ▸ hw.2 ▸ ih bursts.tail w₂
        · rw [← htokens, ← hhanded]
          exact ho
    · have ho := offer_tokens (q := q) w
      generalize offer q w = r at ho
      obtain ⟨w₂, _ | token⟩ := r
      · have hw : w₂.tokens = w.tokens ∧ w₂.handed = w.handed := by simpa using ho
        exact hw.1 ▸ hw.2 ▸ ih bursts w₂
      · exact ho

lemma receive_tokens (bursts : List ℕ) (w : Receiver) :
    (w.receive q bursts).1.tokens = w.tokens ++ (w.receive q bursts).2.toList ∧
      (w.receive q bursts).1.handed = w.handed ++ tokenHandles (w.receive q bursts).2.toList := by
  rw [receive]
  split
  · simp
  · exact receiveLoop_tokens _ _ _

lemma release_last_tokens {w : Receiver} {l : List RxToken} {token : RxToken}
    (h : w.tokens = l ++ [token]) (e : Event)
    (he : e = .consume (w.tokens.length - 1) ∨ e = .drop (w.tokens.length - 1)) :
    (w.next q e).tokens = l := by
  have hn : w.tokens.length - 1 = l.length := by simp [h]
  have hget : w.tokens[l.length]? = some token := by simp [h]
  have herase : w.tokens.eraseIdx l.length = l := by
    rw [h, List.eraseIdx_append_of_length_le (le_refl _)]
    simp
  rw [hn] at he
  rcases he with rfl | rfl <;> simp only [next, release, hget, herase] <;> cases token <;> rfl

end Receiver

structure Round where
  arrivals : ℕ
  bursts : List ℕ
  consumed : Bool

def Receiver.poll (q : RxQueue) : List Round → Receiver → Receiver × Bool
  | [], w => (w, false)
  | r :: rest, w =>
    match (run (next q) w (List.replicate r.arrivals .arrive)).receive q r.bursts with
    | (w, none) => (w, true)
    | (w, some _) =>
      poll q rest (w.next q (if r.consumed then .consume (w.tokens.length - 1)
        else .drop (w.tokens.length - 1)))

lemma run_arrive_tokens (q : RxQueue) (n : ℕ) (w : Receiver) :
    (run (Receiver.next q) w (List.replicate n .arrive)).tokens = w.tokens := by
  induction n generalizing w with
  | zero => rfl
  | succ n ih =>
    rw [List.replicate_succ, run_cons, ih]
    rfl

lemma Receiver.poll_eq (rounds : List Round) (w : Receiver) (hi : ∃ hs, w.Inv q hs) :
    (∃ es, (w.poll q rounds).1 = run (next q) w es) ∧ (w.poll q rounds).1.tokens = w.tokens ∧
      ((w.poll q rounds).2 = true → (w.poll q rounds).1.Inv q []) := by
  induction rounds generalizing w with
  | nil => exact ⟨⟨[], rfl⟩, rfl, nofun⟩
  | cons r rest ih =>
    set w₁ := run (next q) w (List.replicate r.arrivals .arrive) with hw₁
    obtain ⟨hs, i⟩ : ∃ hs, w₁.Inv q hs :=
      run_preserves (I := fun w : Receiver => ∃ hs, w.Inv q hs) (fun _ e h => Inv.next h e) _ hi
    obtain ⟨hs', i', _, hnil⟩ := i.receive r.bursts
    have htok : (w₁.receive q r.bursts).1.tokens =
        w.tokens ++ (w₁.receive q r.bursts).2.toList := by
      rw [(receive_tokens _ _).1, hw₁, run_arrive_tokens]
    rw [poll, ← hw₁]
    have hrun : ∀ es, run (next q) (w₁.receive q r.bursts).1 es =
        run (next q) w (List.replicate r.arrivals .arrive ++ .receive r.bursts :: es) := by
      intro es
      rw [run_append, run_cons, hw₁]
      rfl
    generalize w₁.receive q r.bursts = res at i' hnil htok hrun
    obtain ⟨w₂, _ | token⟩ := res
    · obtain ⟨rfl, _⟩ := hnil rfl
      exact ⟨⟨_, hrun []⟩, by simpa using htok, fun _ => i'⟩
    · dsimp only at hrun ⊢
      obtain ⟨e, he⟩ : ∃ e, e = (if r.consumed then Event.consume (w₂.tokens.length - 1)
        else .drop (w₂.tokens.length - 1)) := ⟨_, rfl⟩
      have hlast : (w₂.next q e).tokens = w.tokens :=
        release_last_tokens (by simpa using htok) e (by rw [he]; split_ifs <;> simp)
      rw [← he]
      obtain ⟨⟨es, hes⟩, htok', hret⟩ := ih (w₂.next q e) (Inv.next ⟨hs', i'⟩ e)
      exact ⟨⟨_, hes.trans (hrun (e :: es))⟩, htok'.trans hlast, hret⟩

/-- A call hands on the fabricated frame if there is one, else the first frame that passes. It comes
back with nothing only when no frame that passes is left in the slots or was taken from the ring. -/
structure Receives (q : RxQueue) (w : Receiver) (r : Receiver × Option RxToken) : Prop where
  tokens : r.1.tokens = w.tokens ++ r.2.toList
  handed : r.1.handed = w.handed ++ tokenHandles r.2.toList
  synth : ∀ buf, w.pendingSynth = some buf → r.2 = some (.synth buf) ∧ r.1.pendingSynth = none
  order : (w.slots ++ w.ring).filter q.passes =
    tokenHandles r.2.toList ++ (r.1.slots ++ r.1.ring).filter q.passes
  nothing : r.2 = none → r.1.slots = [] ∧ r.1.EmptyBurst q

lemma Receiver.Inv.receives {w : Receiver} {hs : List ℕ} (i : w.Inv q hs) (bursts : List ℕ) :
    Receives q w (w.receive q bursts) := by
  obtain ⟨hs', i', harrived, hnil⟩ := i.receive bursts
  obtain ⟨htokens, hhanded⟩ := receive_tokens (q := q) bursts w
  refine ⟨htokens, hhanded, fun buf hbuf => ?_, ?_, fun hnone => ?_⟩
  · rw [Receiver.receive, hbuf]
    exact ⟨rfl, rfl⟩
  · have horder := i'.order
    rw [harrived, i.order, hhanded, List.append_assoc] at horder
    rw [i.slots_eq, i'.slots_eq]
    exact List.append_cancel_left horder
  · obtain ⟨rfl, hempty⟩ := hnil hnone
    exact ⟨i'.slots_eq, hempty⟩

/-- The receive path hands on, in order, exactly the arrivals that pass, and frees every mbuf it
takes exactly once after its last use; a poll that has returned leaves nothing behind. -/
theorem receive_refines_queue (q : RxQueue) (synth : Option (List UInt8)) (es : List Event) :
    let w := receiverAfter q synth es
    (List.range w.arrived).filter q.passes = w.handed ++ (w.slots ++ w.ring).filter q.passes ∧
      (∀ p ∈ w.seen, p.2 = (q.frames p.1).data) ∧
      takenIn w.log ++ w.ring = List.range w.arrived ∧
      (freedIn w.log ++ (w.slots ++ tokenHandles w.tokens)).Perm (takenIn w.log) ∧
      (∀ h ∈ takenIn w.log, h ∉ w.slots → h ∉ tokenHandles w.tokens → (freedIn w.log).count h = 1) ∧
      (∀ h before behind, w.log = before ++ .freed h :: behind → ∀ a ∈ behind, a.handle ≠ h) ∧
      (∀ bursts, Receives q w (w.receive q bursts)) ∧
      ∀ rounds, (w.poll q rounds).2 = true →
        let w' := (w.poll q rounds).1
        (∃ es', w' = receiverAfter q synth (es ++ es')) ∧ w'.rxPrefPos = w'.rxPrefLen ∧
          (List.range w'.arrived).filter q.passes = w'.handed ++ w'.ring.filter q.passes ∧
          ∀ h ∈ takenIn w'.log, h ∉ tokenHandles w.tokens → (freedIn w'.log).count h = 1 := by
  intro w
  obtain ⟨hs, i⟩ : ∃ hs, w.Inv q hs := inv_receiverAfter q synth es
  have hreceives : ∀ bursts, Receives q w (w.receive q bursts) := fun bursts => i.receives bursts
  rw [i.slots_eq]
  refine ⟨i.order, i.seen, i.fifo, i.ledger.perm, fun h ht hn hn' => ?_, fun h before behind he => ?_,
    hreceives, fun rounds hret => ?_⟩
  · exact i.ledger.freed_once ht (by simp [hn, hn'])
  · have hsafe := i.ledger.safe
    rw [he] at hsafe
    exact fun a => hsafe.not_after
  · obtain ⟨⟨es', he⟩, htok, hinv⟩ := Receiver.poll_eq rounds w ⟨hs, i⟩
    have i' := hinv hret
    refine ⟨⟨es', by rw [he, receiverAfter, run_append]; rfl⟩, i'.len_eq.symm, by simpa using i'.order, fun h ht hn => ?_⟩
    exact i'.ledger.freed_once ht (by simpa [htok] using hn)

end SmoltcpS3.Device
