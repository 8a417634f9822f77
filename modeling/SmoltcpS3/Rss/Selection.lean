import SmoltcpS3.Rss.Ports

/-! The source ports a worker selects: its own, distinct, and as many as it needs where it owns
that many. -/

namespace SmoltcpS3.Rss

section

variable (conns : ℕ) {stride : ℕ} (bitmap : OwnedBitmap)

variable (stride) in
lemma foldl_selectPort_sublist (l : List (Fin ephLen)) (st : List UInt16 × ℕ) :
    ∃ picked, (l.foldl (selectPort conns stride bitmap) st).1 = st.1 ++ picked ∧
      picked.Sublist ((l.map ephPort).filter (ownsPort bitmap)) := by
  induction l generalizing st with
  | nil => exact ⟨[], by simp, List.nil_sublist _⟩
  | cons i l ih =>
    obtain ⟨picked, heq, hsub⟩ := ih (selectPort conns stride bitmap st i)
    rw [List.foldl_cons, heq, List.map_cons]
    have hskip : picked.Sublist ((ephPort i :: l.map ephPort).filter (ownsPort bitmap)) :=
      hsub.trans ((List.sublist_cons_self _ _).filter _)
    rw [selectPort]
    split_ifs with hfull hown hpick
    · exact ⟨picked, rfl, hskip⟩
    · refine ⟨ephPort i :: picked, by simp, ?_⟩
      rw [List.filter_cons_of_pos hown]
      exact hsub.cons_cons _
    · exact ⟨picked, rfl, hskip⟩
    · exact ⟨picked, rfl, hskip⟩

lemma foldl_selectPort_full {st : List UInt16 × ℕ} (h : st.1.length = conns) (l : List (Fin ephLen)) :
    l.foldl (selectPort conns stride bitmap) st = st := by
  induction l with
  | nil => rfl
  | cons i l ih => rwa [List.foldl_cons, selectPort, if_pos h]

lemma foldl_selectPort_foreign {l : List (Fin ephLen)} (h : ∀ i ∈ l, ownsPort bitmap (ephPort i) = false)
    (st : List UInt16 × ℕ) : l.foldl (selectPort conns stride bitmap) st = st := by
  induction l with
  | nil => rfl
  | cons i l ih =>
    have hi : selectPort conns stride bitmap st i = st := by simp [selectPort, h i]
    rw [List.foldl_cons, hi]
    exact ih fun j hj => h j (List.mem_cons_of_mem i hj)

lemma selectPorts_one {owned : ℕ} {l l' : List (Fin ephLen)} {i : Fin ephLen}
    (hl : List.finRange ephLen = l ++ i :: l') (hnot : ∀ j ∈ l, ownsPort bitmap (ephPort j) = false)
    (hi : ownsPort bitmap (ephPort i) = true) : selectPorts 1 owned bitmap = [ephPort i] := by
  have hstep : selectPort 1 (max 1 (owned / 1)) bitmap ([], 0) i = ([ephPort i], 1) := by
    simp [selectPort, hi]
  rw [selectPorts, hl, List.foldl_append, foldl_selectPort_foreign 1 bitmap hnot, List.foldl_cons, hstep]
  exact congrArg Prod.fst (foldl_selectPort_full 1 bitmap (rfl : ([ephPort i], 1).1.length = 1) l')

lemma finRange_succ_succ (n : ℕ) :
    List.finRange (n + 2) = 0 :: 1 :: ((List.finRange n).map Fin.succ).map Fin.succ := by
  rw [List.finRange_succ, List.finRange_succ]
  rfl

lemma finRange_ephLen : ∃ l, List.finRange ephLen = ⟨0, by decide⟩ :: ⟨1, by decide⟩ :: l :=
  ⟨_, finRange_succ_succ 16382⟩

lemma ceilDiv_succ (h : 0 < stride) (seen : ℕ) :
    (seen + 1 + stride - 1) / stride =
      (seen + stride - 1) / stride + if seen % stride = 0 then 1 else 0 := by
  have hs : seen + 1 + stride - 1 = seen + stride - 1 + 1 := by omega
  have hd : stride ∣ seen + stride - 1 + 1 ↔ seen % stride = 0 := by
    have he : seen + stride - 1 + 1 = seen + stride := by omega
    rw [he, Nat.dvd_add_self_right, Nat.dvd_iff_mod_eq_zero]
  rw [hs, Nat.succ_div]
  simp only [hd]

lemma foldl_selectPort_length (hs : 0 < stride) (l : List (Fin ephLen)) (st : List UInt16 × ℕ)
    (hle : st.1.length ≤ conns)
    (hlen : st.1.length = conns ∨ st.1.length = (st.2 + stride - 1) / stride) :
    let r := l.foldl (selectPort conns stride bitmap) st
    r.1.length ≤ conns ∧ (r.1.length = conns ∨
      r.1.length = (st.2 + l.countP (fun i => ownsPort bitmap (ephPort i)) + stride - 1) / stride) := by
  induction l generalizing st with
  | nil => simpa using ⟨hle, hlen⟩
  | cons i l ih =>
    simp only [List.foldl_cons]
    by_cases hfull : st.1.length = conns
    · have hstep : selectPort conns stride bitmap st i = st := if_pos hfull
      rw [hstep, foldl_selectPort_full conns bitmap hfull]
      exact ⟨hle, Or.inl hfull⟩
    · have hlen' := hlen.resolve_left hfull
      by_cases hown : ownsPort bitmap (ephPort i) = true
      · have hcount : (i :: l).countP (fun i => ownsPort bitmap (ephPort i)) =
            l.countP (fun i => ownsPort bitmap (ephPort i)) + 1 :=
          List.countP_cons_of_pos hown
        have hstep : selectPort conns stride bitmap st i =
            (if st.2 % stride = 0 then st.1 ++ [ephPort i] else st.1, st.2 + 1) := by
          simp [selectPort, hfull, hown]
        have hl : (selectPort conns stride bitmap st i).1.length =
            (st.2 + 1 + stride - 1) / stride := by
          rw [ceilDiv_succ hs, hstep, ← hlen']
          split_ifs <;> simp
        have hle' : (selectPort conns stride bitmap st i).1.length ≤ conns := by
          rw [hl, ceilDiv_succ hs, ← hlen']
          split_ifs <;> omega
        have h := ih (selectPort conns stride bitmap st i) hle' (Or.inr (by rw [hl, hstep]))
        have hseen : (selectPort conns stride bitmap st i).2 = st.2 + 1 := by rw [hstep]
        rw [hseen] at h
        rw [hcount]
        refine ⟨h.1, h.2.imp_right fun he => ?_⟩
        rw [he]
        congr 2
        omega
      · have hcount : (i :: l).countP (fun i => ownsPort bitmap (ephPort i)) =
            l.countP (fun i => ownsPort bitmap (ephPort i)) := List.countP_cons_of_neg hown
        have hstep : selectPort conns stride bitmap st i = st := by
          simp [selectPort, hfull, hown]
        rw [hstep, hcount]
        exact ih st hle hlen

lemma foldl_selectPort_nil (hs : 0 < stride) (l : List (Fin ephLen)) :
    let r := l.foldl (selectPort conns stride bitmap) ([], 0)
    r.1.length ≤ conns ∧ (r.1.length = conns ∨
      r.1.length = (l.countP (fun i => ownsPort bitmap (ephPort i)) + stride - 1) / stride) := by
  have hzero : (0 + stride - 1) / stride = 0 := Nat.div_eq_of_lt (by omega)
  have h := foldl_selectPort_length conns bitmap hs l ([], 0) (Nat.zero_le _)
    (Or.inr hzero.symm)
  simpa only [Nat.zero_add] using h

lemma length_selectPorts (conns owned : ℕ) (bitmap : OwnedBitmap) :
    (selectPorts conns owned bitmap).length ≤ conns ∧
      ((selectPorts conns owned bitmap).length = conns ∨
        (selectPorts conns owned bitmap).length =
          ((List.finRange ephLen).countP (fun i => ownsPort bitmap (ephPort i)) +
            max 1 (owned / conns) - 1) / max 1 (owned / conns)) := by
  have hs : 0 < max 1 (owned / conns) := lt_of_lt_of_le one_pos (le_max_left _ _)
  have h := foldl_selectPort_nil conns bitmap hs (List.finRange ephLen)
  rw [selectPorts]
  exact h

def ownedIn (bitmap : OwnedBitmap) : ℕ :=
  (List.finRange ephLen).countP fun i => ownsPort bitmap (ephPort i)

lemma selectPorts_sublist (owned : ℕ) :
    (selectPorts conns owned bitmap).Sublist
      (((List.finRange ephLen).map ephPort).filter (ownsPort bitmap)) := by
  obtain ⟨picked, heq, hsub⟩ := foldl_selectPort_sublist conns (max 1 (owned / conns)) bitmap
    (List.finRange ephLen) ([], 0)
  rw [selectPorts, heq]
  exact hsub

lemma pairwise_selectPorts (owned : ℕ) : (selectPorts conns owned bitmap).Pairwise (· < ·) := by
  have hports : ((List.finRange ephLen).map ephPort).Pairwise (· < ·) := by
    apply (List.pairwise_lt_finRange ephLen).map
    intro i j hij
    rw [UInt16.lt_iff_toNat_lt, ephPort_toNat, ephPort_toNat]
    exact Nat.add_lt_add_left hij _
  exact (hports.filter _).sublist (selectPorts_sublist conns bitmap owned)

lemma mem_selectPorts {owned : ℕ} {port : UInt16} (h : port ∈ selectPorts conns owned bitmap) :
    ephBase ≤ port ∧ ownsPort bitmap port = true := by
  obtain ⟨hm, hown⟩ := List.mem_filter.mp ((selectPorts_sublist conns bitmap owned).subset h)
  obtain ⟨i, _, rfl⟩ := List.mem_map.mp hm
  exact ⟨UInt16.not_lt.mp (not_ephPort_lt i), hown⟩

theorem length_selectPorts_eq (hc : 0 < conns) :
    (selectPorts conns (ownedIn bitmap) bitmap).length = min conns (ownedIn bitmap) := by
  have howned : (selectPorts conns (ownedIn bitmap) bitmap).length ≤ ownedIn bitmap := by
    have hsub := (selectPorts_sublist conns bitmap (ownedIn bitmap)).length_le
    rwa [← List.countP_eq_length_filter, List.countP_map] at hsub
  obtain ⟨hle, hlen⟩ := length_selectPorts conns (ownedIn bitmap) bitmap
  apply le_antisymm (le_min hle howned)
  rcases hlen with hlen | hlen
  · rw [hlen]
    exact min_le_left _ _
  · change _ = (ownedIn bitmap + max 1 (ownedIn bitmap / conns) - 1) / max 1 (ownedIn bitmap / conns) at hlen
    rw [hlen]
    rcases Nat.lt_or_ge (ownedIn bitmap) conns with hlt | hge
    · rw [Nat.div_eq_of_lt hlt]
      simp
    · have hone : 1 ≤ ownedIn bitmap / conns := (Nat.one_le_div_iff hc).mpr hge
      rw [max_eq_right hone, min_eq_left hge, Nat.le_div_iff_mul_le hone]
      have := Nat.mul_div_le (ownedIn bitmap) conns
      omega

end

variable {cfg : Config} {rss : RssConfig} {ourIp : Ipv4Address}

lemma myPorts_of_single_conn (hc : cfg.connsPerWorker = 1) {queueId : UInt16} {l : List (Fin ephLen)}
    {i : Fin ephLen} (hl : ∃ l', List.finRange ephLen = l ++ i :: l')
    (hnot : ∀ j ∈ l, queueForLocalPort cfg rss ourIp (ephPort j) ≠ queueId)
    (hi : queueForLocalPort cfg rss ourIp (ephPort i) = queueId) :
    myPorts cfg rss ourIp queueId = [ephPort i] := by
  have howns : ∀ j, ownsPort (ownedBitmap cfg rss ourIp queueId) (ephPort j) = true ↔
      queueForLocalPort cfg rss ourIp (ephPort j) = queueId :=
    fun j => ownsPort_ownedBitmap queueId (UInt16.not_lt.mp (not_ephPort_lt j))
  obtain ⟨l', hl⟩ := hl
  rw [myPorts, hc]
  refine selectPorts_one _ hl (fun j hj => ?_) ((howns i).mpr hi)
  exact Bool.eq_false_iff.mpr fun h => hnot j hj ((howns j).mp h)

lemma mem_myPorts {queueId port : UInt16} (h : port ∈ myPorts cfg rss ourIp queueId) :
    ephBase ≤ port ∧ ownsPort (ownedBitmap cfg rss ourIp queueId) port = true ∧
      queueForLocalPort cfg rss ourIp port = queueId := by
  obtain ⟨hle, hown⟩ := mem_selectPorts _ _ h
  exact ⟨hle, hown, (ownsPort_ownedBitmap queueId hle).mp hown⟩

lemma disjoint_myPorts {q q' : UInt16} (h : q ≠ q') :
    (myPorts cfg rss ourIp q).Disjoint (myPorts cfg rss ourIp q') := by
  intro port hq hq'
  exact h ((mem_myPorts hq).2.2.symm.trans (mem_myPorts hq').2.2)

lemma ownedIn_ownedBitmap (queueId : UInt16) :
    ownedIn (ownedBitmap cfg rss ourIp queueId) = ownedCount cfg rss ourIp queueId := by
  rw [ownedCount_eq, ownedIn]
  apply List.countP_congr
  intro i _
  simpa using ownsPort_ownedBitmap queueId (UInt16.not_lt.mp (not_ephPort_lt i))

theorem length_myPorts {queueId : UInt16}
    (h : cfg.connsPerWorker ≤ ownedCount cfg rss ourIp queueId) :
    (myPorts cfg rss ourIp queueId).length = cfg.connsPerWorker := by
  rw [myPorts, ← ownedIn_ownedBitmap, length_selectPorts_eq _ _ cfg.conns_pos, ownedIn_ownedBitmap,
    min_eq_left h]

end SmoltcpS3.Rss
