import Mathlib.Algebra.BigOperators.Group.Finset.Piecewise
import Mathlib.Data.Fintype.Basic
import Mathlib.Data.List.FinRange
import Mathlib.Order.Interval.Finset.Nat
import SmoltcpS3.Foundations.Bitmap
import SmoltcpS3.Rss.Steering

/-! The ephemeral ports that steer to a queue, the bitmap that records them and the choice of
source ports from it. -/

namespace SmoltcpS3.Rss

open Bitmaps

def ephBase : UInt16 := 49152

def ephLen : ℕ := 16384

def ownedBitmapBytes : ℕ := ephLen / 8

abbrev OwnedBitmap := Bitmap ownedBitmapBytes

def OwnedBitmap.zeroed : OwnedBitmap := Vector.replicate _ 0

lemma byteIndex_lt (i : Fin ephLen) : i.val / 8 < ownedBitmapBytes := by
  have := i.isLt
  simp only [ephLen, ownedBitmapBytes] at *
  omega

def ephPort (i : Fin ephLen) : UInt16 := ephBase + UInt16.ofNat i

def ephIndex (port : UInt16) (h : ¬ port < ephBase) : Fin ephLen :=
  ⟨(port - ephBase).toNat, by
    have := port.toNat_lt
    rw [UInt16.toNat_sub_of_le _ _ (UInt16.not_lt.mp h)]
    simp only [ephLen, ephBase, UInt16.reduceToNat]
    omega⟩

lemma ephPort_toNat (i : Fin ephLen) : (ephPort i).toNat = 49152 + i := by
  have := i.isLt
  simp only [ephLen] at this
  simp only [ephPort, UInt16.toNat_add, UInt16.toNat_ofNat', ephBase, UInt16.reduceToNat]
  omega

lemma ephPort_eq_ofNat (i : Fin ephLen) : ephPort i = UInt16.ofNat (49152 + i) := by
  have h := i.isLt
  simp only [ephLen] at h
  apply UInt16.toNat_inj.mp
  rw [ephPort_toNat, UInt16.toNat_ofNat', Nat.mod_eq_of_lt (by omega)]

lemma not_ephPort_lt (i : Fin ephLen) : ¬ ephPort i < ephBase := by
  rw [UInt16.lt_iff_toNat_lt, ephPort_toNat]
  simp [ephBase]

lemma ephPort_ephIndex {port : UInt16} (h : ¬ port < ephBase) : ephPort (ephIndex port h) = port := by
  have hle := UInt16.le_iff_toNat_le.mp (UInt16.not_lt.mp h)
  apply UInt16.toNat_inj.mp
  rw [ephPort_toNat]
  simp only [ephIndex, UInt16.toNat_sub_of_le _ _ (UInt16.not_lt.mp h)]
  simp only [ephBase, UInt16.reduceToNat] at hle ⊢
  omega

section Worker

variable (cfg : Config) (rss : RssConfig) (ourIp : Ipv4Address)

def markPort (queueId : UInt16) (st : OwnedBitmap × ℕ) (i : Fin ephLen) : OwnedBitmap × ℕ :=
  if queueForLocalPort cfg rss ourIp (ephPort i) = queueId then
    (setBit st.1 i (byteIndex_lt i), st.2 + 1)
  else st

def buildOwnedPorts (queueId : UInt16) (bitmap : OwnedBitmap) : OwnedBitmap × ℕ :=
  (List.finRange ephLen).foldl (markPort cfg rss ourIp queueId) (bitmap, 0)

def ownsPort (bitmap : OwnedBitmap) (port : UInt16) : Bool :=
  if h : port < ephBase then true  -- DHCP and the like
  else testBit bitmap (ephIndex port h) (byteIndex_lt _)

def selectPort (conns stride : ℕ) (bitmap : OwnedBitmap) (st : List UInt16 × ℕ) (i : Fin ephLen) :
    List UInt16 × ℕ :=
  if st.1.length = conns then st
  else if ownsPort bitmap (ephPort i) then
    (if st.2 % stride = 0 then st.1 ++ [ephPort i] else st.1, st.2 + 1)
  else st

def selectPorts (conns ownedCount : ℕ) (bitmap : OwnedBitmap) : List UInt16 :=
  ((List.finRange ephLen).foldl (selectPort conns (max 1 (ownedCount / conns)) bitmap) ([], 0)).1

def ownedBitmap (queueId : UInt16) : OwnedBitmap := (buildOwnedPorts cfg rss ourIp queueId .zeroed).1

def ownedCount (queueId : UInt16) : ℕ := (buildOwnedPorts cfg rss ourIp queueId .zeroed).2

def myPorts (queueId : UInt16) : List UInt16 :=
  selectPorts cfg.connsPerWorker (ownedCount cfg rss ourIp queueId) (ownedBitmap cfg rss ourIp queueId)

variable {cfg rss ourIp}

lemma foldl_markPort (queueId : UInt16) (l : List (Fin ephLen)) (st : OwnedBitmap × ℕ) :
    (∀ j : Fin ephLen, testBit (l.foldl (markPort cfg rss ourIp queueId) st).1 j (byteIndex_lt j) =
      true ↔ testBit st.1 j (byteIndex_lt j) = true ∨
        (j ∈ l ∧ queueForLocalPort cfg rss ourIp (ephPort j) = queueId)) ∧
    (l.foldl (markPort cfg rss ourIp queueId) st).2 =
      st.2 + l.countP fun i => queueForLocalPort cfg rss ourIp (ephPort i) = queueId := by
  induction l generalizing st with
  | nil => simp
  | cons i l ih =>
    obtain ⟨hbits, hcount⟩ := ih (markPort cfg rss ourIp queueId st i)
    by_cases hq : queueForLocalPort cfg rss ourIp (ephPort i) = queueId
    · have hm : markPort cfg rss ourIp queueId st i = (setBit st.1 i (byteIndex_lt i), st.2 + 1) :=
        if_pos hq
      refine ⟨fun j => ?_, ?_⟩
      · rw [List.foldl_cons, hbits, hm]
        simp only [testBit_setBit, Bool.or_eq_true, decide_eq_true_eq, List.mem_cons, Fin.val_inj]
        constructor
        · rintro ((rfl | h) | ⟨h, hj⟩)
          · exact Or.inr ⟨Or.inl rfl, hq⟩
          · exact Or.inl h
          · exact Or.inr ⟨Or.inr h, hj⟩
        · rintro (h | ⟨rfl | h, hj⟩)
          · exact Or.inl (Or.inr h)
          · exact Or.inl (Or.inl rfl)
          · exact Or.inr ⟨h, hj⟩
      · rw [List.foldl_cons, hcount, hm, List.countP_cons_of_pos (by simpa using hq)]
        omega
    · have hm : markPort cfg rss ourIp queueId st i = st := if_neg hq
      refine ⟨fun j => ?_, ?_⟩
      · rw [List.foldl_cons, hbits, hm]
        have hij : ∀ h : queueForLocalPort cfg rss ourIp (ephPort j) = queueId, j ≠ i := by
          rintro h rfl
          exact hq h
        simp only [List.mem_cons]
        constructor
        · rintro (h | ⟨h, hj⟩)
          · exact Or.inl h
          · exact Or.inr ⟨Or.inr h, hj⟩
        · rintro (h | ⟨h, hj⟩)
          · exact Or.inl h
          · exact Or.inr ⟨h.resolve_left (hij hj), hj⟩
      · rw [List.foldl_cons, hcount, hm, List.countP_cons_of_neg (by simpa using hq)]

theorem ownsPort_ownedBitmap (queueId : UInt16) {port : UInt16} (h : ephBase ≤ port) :
    ownsPort (ownedBitmap cfg rss ourIp queueId) port = true ↔
      queueForLocalPort cfg rss ourIp port = queueId := by
  have hn := UInt16.not_lt.mpr h
  rw [ownsPort, dif_neg hn]
  rw [ownedBitmap, buildOwnedPorts, (foldl_markPort queueId _ _).1, ephPort_ephIndex]
  simp [OwnedBitmap.zeroed, testBit_replicate, List.mem_finRange]

lemma ownedCount_eq (queueId : UInt16) :
    ownedCount cfg rss ourIp queueId = (List.finRange ephLen).countP
      fun i => queueForLocalPort cfg rss ourIp (ephPort i) = queueId := by
  rw [ownedCount, buildOwnedPorts, (foldl_markPort queueId _ _).2, Nat.zero_add]

lemma countP_finRange {n : ℕ} (p : Fin n → Prop) [DecidablePred p] :
    (List.finRange n).countP (fun i => p i) = (Finset.univ.filter p).card := by
  rw [List.countP_eq_length_filter, Fin.univ_def]
  rfl

lemma ownedCount_eq_card (queueId : UInt16) :
    ownedCount cfg rss ourIp queueId = ((Finset.Ico 49152 65536).filter fun p =>
      queueForLocalPort cfg rss ourIp (UInt16.ofNat p) = queueId).card := by
  rw [ownedCount_eq, countP_finRange]
  refine Finset.card_bij (fun i _ => 49152 + i.val) ?_ ?_ ?_
  · intro i hi
    have hlt := i.isLt
    simp only [ephLen] at hlt
    rw [Finset.mem_filter, ephPort_eq_ofNat] at hi
    exact Finset.mem_filter.mpr ⟨Finset.mem_Ico.mpr ⟨by omega, by omega⟩, hi.2⟩
  · intro i _ j _ h
    exact Fin.ext (by omega)
  · intro p hp
    rw [Finset.mem_filter, Finset.mem_Ico] at hp
    have he : 49152 + (p - 49152) = p := by omega
    have hlt : p - 49152 < ephLen := by
      simp only [ephLen]
      omega
    refine ⟨⟨p - 49152, hlt⟩, ?_, he⟩
    rw [Finset.mem_filter, ephPort_eq_ofNat]
    exact ⟨Finset.mem_univ _, by rw [he]; exact hp.2⟩

end Worker

lemma sum_countP_eq_length {α : Type*} (f : α → ℕ) (l : List α) (n : ℕ) (h : ∀ x ∈ l, f x < n) :
    ∑ q ∈ Finset.range n, l.countP (fun x => f x = q) = l.length := by
  induction l with
  | nil => simp
  | cons x l ih =>
    have hx : f x < n := h x (by simp)
    simp only [List.countP_cons, Finset.sum_add_distrib, ih fun y hy => h y (by simp [hy]),
      decide_eq_true_eq, Finset.sum_ite_eq, Finset.mem_range, hx, if_true, List.length_cons]

theorem sum_ownedCount (cfg : Config) (rss : RssConfig) (ourIp : Ipv4Address) {n : ℕ}
    (hn : n ≤ 65536) (h : ∀ port, (queueForLocalPort cfg rss ourIp port).toNat < n) :
    ∑ q ∈ Finset.range n, ownedCount cfg rss ourIp (UInt16.ofNat q) = ephLen := by
  have hcount : ∀ q ∈ Finset.range n, ownedCount cfg rss ourIp (UInt16.ofNat q) =
      (List.finRange ephLen).countP
        fun i => (queueForLocalPort cfg rss ourIp (ephPort i)).toNat = q := by
    intro q hq
    have hlt : q < 65536 := lt_of_lt_of_le (Finset.mem_range.mp hq) hn
    rw [ownedCount_eq]
    apply List.countP_congr
    intro i _
    simp only [decide_eq_true_eq]
    rw [← UInt16.toNat_inj, UInt16.toNat_ofNat', Nat.mod_eq_of_lt hlt]
  rw [Finset.sum_congr rfl hcount, sum_countP_eq_length _ _ n fun i _ => h (ephPort i),
    List.length_finRange]

end SmoltcpS3.Rss
