import SmoltcpS3.Allocator.Heap

namespace SmoltcpS3.Allocator

open ByteMemory

structure Layout where
  size : UInt64
  align : UInt64
  pow : ∃ e, align.toNat = 2 ^ e
  limit : size.toNat + align.toNat ≤ 2 ^ 63

def Layout.resize (l : Layout) (newSize : UInt64) (h : newSize.toNat + l.align.toNat ≤ 2 ^ 63) : Layout where
  size := newSize
  align := l.align
  pow := l.pow
  limit := h

def alignedAddr (raw align : UInt64) : UInt64 := (raw + 8 + align - 1) &&& ~~~(align - 1)

def alloc (l : Layout) (c : Choice) (h : Heap) : Heap × UInt64 :=
  if l.align ≤ 16 then shimMalloc c l.size h
  else
    let extra := l.align + 8
    let (h, raw) := shimMalloc c (l.size + extra) h
    if raw = 0 then (h, raw)
    else
      let aligned := alignedAddr raw l.align
      ({ h with mem := writeWord h.mem (aligned - 8).toNat raw }, aligned)

def dealloc (ptr : UInt64) (l : Layout) (c : Choice) (h : Heap) : Heap :=
  if l.align ≤ 16 then shimFree c ptr h
  else shimFree c (readWord h.mem (ptr - 8).toNat) h

def realloc (ptr : UInt64) (l l' : Layout) (c c' : Choice) (h : Heap) : Heap × UInt64 :=
  if l.align ≤ 16 then shimRealloc c ptr l'.size h
  else
    let (h, newPtr) := alloc l' c h
    if newPtr ≠ 0 then
      let n := min l.size.toNat l'.size.toNat
      (dealloc ptr l c' { h with mem := copy h.mem ptr.toNat newPtr.toNat n }, newPtr)
    else (h, newPtr)

structure Allocation where
  ptr : UInt64
  layout : Layout

structure Backs (m : Memory) (a : Allocation) (b : Block) : Prop where
  ptr_ne : a.ptr ≠ 0
  aligned : a.layout.align.toNat ∣ a.ptr.toNat
  lo : b.base.toNat ≤ a.ptr.toNat
  hi : a.ptr.toNat + a.layout.size.toNat ≤ b.base.toNat + b.size.toNat
  plain : a.layout.align ≤ 16 → a.ptr = b.base ∧ b.size = a.layout.size
  slot : ¬ a.layout.align ≤ 16 → b.base.toNat + 8 ≤ a.ptr.toNat ∧
    readWord m (a.ptr.toNat - 8) = b.base

lemma Backs.congr_slot {m m' : Memory} {a : Allocation} {b : Block} (h : Backs m a b)
    (hk : b.base.toNat + 8 ≤ a.ptr.toNat → AgreeOn (a.ptr.toNat - 8) 8 m m') : Backs m' a b := by
  refine ⟨h.ptr_ne, h.aligned, h.lo, h.hi, h.plain, fun ha => ?_⟩
  obtain ⟨hle, hword⟩ := h.slot ha
  refine ⟨hle, ?_⟩
  rw [readWord_congr (hk hle), hword]

lemma Backs.congr {m m' : Memory} {a : Allocation} {b : Block} (h : Backs m a b)
    (hk : AgreeOn b.base.toNat b.size.toNat m m') : Backs m' a b := by
  apply h.congr_slot
  intro hle
  have hhi := h.hi
  exact hk.mono (by omega) (by omega)

lemma Backs.agreeOn {m m' m₀ : Memory} {a : Allocation} {b : Block} (h : Backs m₀ a b)
    (hk : AgreeOn b.base.toNat b.size.toNat m m') : AgreeOn a.ptr.toNat a.layout.size.toNat m m' :=
  hk.mono h.lo h.hi

section Arithmetic

lemma eight_toNat : (8 : UInt64).toNat = 8 := rfl

structure NoWrap (l : Layout) (raw : UInt64) : Prop where
  extra : (l.align + 8).toNat = l.align.toNat + 8
  total : (l.size + (l.align + 8)).toNat = l.size.toNat + l.align.toNat + 8
  rawAddr : (raw + 8).toNat = raw.toNat + 8
  sum : (raw + 8 + l.align).toNat = raw.toNat + 8 + l.align.toNat
  minusOne : (raw + 8 + l.align - 1).toNat = raw.toNat + 8 + l.align.toNat - 1
  mask : (l.align - 1).toNat = l.align.toNat - 1
  slot : (alignedAddr raw l.align - 8).toNat = (alignedAddr raw l.align).toNat - 8

variable {l : Layout} {b : Block} (hb : b.Placed) (hsize : b.size = l.size + (l.align + 8))
include hsize

lemma total_toNat : b.size.toNat = l.size.toNat + l.align.toNat + 8 := by
  have hl := l.limit
  rw [hsize, UInt64.toNat_add, UInt64.toNat_add, eight_toNat]
  omega

include hb

lemma rawAddr_toNat : (b.base + 8).toNat = b.base.toNat + 8 := by
  have hstop := hb.2.2
  have htotal := total_toNat hsize
  rw [Block.stop] at hstop
  rw [UInt64.toNat_add, eight_toNat]
  omega

lemma alignedAddr_spec :
    b.base.toNat + 8 ≤ (alignedAddr b.base l.align).toNat ∧
      (alignedAddr b.base l.align).toNat + l.size.toNat ≤ b.base.toNat + b.size.toNat ∧
      l.align.toNat ∣ (alignedAddr b.base l.align).toNat := by
  obtain ⟨e, he⟩ := l.pow
  have hstop := hb.2.2
  have htotal := total_toNat hsize
  have hraw := rawAddr_toNat hb hsize
  rw [Block.stop] at hstop
  obtain ⟨_, hge, hlt, hdvd⟩ := roundUp_spec he (x := b.base + 8) (by omega)
  rw [alignedAddr]
  exact ⟨by omega, by omega, hdvd⟩

omit hb hsize in
example : alignedAddr 4112 64 = 4160 := by decide

lemma noWrap : NoWrap l b.base := by
  obtain ⟨e, he⟩ := l.pow
  have hl := l.limit
  have hstop := hb.2.2
  have htotal := total_toNat hsize
  have hraw := rawAddr_toNat hb hsize
  have hspec := alignedAddr_spec hb hsize
  have hpos : 0 < l.align.toNat := he ▸ Nat.two_pow_pos e
  rw [Block.stop] at hstop
  obtain ⟨hsum, _⟩ := roundUp_spec he (x := b.base + 8) (by omega)
  refine ⟨?_, hsize ▸ htotal, hraw, ?_, ?_, ?_, ?_⟩
  · rw [UInt64.toNat_add, eight_toNat]
    omega
  · rw [UInt64.toNat_add, hraw]
    omega
  · rw [hsum, hraw]
  · rw [UInt64.toNat_sub_of_le _ _ (UInt64.le_iff_toNat_le.mpr (by rw [UInt64.toNat_one]; omega)), UInt64.toNat_one]
  · rw [UInt64.toNat_sub_of_le _ _ (UInt64.le_iff_toNat_le.mpr (by rw [eight_toNat]; omega)), eight_toNat]

end Arithmetic

lemma slot_toNat {ptr : UInt64} (h : 8 ≤ ptr.toNat) : (ptr - 8).toNat = ptr.toNat - 8 := by
  have hle : (8 : UInt64) ≤ ptr := UInt64.le_iff_toNat_le.mpr h
  rw [UInt64.toNat_sub_of_le _ _ hle, eight_toNat]

lemma ne_zero_of_toNat_pos {x : UInt64} (h : 0 < x.toNat) : x ≠ 0 := by
  rintro rfl
  exact h.false

lemma backs_plain {l : Layout} {b : Block} (hb : b.Placed) (hsize : b.size = l.size) (ha : l.align ≤ 16)
    (m : Memory) : Backs m ⟨b.base, l⟩ b where
  ptr_ne := hb.1
  aligned := by
    obtain ⟨e, he⟩ := l.pow
    have hle : 2 ^ e ≤ 2 ^ 4 := he ▸ UInt64.le_iff_toNat_le.mp ha
    have he4 : e ≤ 4 := (Nat.pow_le_pow_iff_right (by decide)).mp hle
    have hdvd : 2 ^ e ∣ 16 := Nat.pow_dvd_pow 2 he4
    rw [he]
    exact hdvd.trans hb.2.1
  lo := le_rfl
  hi := by rw [hsize]
  plain _ := ⟨rfl, hsize⟩
  slot h := absurd ha h

lemma backs_slot {l : Layout} {b : Block} (hb : b.Placed) (hsize : b.size = l.size + (l.align + 8))
    (ha : ¬ l.align ≤ 16) (m : Memory) :
    Backs (writeWord m (alignedAddr b.base l.align - 8).toNat b.base) ⟨alignedAddr b.base l.align, l⟩ b := by
  obtain ⟨hlo, hhi, hdvd⟩ := alignedAddr_spec hb hsize
  refine ⟨ne_zero_of_toNat_pos (by dsimp only; omega), hdvd, by dsimp only; omega, hhi,
    fun h => absurd h ha, fun _ => ⟨hlo, ?_⟩⟩
  dsimp only
  rw [slot_toNat (by omega), readWord_writeWord]

def Refused (h : Heap) (r : Heap × UInt64) : Prop :=
  r.2 = 0 ∧ r.1.blocks = h.blocks ∧ r.1.log = h.log ∧ Kept h.blocks h.mem r.1.mem

def Moved (h : Heap) (i : ℕ) (a : Allocation) (l' : Layout) (r : Heap × UInt64) : Prop :=
  ∃ b', r.1.blocks = h.blocks.eraseIdx i ++ [b'] ∧ Backs r.1.mem ⟨r.2, l'⟩ b' ∧
    Kept (h.blocks.eraseIdx i) h.mem r.1.mem ∧
    ∀ k < min a.layout.size.toNat l'.size.toNat,
      r.1.mem (r.2.toNat + k) = h.mem (a.ptr.toNat + k)

section Specs

variable {h : Heap} (hi : h.Inv)
include hi

lemma alloc_spec (l : Layout) (c : Choice) :
    (alloc l c h).1.Inv ∧ Kept h.blocks h.mem (alloc l c h).1.mem ∧
      ((alloc l c h).2 = 0 ∧ (alloc l c h).1.blocks = h.blocks ∧ (alloc l c h).1.log = h.log ∨
        ∃ b, Fresh b h.blocks ∧ (alloc l c h).1.blocks = h.blocks ++ [b] ∧
          Backs (alloc l c h).1.mem ⟨(alloc l c h).2, l⟩ b) := by
  rw [alloc]
  split_ifs with ha
  · obtain ⟨hinv, hkept, hnull | ⟨b, hf, hsize, hptr, hblocks⟩⟩ := shimMalloc_spec hi c l.size
    · exact ⟨hinv, hkept, Or.inl hnull⟩
    · refine ⟨hinv, hkept, Or.inr ⟨b, hf, hblocks, ?_⟩⟩
      rw [hptr]
      exact backs_plain hf.1 hsize ha _
  · have hspec := shimMalloc_spec hi c (l.size + (l.align + 8))
    dsimp only
    generalize shimMalloc c (l.size + (l.align + 8)) h = r at hspec
    obtain ⟨h', raw⟩ := r
    obtain ⟨hinv, hkept, ⟨hz, hblocks, hlog⟩ | ⟨b, hf, hsize, hptr, hblocks⟩⟩ := hspec
    · dsimp only at hz
      rw [hz, if_pos rfl]
      exact ⟨hinv, hkept, Or.inl ⟨rfl, hblocks, hlog⟩⟩
    · dsimp only at hptr hkept hblocks
      rw [hptr, if_neg hf.1.1]
      refine ⟨hinv.setMem _, ?_, Or.inr ⟨b, hf, hblocks, backs_slot hf.1 hsize ha _⟩⟩
      -- The back pointer is written inside the new block, which is apart from the old ones.
      intro b' hb'
      apply (hkept b' hb').trans
      apply agreeOn_writeWord
      obtain ⟨hlo, hhi, _⟩ := alignedAddr_spec hf.1 hsize
      have hapart := (hf.2 b' hb').ranges
      dsimp only
      rw [slot_toNat (by omega)]
      omega

lemma dealloc_spec {i : ℕ} {a : Allocation} {b : Block} (hb : h.blocks[i]? = some b)
    (ha : Backs h.mem a b) (c : Choice) :
    (dealloc a.ptr a.layout c h).Inv ∧
      Kept (h.blocks.eraseIdx i) h.mem (dealloc a.ptr a.layout c h).mem ∧
      (dealloc a.ptr a.layout c h).blocks = h.blocks.eraseIdx i := by
  have hbase : dealloc a.ptr a.layout c h = shimFree c b.base h := by
    rw [dealloc]
    split_ifs with hle
    · rw [(ha.plain hle).1]
    · obtain ⟨hlo, hword⟩ := ha.slot hle
      rw [slot_toNat (by omega), hword]
  rw [hbase]
  exact shimFree_spec hi hb c

lemma realloc_plain {i : ℕ} {a : Allocation} {b : Block} (hb : h.blocks[i]? = some b)
    (ha : Backs h.mem a b) (hle : a.layout.align ≤ 16) {l' : Layout} (hl : l'.align = a.layout.align)
    (c : Choice) :
    (shimRealloc c a.ptr l'.size h).1.Inv ∧ (Refused h (shimRealloc c a.ptr l'.size h) ∨
      Moved h i a l' (shimRealloc c a.ptr l'.size h)) := by
  obtain ⟨hptr, hsize⟩ := ha.plain hle
  obtain ⟨hinv, hnull | ⟨b', hf, hsize', hres, hblocks, hkept, hbytes⟩⟩ :=
    shimRealloc_spec hi hb c l'.size
  · rw [hptr]
    exact ⟨hinv, Or.inl hnull⟩
  · rw [Moved, hptr, hres, ← hsize]
    exact ⟨hinv, Or.inr ⟨b', hblocks, backs_plain hf.1 hsize' (hl ▸ hle) _, hkept, hbytes⟩⟩

omit hi in
lemma copy_then_dealloc {i : ℕ} {a : Allocation} {b : Block} (hb : h.blocks[i]? = some b)
    (ha : Backs h.mem a b) {h₁ : Heap} (hinv : h₁.Inv) (hkept : Kept h.blocks h.mem h₁.mem)
    {p : UInt64} {l' : Layout} {b' : Block} (hf : Fresh b' h.blocks)
    (hblocks : h₁.blocks = h.blocks ++ [b']) (hback : Backs h₁.mem ⟨p, l'⟩ b') (c' : Choice) :
    let m := copy h₁.mem a.ptr.toNat p.toNat (min a.layout.size.toNat l'.size.toNat)
    (dealloc a.ptr a.layout c' { h₁ with mem := m }).Inv ∧
      Moved h i a l' (dealloc a.ptr a.layout c' { h₁ with mem := m }, p) := by
  intro m
  have hlt : i < h.blocks.length := (List.getElem?_eq_some_iff.mp hb).1
  have hmem : b ∈ h.blocks := List.mem_of_getElem? hb
  -- The copy stays inside the new allocation, so it touches neither an old block nor a back pointer.
  have hcopied : Kept h.blocks h.mem m := by
    intro b₀ hb₀
    apply (hkept b₀ hb₀).trans
    apply agreeOn_copy
    have hapart := (hf.2 b₀ hb₀).ranges
    have hlo := hback.lo
    have hhi := hback.hi
    dsimp only at hlo hhi
    omega
  have hback' : Backs m ⟨p, l'⟩ b' := by
    apply hback.congr_slot
    intro hge
    apply agreeOn_copy
    dsimp only at hge ⊢
    omega
  have hb₁ : ({ h₁ with mem := m } : Heap).blocks[i]? = some b := by
    rw [hblocks, List.getElem?_append_left hlt, hb]
  have herase : h₁.blocks.eraseIdx i = h.blocks.eraseIdx i ++ [b'] := by
    rw [hblocks, List.eraseIdx_append_of_lt_length hlt]
  obtain ⟨hinv₂, hkept₂, hblocks₂⟩ := dealloc_spec (hinv.setMem m) hb₁ (ha.congr (hcopied b hmem)) c'
  dsimp only at hkept₂ hblocks₂
  rw [herase] at hkept₂ hblocks₂
  have hnew := hkept₂ b' (by simp)
  refine ⟨hinv₂, b', hblocks₂, hback'.congr hnew, ?_, ?_⟩
  · intro b₀ hb₀
    exact (hcopied b₀ (List.mem_of_mem_eraseIdx hb₀)).trans (hkept₂ b₀ (List.mem_append_left _ hb₀))
  · intro k hk
    have hu := hback.agreeOn hnew (p.toNat + k) (by dsimp only; omega) (by dsimp only; omega)
    have hold := ha.agreeOn (hkept b hmem) (a.ptr.toNat + k) (by omega) (by omega)
    dsimp only
    rw [hu, ← hold]
    exact copy_apply _ _ _ hk

lemma realloc_spec {i : ℕ} {a : Allocation} {b : Block} (hb : h.blocks[i]? = some b)
    (ha : Backs h.mem a b) {l' : Layout} (hl : l'.align = a.layout.align) (c c' : Choice) :
    (realloc a.ptr a.layout l' c c' h).1.Inv ∧ (Refused h (realloc a.ptr a.layout l' c c' h) ∨
      Moved h i a l' (realloc a.ptr a.layout l' c c' h)) := by
  rw [realloc]
  split_ifs with hle
  · exact realloc_plain hi hb ha hle hl c
  · have hspec := alloc_spec hi l' c
    generalize alloc l' c h = r at hspec
    obtain ⟨h₁, p⟩ := r
    obtain ⟨hinv, hkept, ⟨hz, hblocks, hlog⟩ | ⟨b', hf, hblocks, hback⟩⟩ := hspec
    · dsimp only at hz ⊢
      rw [if_neg (not_not.mpr hz)]
      exact ⟨hinv, Or.inl ⟨hz, hblocks, hlog, hkept⟩⟩
    · dsimp only
      have hne : p ≠ 0 := hback.ptr_ne
      rw [if_pos hne]
      have hmoved := copy_then_dealloc hb ha hinv hkept hf hblocks hback c'
      exact ⟨hmoved.1, Or.inr hmoved.2⟩

end Specs

end SmoltcpS3.Allocator
