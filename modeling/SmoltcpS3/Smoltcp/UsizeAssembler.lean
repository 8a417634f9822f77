import SmoltcpS3.Smoltcp.Assembler

namespace SmoltcpS3.Smoltcp

open EventRuns GapRuns

lemma toNat_add_of_lt {a b : UInt64} (h : a.toNat + b.toNat < 2 ^ 64) : (a + b).toNat = a.toNat + b.toNat := by
  rw [UInt64.toNat_add, Nat.mod_eq_of_lt h]

namespace Contig

def exact (c : Contig UInt64) : Contig ℕ := ⟨c.holeSize.toNat, c.dataSize.toNat⟩

@[simp] lemma exact_empty : exact empty = empty := rfl

lemma toNat_bne_zero (x : UInt64) : (x.toNat != 0) = (x != 0) := by
  rw [Bool.eq_iff_iff, bne_iff_ne, bne_iff_ne, ne_eq, ne_eq, ← UInt64.toNat_inj, UInt64.toNat_zero]

@[simp] lemma hasHole_exact (c : Contig UInt64) : c.exact.hasHole = c.hasHole := toNat_bne_zero c.holeSize

@[simp] lemma hasData_exact (c : Contig UInt64) : c.exact.hasData = c.hasData := toNat_bne_zero c.dataSize

lemma holeSize_le_totalSize (c : Contig ℕ) : c.holeSize ≤ c.totalSize := Nat.le_add_right _ _

lemma totalSize_exact {c : Contig UInt64} (h : c.exact.totalSize < 2 ^ 64) : c.totalSize.toNat = c.exact.totalSize :=
  toNat_add_of_lt h

lemma toNat_sub_totalSize {c : Contig UInt64} {x : UInt64} (h : c.exact.totalSize ≤ x.toNat) :
    (x - c.totalSize).toNat = x.toNat - c.exact.totalSize := by
  have htotal := totalSize_exact (h.trans_lt x.toNat_lt)
  rw [UInt64.toNat_sub_of_le _ _ (UInt64.le_iff_toNat_le.mpr (by omega)), htotal]

lemma shrinkHoleBy_exact {c : Contig UInt64} {size : UInt64} (h : size.toNat ≤ c.holeSize.toNat) :
    (c.shrinkHoleBy size).exact = c.exact.shrinkHoleBy size.toNat := by
  rw [shrinkHoleBy, shrinkHoleBy, exact, exact, UInt64.toNat_sub_of_le _ _ (UInt64.le_iff_toNat_le.mpr h)]

lemma shrinkHoleTo_exact {c : Contig UInt64} {size : UInt64} (h : c.exact.totalSize < 2 ^ 64)
    (hs : size.toNat ≤ c.exact.totalSize) : (c.shrinkHoleTo size).exact = c.exact.shrinkHoleTo size.toNat := by
  have htotal := totalSize_exact h
  rw [shrinkHoleTo, shrinkHoleTo, exact, UInt64.toNat_sub_of_le _ _ (UInt64.le_iff_toNat_le.mpr (by omega)), htotal]

end Contig

namespace Slots

def exact (slots : Slots UInt64) : Slots ℕ := slots.map Contig.exact

@[simp] lemma exact_nil : exact [] = [] := rfl

@[simp] lemma exact_cons (c : Contig UInt64) (cs : Slots UInt64) : exact (c :: cs) = c.exact :: exact cs := rfl

def total (slots : Slots ℕ) : ℕ := span (slots.map Contig.pair)

@[simp] lemma total_cons (c : Contig ℕ) (cs : Slots ℕ) : total (c :: cs) = c.totalSize + total cs := rfl

lemma total_ofPairs (ps : List (ℕ × ℕ)) (k : ℕ) : total (ofPairs ps k) = span ps := by
  induction ps with
  | nil =>
    induction k with
    | zero => rfl
    | succ k ih =>
      rw [ofPairs] at ih ⊢
      exact (Nat.zero_add _).trans ih
  | cons p ps ih =>
    rw [ofPairs_cons, total_cons, ih]
    rfl

lemma removeContigAt_exact (slots : Slots UInt64) : exact (removeContigAt slots) = removeContigAt (exact slots) := by
  induction slots with
  | nil => rfl
  | cons c cs ih =>
    cases cs with
    | nil => rfl
    | cons d ds =>
      rw [exact_cons, exact_cons, removeContigAt, removeContigAt, Contig.hasData_exact]
      split_ifs
      · rw [exact_cons, ih, exact_cons]
      · rfl

lemma addContigAt_exact (new : Contig UInt64) (slots : Slots UInt64) :
    (addContigAt new slots).map exact = addContigAt new.exact (exact slots) := by
  have hback : (exact slots).getLastD Contig.empty = (slots.getLastD Contig.empty).exact := by
    rw [exact, List.getLastD_eq_getLast?, List.getLastD_eq_getLast?, List.getLast?_map]
    cases slots.getLast? <;> rfl
  rw [addContigAt, addContigAt, hback, Contig.hasData_exact]
  split_ifs
  · rfl
  · rw [Option.map_some, exact_cons, exact, exact, List.map_dropLast]

lemma eq_of_addContigAt {new c : Contig UInt64} {cs slots : Slots UInt64} (hc : c.hasData = true)
    (h : addContigAt new (c :: cs) = some slots) : slots = new :: c :: cs.dropLast := by
  cases cs with
  | nil => simp [addContigAt, hc] at h
  | cons d ds =>
    rw [addContigAt] at h
    split_ifs at h
    exact (Option.some.inj h).symm

lemma getElem?_exact_getD (slots : Slots UInt64) (i : ℕ) :
    (exact slots)[i]?.getD Contig.empty = (slots[i]?.getD Contig.empty).exact := by
  rw [exact, List.getElem?_map]
  cases slots[i]? <;> rfl

lemma shiftDown_exact (shift : ℕ) (slots : Slots UInt64) :
    exact (shiftDown shift slots) = shiftDown shift (exact slots) := by
  induction slots with
  | nil => rfl
  | cons d ds ih =>
    rw [exact_cons, shiftDown, shiftDown, Contig.hasData_exact]
    split_ifs
    · rw [exact_cons, ih, ← exact_cons, getElem?_exact_getD]
    · rfl

lemma shrinkNext_exact {size : UInt64} {slots : Slots UInt64}
    (h : ∀ d ∈ (exact slots).head?, d.hasData = true → size.toNat ≤ d.holeSize) :
    exact (shrinkNext size slots) = shrinkNext size.toNat (exact slots) := by
  cases slots with
  | nil => rfl
  | cons d ds =>
    rw [exact_cons, shrinkNext, shrinkNext, Contig.hasData_exact]
    split_ifs with hd
    · have hle := h d.exact rfl (by rwa [Contig.hasData_exact])
      rw [exact_cons, Contig.shrinkHoleBy_exact hle]
    · rfl

lemma coalesce_exact (stop : UInt64) (c : Contig UInt64) (cs : Slots UInt64)
    (h : c.exact.totalSize + total (exact cs) < 2 ^ 64) :
    coalesce stop.toNat c.exact (exact cs) = ((coalesce stop c cs).1.exact, (coalesce stop c cs).2) := by
  induction cs generalizing c with
  | nil => rfl
  | cons d ds ih =>
    rw [exact_cons, total_cons] at h
    have hd : d.exact.totalSize = d.holeSize.toNat + d.dataSize.toNat := rfl
    have hc : c.exact.totalSize = c.holeSize.toNat + c.dataSize.toNat := rfl
    have htotal := Contig.totalSize_exact (c := c) (by omega)
    have htaken : Contig.exact { c with dataSize := c.dataSize + d.totalSize } =
        { c.exact with dataSize := c.exact.dataSize + d.exact.totalSize } := by
      have hdtotal := Contig.totalSize_exact (c := d) (by omega)
      rw [Contig.exact, toNat_add_of_lt (by omega), hdtotal]
      rfl
    have hle : c.totalSize + d.holeSize ≤ stop ↔ c.exact.totalSize + d.exact.holeSize ≤ stop.toNat := by
      rw [UInt64.le_iff_toNat_le, toNat_add_of_lt (by omega), htotal]
      rfl
    rw [exact_cons, coalesce, coalesce, Contig.hasData_exact]
    by_cases hloop : d.hasData = true ∧ c.totalSize + d.holeSize ≤ stop
    · have hrest := ih { c with dataSize := c.dataSize + d.totalSize } (by
        rw [htaken]
        change c.holeSize.toNat + (c.dataSize.toNat + d.exact.totalSize) + _ < _
        omega)
      rw [htaken] at hrest
      rw [if_pos hloop, if_pos ⟨hloop.1, hle.mp hloop.2⟩, hrest]
    · rw [if_neg hloop, if_neg fun h => hloop ⟨h.1, hle.mpr h.2⟩]

section Pairs

variable {ps : List (ℕ × ℕ)} {k : ℕ} {cs : Slots UInt64}

lemma eq_cons_of_hasData {c : Contig ℕ} {slots : Slots ℕ} (h : c :: slots = ofPairs ps k) (hc : c.hasData = true) :
    ∃ p qs, ps = p :: qs ∧ c = Contig.ofPair p ∧ slots = ofPairs qs k := by
  cases ps with
  | nil =>
    have hmem : c ∈ List.replicate k Contig.empty := by
      have hhead : c ∈ c :: slots := List.mem_cons_self
      rwa [h] at hhead
    rw [List.eq_of_mem_replicate hmem] at hc
    exact absurd hc Bool.false_ne_true
  | cons p qs => exact ⟨p, qs, rfl, (List.cons.inj h).1, (List.cons.inj h).2⟩

lemma head_hole_lt {stop t : ℕ} (hstop : ∀ p ∈ ps.head?, stop < t + p.1) :
    ∀ d ∈ (ofPairs ps k).head?, d.hasData = true → stop < t + d.holeSize := by
  intro d hd hdata
  obtain ⟨slots, hslots⟩ := List.head?_eq_some_iff.mp hd
  obtain ⟨p, qs, rfl, rfl, _⟩ := eq_cons_of_hasData hslots.symm hdata
  exact hstop p rfl

lemma extend_exact {stop : UInt64} {c : Contig UInt64} (hcs : exact cs = ofPairs ps k) (hr : ∀ p ∈ ps, 0 < p.2)
    (h : c.exact.totalSize + span ps < 2 ^ 64) :
    exact (extend stop c cs) = extend stop.toNat c.exact (exact cs) := by
  have hstop := stop.toNat_lt
  have hloop := coalesce_exact stop c cs (by rwa [hcs, total_ofPairs])
  obtain ⟨hm, hhole, habs, hlt⟩ := coalesce_ofPairs (k := k) stop.toNat c.exact hr
  rw [← hcs, hloop] at hm hhole habs hlt
  rw [extend, extend, hloop]
  generalize coalesce stop c cs = r at hm hhole habs hlt ⊢
  obtain ⟨c', m⟩ := r
  dsimp only at hm hhole habs hlt ⊢
  have hc : c'.exact.totalSize = c'.holeSize.toNat + c'.dataSize.toNat := rfl
  have hspan : max (c.exact.totalSize + span ps) stop.toNat = max (c'.exact.totalSize + span (ps.drop m)) stop.toNat := by
    rw [← span_absorb ps c.exact.holeSize_le_totalSize, habs, span_absorb]
    rw [← hhole]
    exact c'.exact.holeSize_le_totalSize
  have htotal := Contig.totalSize_exact (c := c') (by omega)
  have hcs' : exact (if m ≠ 0 then shiftDown m cs else cs) = if m ≠ 0 then shiftDown m (exact cs) else exact cs := by
    rw [apply_ite exact, shiftDown_exact]
  have hdrop : exact (if m ≠ 0 then shiftDown m cs else cs) = ofPairs (ps.drop m) (k + m) := by
    rw [hcs', hcs]
    split_ifs with h0
    · rw [shiftDown_ofPairs hr, Nat.min_eq_left hm]
    · rw [show m = 0 by omega, List.drop_zero, Nat.add_zero]
  by_cases hleft : c'.exact.totalSize < stop.toNat
  · have hsub := Contig.toNat_sub_totalSize hleft.le
    rw [if_pos (UInt64.lt_iff_toNat_lt.mpr (by omega)), if_pos hleft, exact_cons, shrinkNext_exact, hsub, hcs',
      Contig.exact, toNat_add_of_lt (by omega), hsub]
    · rfl
    · intro d hd hdata
      rw [hdrop] at hd
      have hroom := head_hole_lt hlt d hd hdata
      omega
  · rw [if_neg fun hl => hleft (by have := UInt64.lt_iff_toNat_lt.mp hl; omega), if_neg hleft, exact_cons, hcs']

/-- While neither the range nor the contigs reach past `usize`, `add` computes without wrapping. -/
theorem add_exact {offset size : UInt64} {slots : Slots UInt64} (hslots : exact slots = ofPairs ps k)
    (hr : ∀ p ∈ ps, 0 < p.2) (hspan : span ps < 2 ^ 64) (hrange : offset.toNat + size.toNat < 2 ^ 64) :
    (add offset size slots).map exact = add offset.toNat size.toNat (exact slots) := by
  induction slots generalizing offset ps with
  | nil => rfl
  | cons c cs ih =>
    rw [exact_cons, add, add, Contig.hasData_exact]
    by_cases hdata : c.hasData = true
    · obtain ⟨p, ps, rfl, hp, hcs⟩ := eq_cons_of_hasData hslots (by rwa [Contig.hasData_exact])
      have hr' : ∀ q ∈ ps, 0 < q.2 := fun q hq => hr q (List.mem_cons_of_mem p hq)
      have hpt : c.exact.totalSize = p.1 + p.2 := by rw [hp]; rfl
      rw [span] at hspan
      have htotal := Contig.totalSize_exact (c := c) (by omega)
      have hhole : c.exact.holeSize = c.holeSize.toNat := rfl
      have hstop := toNat_add_of_lt hrange
      have hle : offset ≤ c.totalSize ↔ offset.toNat ≤ c.exact.totalSize := by
        rw [UInt64.le_iff_toNat_le, htotal]
      have hin : offset + size < c.holeSize ↔ offset.toNat + size.toNat < c.exact.holeSize := by
        rw [UInt64.lt_iff_toNat_lt, hstop, hhole]
      rw [if_pos hdata, if_pos hdata]
      by_cases ho : offset ≤ c.totalSize
      · rw [if_pos ho, if_pos (hle.mp ho)]
        by_cases hlt : offset < c.holeSize
        · rw [if_pos hlt, if_pos (show offset.toNat < c.exact.holeSize from UInt64.lt_iff_toNat_lt.mp hlt)]
          by_cases hend : offset + size < c.holeSize
          · have hnew := addContigAt_exact ⟨offset, size⟩ (c :: cs)
            rw [if_pos hend, if_pos (hin.mp hend), ← hstop]
            rw [exact_cons] at hnew
            rw [show (⟨offset.toNat, size.toNat⟩ : Contig ℕ) = Contig.exact ⟨offset, size⟩ from rfl, ← hnew]
            cases hadd : addContigAt ⟨offset, size⟩ (c :: cs) with
            | none => rfl
            | some slots =>
              cases eq_of_addContigAt hdata hadd
              have hshrink := Contig.shrinkHoleBy_exact (le_of_lt (UInt64.lt_iff_toNat_lt.mp hend))
              simp only [Option.map_some, exact_cons, hshrink]
          · have hshrink := Contig.shrinkHoleTo_exact (c := c) (by omega) (hle.mp ho)
            have htotal' : (c.exact.shrinkHoleTo offset.toNat).totalSize = c.exact.totalSize :=
              Nat.add_sub_cancel' (hle.mp ho)
            rw [if_neg hend, if_neg fun h => hend (hin.mpr h), Option.map_some,
              extend_exact hcs hr' (by rw [hshrink, htotal']; omega), hstop, hshrink]
        · have hlt' : ¬ offset.toNat < c.exact.holeSize := fun h => hlt (UInt64.lt_iff_toNat_lt.mpr h)
          rw [if_neg hlt, if_neg hlt', Option.map_some, extend_exact hcs hr' (by omega), hstop]
      · rw [if_neg ho, if_neg fun h => ho (hle.mpr h)]
        have hlt : c.exact.totalSize < offset.toNat := by
          rw [hle] at ho
          exact Nat.lt_of_not_le ho
        have hsub := Contig.toNat_sub_totalSize hlt.le
        rw [← hsub, ← ih hcs hr' (by omega) (by omega), Option.map_map, Option.map_map]
        rfl
    · rw [if_neg hdata, if_neg hdata]
      rfl

end Pairs

end Slots

structure UsizeRange where
  offset : UInt64
  size : UInt64
  end_lt : offset.toNat + size.toNat < 2 ^ 64

structure UsizeAssembler (n : ℕ) where
  contigs : Slots UInt64
  wf : contigs.exact.WellFormed n
  total_lt : contigs.exact.total < 2 ^ 64

namespace UsizeAssembler

variable {n : ℕ}

def exact (a : UsizeAssembler n) : Assembler n := ⟨a.contigs.exact, a.wf⟩

def Present (a : UsizeAssembler n) (x : ℕ) : Prop := a.exact.Present x

lemma exact_contigs (a : UsizeAssembler n) :
    a.contigs.exact = Slots.ofPairs a.exact.runs (n - a.exact.runs.length) := a.exact.eq_ofPairs

lemma span_lt (a : UsizeAssembler n) : span a.exact.runs < 2 ^ 64 := by
  have h := a.total_lt
  rwa [exact_contigs, Slots.total_ofPairs] at h

def new (n : ℕ) : UsizeAssembler n where
  contigs := List.replicate n Contig.empty
  wf := by
    rw [Slots.exact, List.map_replicate]
    exact (Assembler.new n).wf
  total_lt := by
    rw [Slots.exact, List.map_replicate]
    have h := Slots.total_ofPairs [] n
    rw [Slots.ofPairs, List.map_nil, List.nil_append] at h
    rw [Contig.exact_empty, h]
    decide

lemma exact_new (n : ℕ) : (new n).exact = Assembler.new n := by
  apply Assembler.ext
  change Slots.exact (List.replicate n Contig.empty) = _
  rw [Slots.exact, List.map_replicate]
  rfl

def front (a : UsizeAssembler n) : Contig UInt64 := a.contigs.headD Contig.empty

lemma exact_front (a : UsizeAssembler n) : a.front.exact = a.exact.front := by
  rw [front, Assembler.front, show a.exact.contigs = a.contigs.exact from rfl]
  cases a.contigs <;> rfl

lemma add_slots_exact (a : UsizeAssembler n) (r : UsizeRange) :
    (Slots.add r.offset r.size a.contigs).map Slots.exact =
      Slots.add r.offset.toNat r.size.toNat a.contigs.exact :=
  Slots.add_exact a.exact_contigs a.exact.canonical.run_pos a.span_lt r.end_lt

lemma toNat_pos_of_ne_zero {x : UInt64} (h : x ≠ 0) : 0 < x.toNat := by
  rw [Nat.pos_iff_ne_zero]
  exact fun h0 => h (UInt64.toNat_inj.mp h0)

lemma wf_add {a : UsizeAssembler n} {r : UsizeRange} (hs : r.size ≠ 0) {slots : Slots UInt64}
    (h : Slots.add r.offset r.size a.contigs = some slots) :
    slots.exact.WellFormed n ∧ slots.exact.total < 2 ^ 64 := by
  have hadd := a.add_slots_exact r
  rw [h, Option.map_some] at hadd
  obtain ⟨hc, hn, heq⟩ := Assembler.wf_add (a := a.exact) (toNat_pos_of_ne_zero hs) hadd.symm
  rw [heq]
  refine ⟨(Assembler.ofRuns _ hc hn).wf, ?_⟩
  rw [Assembler.ofRuns, Slots.total_ofPairs, span_insertRange]
  exact Nat.max_lt.mpr ⟨a.span_lt, r.end_lt⟩

def add (r : UsizeRange) (a : UsizeAssembler n) : Option (UsizeAssembler n) :=
  if hs : r.size = 0 then some a
  else (Slots.add r.offset r.size a.contigs).pmap (fun slots h => ⟨slots, h.1, h.2⟩) fun _ h => wf_add hs h

lemma wf_remove {a : UsizeAssembler n} (h : a.front.hasData = true) :
    a.contigs.removeContigAt.exact.WellFormed n ∧ a.contigs.removeContigAt.exact.total < 2 ^ 64 := by
  have hspan := a.span_lt
  rw [← Contig.hasData_exact, exact_front] at h
  obtain ⟨p, ps, hps, _, hc, hn, heq⟩ := Assembler.wf_remove h
  rw [Slots.removeContigAt_exact, show a.contigs.exact = a.exact.contigs from rfl, heq]
  refine ⟨(Assembler.ofRuns ps hc hn).wf, ?_⟩
  rw [Assembler.ofRuns, Slots.total_ofPairs]
  rw [hps, span] at hspan
  omega

def removeFront (a : UsizeAssembler n) : UInt64 × UsizeAssembler n :=
  if h : a.front.hasHole = false ∧ a.front.hasData = true then
    (a.front.dataSize, ⟨a.contigs.removeContigAt, (wf_remove h.2).1, (wf_remove h.2).2⟩)
  else (0, a)

lemma exact_shrink {a : UsizeAssembler n} {size : UInt64} (h : size < a.front.holeSize) :
    Slots.exact (a.contigs.modifyHead (·.shrinkHoleBy size)) =
      a.contigs.exact.modifyHead (·.shrinkHoleBy size.toNat) := by
  rw [front] at h
  cases hcs : a.contigs with
  | nil => rfl
  | cons c cs =>
    rw [hcs] at h
    have hle : size.toNat ≤ c.holeSize.toNat := le_of_lt (UInt64.lt_iff_toNat_lt.mp h)
    rw [List.modifyHead_cons, Slots.exact_cons, Contig.shrinkHoleBy_exact hle]
    rfl

lemma wf_shrink {a : UsizeAssembler n} {size : UInt64} (h : size < a.front.holeSize) :
    Slots.WellFormed n (Slots.exact (a.contigs.modifyHead (·.shrinkHoleBy size))) ∧
      Slots.total (Slots.exact (a.contigs.modifyHead (·.shrinkHoleBy size))) < 2 ^ 64 := by
  have hspan := a.span_lt
  have hlt : size.toNat < a.exact.front.holeSize := by
    rw [← exact_front]
    exact UInt64.lt_iff_toNat_lt.mp h
  obtain ⟨p, ps, hps, _, hc, hn, heq⟩ := Assembler.wf_shrink hlt
  rw [exact_shrink h, show a.contigs.exact = a.exact.contigs from rfl, heq]
  refine ⟨(Assembler.ofRuns _ hc hn).wf, ?_⟩
  rw [Assembler.ofRuns, Slots.total_ofPairs, span]
  rw [hps, span] at hspan
  dsimp only
  omega

def addThenRemoveFront (r : UsizeRange) (a : UsizeAssembler n) : Option (UInt64 × UsizeAssembler n) :=
  if h : r.offset = 0 ∧ r.size < a.front.holeSize then
    some (r.size, ⟨a.contigs.modifyHead (·.shrinkHoleBy r.size), (wf_shrink h.2).1, (wf_shrink h.2).2⟩)
  else (a.add r).map removeFront

theorem exact_add (a : UsizeAssembler n) (r : UsizeRange) :
    (a.add r).map exact = a.exact.add r.offset.toNat r.size.toNat := by
  by_cases hs : r.size = 0
  · rw [add, Assembler.add, dif_pos hs, dif_neg (by rw [hs]; decide)]
    rfl
  · apply Option.map_injective fun b c => Assembler.ext
    rw [Assembler.map_contigs_add (toNat_pos_of_ne_zero hs), Option.map_map, add, dif_neg hs, Option.map_pmap,
      show a.exact.contigs = a.contigs.exact from rfl, ← add_slots_exact]
    exact Option.pmap_eq_map _ _ _ _

theorem exact_removeFront (a : UsizeAssembler n) :
    a.exact.removeFront = (a.removeFront.1.toNat, a.removeFront.2.exact) := by
  have hhole : a.exact.front.hasHole = a.front.hasHole := by rw [← exact_front, Contig.hasHole_exact]
  have hdata : a.exact.front.hasData = a.front.hasData := by rw [← exact_front, Contig.hasData_exact]
  rw [removeFront, Assembler.removeFront]
  by_cases h : a.front.hasHole = false ∧ a.front.hasData = true
  · rw [dif_pos h, dif_pos (by rwa [hhole, hdata])]
    refine Prod.ext ?_ (Assembler.ext ?_)
    · change a.exact.front.dataSize = a.front.exact.dataSize
      rw [exact_front]
    · exact (Slots.removeContigAt_exact a.contigs).symm
  · rw [dif_neg h, dif_neg (by rwa [hhole, hdata])]
    rfl

theorem exact_addThenRemoveFront (a : UsizeAssembler n) (r : UsizeRange) :
    (a.addThenRemoveFront r).map (fun p => (p.1.toNat, p.2.exact)) =
      a.exact.addThenRemoveFront r.offset.toNat r.size.toNat := by
  have hfront : r.offset = 0 ∧ r.size < a.front.holeSize ↔
      r.offset.toNat = 0 ∧ r.size.toNat < a.exact.front.holeSize := by
    rw [← exact_front, ← UInt64.toNat_inj, UInt64.lt_iff_toNat_lt]
    rfl
  rw [addThenRemoveFront, Assembler.addThenRemoveFront]
  by_cases h : r.offset = 0 ∧ r.size < a.front.holeSize
  · rw [dif_pos h, dif_pos (hfront.mp h), Option.map_some]
    refine congrArg some (Prod.ext rfl (Assembler.ext ?_))
    exact exact_shrink h.2
  · rw [dif_neg h, dif_neg fun h' => h (hfront.mpr h'), ← exact_add, Option.map_map, Option.map_map]
    apply congrArg fun f => (a.add r).map f
    funext b
    exact (exact_removeFront b).symm

lemma present_add {a b : UsizeAssembler n} {r : UsizeRange} (h : a.add r = some b) (x : ℕ) :
    b.Present x ↔ a.Present x ∨ (r.offset.toNat ≤ x ∧ x < r.offset.toNat + r.size.toNat) := by
  have hadd := a.exact_add r
  rw [h, Option.map_some] at hadd
  exact Assembler.present_add hadd.symm x

/-- `add` refuses a range only if no assembler of this size could record it. -/
theorem add_refuses_iff (a : UsizeAssembler n) (r : UsizeRange) :
    a.add r = none ↔ ∀ b : UsizeAssembler n,
      ¬ ∀ x, b.Present x ↔ a.Present x ∨ (r.offset.toNat ≤ x ∧ x < r.offset.toNat + r.size.toNat) := by
  constructor
  · intro h b
    have hadd := a.exact_add r
    rw [h, Option.map_none] at hadd
    exact (Assembler.add_eq_none_iff a.exact _ _).mp hadd.symm b.exact
  · intro h
    cases hb : a.add r with
    | none => rfl
    | some b => exact absurd (present_add hb) (h b)

inductive Op
  | add (r : UsizeRange)
  | removeFront
  | addThenRemoveFront (r : UsizeRange)

def Op.exact : Op → Assembler.Op
  | add r => .add r.offset.toNat r.size.toNat
  | removeFront => .removeFront
  | addThenRemoveFront r => .addThenRemoveFront r.offset.toNat r.size.toNat

def initial (n : ℕ) : History (UsizeAssembler n) := ⟨new n, 0, []⟩

def step (h : History (UsizeAssembler n)) : Op → History (UsizeAssembler n)
  | .add r =>
    match h.assembler.add r with
    | none => h
    | some b => h.accept r.offset.toNat r.size.toNat 0 b
  | .removeFront => { h with
      assembler := h.assembler.removeFront.2
      removed := h.removed + h.assembler.removeFront.1.toNat }
  | .addThenRemoveFront r =>
    match h.assembler.addThenRemoveFront r with
    | none => h
    | some p => h.accept r.offset.toNat r.size.toNat p.1.toNat p.2

def exactHistory (h : History (UsizeAssembler n)) : History (Assembler n) :=
  ⟨h.assembler.exact, h.removed, h.accepted⟩

lemma exactHistory_step (h : History (UsizeAssembler n)) (op : Op) :
    exactHistory (step h op) = Assembler.step (exactHistory h) op.exact := by
  cases op with
  | add r =>
    have hadd := h.assembler.exact_add r
    simp only [step, Assembler.step, Op.exact, exactHistory, ← hadd]
    cases h.assembler.add r <;> rfl
  | removeFront =>
    have hremove := h.assembler.exact_removeFront
    simp only [step, Assembler.step, Op.exact, exactHistory, hremove]
  | addThenRemoveFront r =>
    have hadd := h.assembler.exact_addThenRemoveFront r
    simp only [step, Assembler.step, Op.exact, exactHistory, ← hadd]
    cases h.assembler.addThenRemoveFront r <;> rfl

lemma exactHistory_run (h : History (UsizeAssembler n)) (ops : List Op) :
    exactHistory (run step h ops) = run Assembler.step (exactHistory h) (ops.map Op.exact) := by
  induction ops generalizing h with
  | nil => rfl
  | cons op ops ih => rw [run_cons, ih, exactHistory_step, List.map_cons, run_cons]

/-- In every run the assembler holds exactly the accepted octets that were not removed, and only a
gapless prefix of them was removed. -/
theorem holds_accepted_run (n : ℕ) (ops : List Op) :
    let h := run step (initial n) ops
    (∀ x, h.assembler.Present x ↔ h.Accepted (h.removed + x)) ∧ ∀ y < h.removed, h.Accepted y := by
  have hrun := exactHistory_run (initial n) ops
  have hinitial : exactHistory (initial n) = Assembler.initial n := by
    rw [exactHistory, Assembler.initial, ← exact_new]
    rfl
  have hexact := Assembler.exact_run n (ops.map Op.exact)
  rw [← hinitial, ← hrun] at hexact
  exact ⟨hexact.present, hexact.removed⟩

end UsizeAssembler

end SmoltcpS3.Smoltcp
