import SmoltcpS3.Foundations.EventRuns
import SmoltcpS3.Foundations.GapRuns
import Mathlib.Data.List.TakeWhile
import Mathlib.Tactic.Ring

namespace SmoltcpS3.Smoltcp

open EventRuns GapRuns

/-- `W` is the type of an offset: the 64-bit `usize` of the program, or ℕ, where no sum wraps. -/
structure Contig (W : Type) where
  holeSize : W
  dataSize : W
  deriving DecidableEq, Repr

namespace Contig

section Words

variable {W : Type} [OfNat W 0]

def empty : Contig W := ⟨0, 0⟩

def hasHole [DecidableEq W] (c : Contig W) : Bool := c.holeSize != 0

def hasData [DecidableEq W] (c : Contig W) : Bool := c.dataSize != 0

def totalSize [Add W] (c : Contig W) : W := c.holeSize + c.dataSize

def shrinkHoleBy [Sub W] (c : Contig W) (size : W) : Contig W := { c with holeSize := c.holeSize - size }

def shrinkHoleTo [Add W] [Sub W] (c : Contig W) (size : W) : Contig W := ⟨size, c.totalSize - size⟩

end Words

def pair (c : Contig ℕ) : ℕ × ℕ := (c.holeSize, c.dataSize)

def ofPair (p : ℕ × ℕ) : Contig ℕ := ⟨p.1, p.2⟩

@[simp] lemma ofPair_pair (c : Contig ℕ) : ofPair c.pair = c := rfl

@[simp] lemma pair_ofPair (p : ℕ × ℕ) : (ofPair p).pair = p := rfl

lemma hasData_iff (c : Contig ℕ) : c.hasData = true ↔ 0 < c.dataSize := by
  simp [hasData, Nat.pos_iff_ne_zero]

end Contig

/-- The slots of `contigs` from some index on. -/
abbrev Slots (W : Type) := List (Contig W)

namespace Slots

section Words

variable {W : Type} [OfNat W 0] [DecidableEq W]

def removeContigAt : Slots W → Slots W
  | [] => []
  | [_] => [Contig.empty]
  | c :: d :: ds => if c.hasData then d :: removeContigAt (d :: ds) else c :: d :: ds

def addContigAt (new : Contig W) (slots : Slots W) : Option (Slots W) :=
  if (slots.getLastD Contig.empty).hasData then none else some (new :: slots.dropLast)

def shiftDown (shift : ℕ) : Slots W → Slots W
  | [] => []
  | d :: ds => if d.hasData then (d :: ds)[shift]?.getD Contig.empty :: shiftDown shift ds else d :: ds

def shrinkNext [Sub W] (size : W) : Slots W → Slots W
  | [] => []
  | d :: ds => if d.hasData then d.shrinkHoleBy size :: ds else d :: ds

variable [Add W] [LE W] [DecidableLE W]

def coalesce (stop : W) : Contig W → Slots W → Contig W × ℕ
  | c, [] => (c, 0)
  | c, d :: ds =>
    if d.hasData = true ∧ c.totalSize + d.holeSize ≤ stop then
      let r := coalesce stop { c with dataSize := c.dataSize + d.totalSize } ds
      (r.1, r.2 + 1)
    else (c, 0)

variable [Sub W] [LT W] [DecidableLT W]

/-- What `add` does once the range is known to touch contig `i`: `stop` is the end of the range. -/
def extend (stop : W) (c : Contig W) (cs : Slots W) : Slots W :=
  let (c', shift) := coalesce stop c cs
  let cs' := if shift ≠ 0 then shiftDown shift cs else cs
  if c'.totalSize < stop then
    let left := stop - c'.totalSize
    { c' with dataSize := c'.dataSize + left } :: shrinkNext left cs'
  else c' :: cs'

def add (offset size : W) : Slots W → Option (Slots W)
  | [] => none
  | c :: cs =>
    if c.hasData then
      if offset ≤ c.totalSize then
        if offset < c.holeSize then
          if offset + size < c.holeSize then
            -- The old contig `i` is at `i + 1` now.
            (addContigAt ⟨offset, size⟩ (c :: cs)).map fun slots =>
              match slots with
              | new :: old :: rest => new :: old.shrinkHoleBy (offset + size) :: rest
              | slots => slots
          else some (extend (offset + size) (c.shrinkHoleTo offset) cs)
        else some (extend (offset + size) c cs)
      else (add (offset - c.totalSize) size cs).map (c :: ·)
    else some (⟨offset, size⟩ :: cs)

end Words

def ofPairs (ps : List (ℕ × ℕ)) (k : ℕ) : Slots ℕ := ps.map Contig.ofPair ++ List.replicate k Contig.empty

section Pairs

variable {ps : List (ℕ × ℕ)} {k : ℕ}

@[simp] lemma length_ofPairs (ps : List (ℕ × ℕ)) (k : ℕ) : (ofPairs ps k).length = ps.length + k := by
  simp [ofPairs]

@[simp] lemma ofPairs_cons (p : ℕ × ℕ) (ps : List (ℕ × ℕ)) (k : ℕ) :
    ofPairs (p :: ps) k = Contig.ofPair p :: ofPairs ps k := rfl

lemma hasData_ofPair {p : ℕ × ℕ} (h : 0 < p.2) : (Contig.ofPair p).hasData = true :=
  (Contig.hasData_iff _).mpr h

lemma getElem?_ofPairs_getD (ps : List (ℕ × ℕ)) (k m : ℕ) :
    (ofPairs ps k)[m]?.getD Contig.empty = (ps[m]?.map Contig.ofPair).getD Contig.empty := by
  rw [ofPairs, List.getElem?_append]
  split_ifs with hm
  · rw [List.getElem?_map]
  · rw [List.length_map] at hm
    rw [List.getElem?_eq_none (show ps.length ≤ m by omega), List.getElem?_replicate]
    split_ifs <;> rfl

lemma shiftDown_ofPairs (hr : ∀ p ∈ ps, 0 < p.2) (m : ℕ) :
    shiftDown m (ofPairs ps k) = ofPairs (ps.drop m) (k + min m ps.length) := by
  induction ps with
  | nil =>
    cases k with
    | zero => simp [ofPairs, shiftDown]
    | succ k => simp [ofPairs, shiftDown, List.replicate_succ, Contig.empty, Contig.hasData]
  | cons p ps ih =>
    have ih := ih fun q hq => hr q (List.mem_cons_of_mem p hq)
    have hd := hasData_ofPair (hr p List.mem_cons_self)
    have hshift : shiftDown m (ofPairs (p :: ps) k) =
        (ofPairs (p :: ps) k)[m]?.getD Contig.empty :: shiftDown m (ofPairs ps k) := by
      rw [ofPairs_cons, shiftDown, if_pos hd]
    rw [hshift, ih, getElem?_ofPairs_getD]
    rcases Nat.lt_or_ge m (p :: ps).length with hm | hm
    · rw [List.getElem?_eq_getElem hm, List.drop_eq_getElem_cons hm, ofPairs_cons, List.drop_succ_cons]
      rw [List.length_cons] at hm ⊢
      rw [Nat.min_eq_left (show m ≤ ps.length by omega), Nat.min_eq_left (show m ≤ ps.length + 1 by omega)]
      rfl
    · rw [List.getElem?_eq_none hm, List.drop_eq_nil_of_le hm]
      rw [List.length_cons] at hm ⊢
      rw [List.drop_eq_nil_of_le (by omega), Nat.min_eq_right (show ps.length ≤ m by omega), Nat.min_eq_right hm]
      rfl

lemma coalesce_ofPairs (stop : ℕ) (c : Contig ℕ) (hr : ∀ p ∈ ps, 0 < p.2) :
    let r := coalesce stop c (ofPairs ps k)
    r.2 ≤ ps.length ∧ r.1.holeSize = c.holeSize ∧
      absorb c.holeSize stop c.totalSize ps = absorb c.holeSize stop r.1.totalSize (ps.drop r.2) ∧
      ∀ d ∈ (ps.drop r.2).head?, stop < r.1.totalSize + d.1 := by
  induction ps generalizing c with
  | nil =>
    cases k with
    | zero => simp [ofPairs, coalesce]
    | succ k => simp [ofPairs, coalesce, List.replicate_succ, Contig.empty, Contig.hasData]
  | cons p ps ih =>
    have hd := hasData_ofPair (hr p List.mem_cons_self)
    rw [ofPairs_cons, coalesce]
    by_cases hle : c.totalSize + p.1 ≤ stop
    · rw [if_pos ⟨hd, hle⟩]
      obtain ⟨h₁, h₂, h₃, h₄⟩ := ih { c with dataSize := c.dataSize + (Contig.ofPair p).totalSize }
        fun q hq => hr q (List.mem_cons_of_mem p hq)
      refine ⟨by dsimp only; rw [List.length_cons]; omega, h₂, ?_, h₄⟩
      rw [List.drop_succ_cons, absorb, if_pos hle, ← h₃]
      congr 1
      simp only [Contig.totalSize, Contig.ofPair]
      omega
    · rw [if_neg fun h => hle h.2]
      refine ⟨Nat.zero_le _, rfl, rfl, ?_⟩
      rintro d ⟨⟩
      dsimp only
      omega

lemma shrinkNext_ofPairs (hr : ∀ p ∈ ps, 0 < p.2) (size : ℕ) :
    shrinkNext size (ofPairs ps k) = ofPairs (closeGap size ps) k := by
  cases ps with
  | nil =>
    cases k with
    | zero => rfl
    | succ k => rfl
  | cons d ds =>
    rw [ofPairs_cons, shrinkNext, if_pos (hasData_ofPair (hr d List.mem_cons_self))]
    rfl

lemma extend_ofPairs (stop : ℕ) (c : Contig ℕ) (hr : ∀ p ∈ ps, 0 < p.2) :
    extend stop c (ofPairs ps k) =
      ofPairs (absorb c.holeSize stop c.totalSize ps)
        (k + (ps.length + 1 - (absorb c.holeSize stop c.totalSize ps).length)) := by
  obtain ⟨hm, hhole, habs, hlt⟩ := coalesce_ofPairs (k := k) stop c hr
  rw [extend]
  generalize coalesce stop c (ofPairs ps k) = r at hm hhole habs hlt ⊢
  obtain ⟨c', m⟩ := r
  dsimp only at hm hhole habs hlt ⊢
  have hshift : (if m ≠ 0 then shiftDown m (ofPairs ps k) else ofPairs ps k) = ofPairs (ps.drop m) (k + m) := by
    split_ifs with h0
    · rw [shiftDown_ofPairs hr, Nat.min_eq_left hm]
    · have h0 : m = 0 := by omega
      simp [h0]
  have hr' : ∀ p ∈ ps.drop m, 0 < p.2 := fun p hp => hr p (List.mem_of_mem_drop hp)
  rw [hshift, habs, absorb_of_lt hlt, shrinkNext_ofPairs hr', List.length_cons, length_closeGap,
    List.length_drop, show ps.length + 1 - (ps.length - m + 1) = m by omega, ofPairs_cons]
  have htotal : c'.holeSize + c'.dataSize = c'.totalSize := rfl
  by_cases hstop : c'.totalSize < stop
  · rw [if_pos hstop]
    refine congrArg₂ List.cons ?_ rfl
    rw [Contig.ofPair, Contig.mk.injEq]
    omega
  · rw [if_neg hstop, show stop - c'.totalSize = 0 by omega, closeGap_zero]
    refine congrArg₂ List.cons ?_ rfl
    rw [Contig.ofPair, ← hhole, show max c'.totalSize stop - c'.holeSize = c'.dataSize by omega]

lemma addContigAt_ofPairs (new : Contig ℕ) {p : ℕ × ℕ} (hr : ∀ q ∈ p :: ps, 0 < q.2) :
    addContigAt new (ofPairs (p :: ps) k) =
      if k = 0 then none else some (new :: ofPairs (p :: ps) (k - 1)) := by
  cases k with
  | zero =>
    rw [if_pos rfl, addContigAt, if_pos]
    have hne : (p :: ps) ≠ [] := List.cons_ne_nil p ps
    rw [ofPairs, List.replicate_zero, List.append_nil, List.getLastD_eq_getLast?, List.getLast?_map,
      List.getLast?_eq_some_getLast hne]
    exact hasData_ofPair (hr _ (List.getLast_mem hne))
  | succ k =>
    rw [if_neg (Nat.succ_ne_zero k), addContigAt, if_neg]
    · congr 2
      simp only [ofPairs, List.replicate_succ', ← List.append_assoc, List.dropLast_concat,
        Nat.add_sub_cancel]
    · rw [ofPairs, List.replicate_succ', ← List.append_assoc, List.getLastD_concat]
      exact Bool.false_ne_true

theorem add_ofPairs {offset size : ℕ} (hr : ∀ p ∈ ps, 0 < p.2) :
    add offset size (ofPairs ps k) =
      if (insertRange offset size ps).length ≤ ps.length + k then
        some (ofPairs (insertRange offset size ps) (ps.length + k - (insertRange offset size ps).length))
      else none := by
  induction ps generalizing offset with
  | nil =>
    cases k with
    | zero => simp [ofPairs, add, insertRange]
    | succ k => simp [ofPairs, add, insertRange, List.replicate_succ, Contig.empty, Contig.hasData, Contig.ofPair]
  | cons p ps ih =>
    have hp := hr p List.mem_cons_self
    have hr' : ∀ q ∈ ps, 0 < q.2 := fun q hq => hr q (List.mem_cons_of_mem p hq)
    have ih := fun o => @ih o hr'
    rw [ofPairs_cons, add, if_pos (hasData_ofPair hp), insertRange]
    have hext : ∀ c : Contig ℕ, c.holeSize = min p.1 offset → c.totalSize = p.1 + p.2 →
        some (extend (offset + size) c (ofPairs ps k)) =
          if (absorb (min p.1 offset) (offset + size) (p.1 + p.2) ps).length ≤ (p :: ps).length + k then
            some (ofPairs (absorb (min p.1 offset) (offset + size) (p.1 + p.2) ps)
              ((p :: ps).length + k - (absorb (min p.1 offset) (offset + size) (p.1 + p.2) ps).length))
          else none := by
      intro c hhole htotal
      have hlen := length_absorb_le (min p.1 offset) (offset + size) (p.1 + p.2) ps
      rw [extend_ofPairs _ _ hr', hhole, htotal, List.length_cons, if_pos (by omega)]
      congr 2
      omega
    rw [show (Contig.ofPair p).totalSize = p.1 + p.2 from rfl, show (Contig.ofPair p).holeSize = p.1 from rfl]
    by_cases hle : offset ≤ p.1 + p.2
    · rw [if_pos hle, if_neg (show ¬ p.1 + p.2 < offset by omega)]
      by_cases hlt : offset < p.1
      · rw [if_pos hlt]
        by_cases hin : offset + size < p.1
        · rw [if_pos hin, if_pos hin, ← ofPairs_cons, addContigAt_ofPairs _ hr]
          cases k with
          | zero => simp
          | succ k =>
            simp only [Nat.succ_ne_zero, if_false, Nat.add_sub_cancel, Option.map_some, ofPairs_cons, List.length_cons]
            rw [if_pos (by omega), show ps.length + 1 + (k + 1) - (ps.length + 1 + 1) = k by omega]
            rfl
        · rw [if_neg hin, if_neg hin]
          apply hext
          · exact (min_eq_right hlt.le).symm
          · simp only [Contig.shrinkHoleTo, Contig.totalSize, Contig.ofPair]
            omega
      · rw [if_neg hlt, if_neg (show ¬ offset + size < p.1 by omega)]
        apply hext
        · exact (min_eq_left (Nat.le_of_not_lt hlt)).symm
        · rfl
    · rw [if_neg hle, if_pos (show p.1 + p.2 < offset by omega), ih]
      simp only [List.length_cons, ofPairs_cons]
      split_ifs with h₁ h₂ h₂
      · rw [Option.map_some]
        congr 3
        omega
      · omega
      · omega
      · rfl

lemma removeContigAt_ofPairs {p : ℕ × ℕ} (hr : ∀ q ∈ p :: ps, 0 < q.2) :
    removeContigAt (ofPairs (p :: ps) k) = ofPairs ps (k + 1) := by
  induction ps generalizing p with
  | nil =>
    have hd := hasData_ofPair (hr p List.mem_cons_self)
    cases k with
    | zero => rfl
    | succ k =>
      simp only [ofPairs, List.map_nil, List.nil_append, List.map_cons, List.cons_append, List.replicate_succ,
        removeContigAt, hd, if_true]
      cases k with
      | zero => rfl
      | succ k => simp [List.replicate_succ, removeContigAt, Contig.empty, Contig.hasData]
  | cons q ps ih =>
    have hd := hasData_ofPair (hr p List.mem_cons_self)
    rw [ofPairs_cons, ofPairs_cons, removeContigAt, if_pos hd, ← ofPairs_cons,
      ih fun b hb => hr b (List.mem_cons_of_mem p hb), ofPairs_cons]

def runs (slots : Slots ℕ) : List (ℕ × ℕ) := (slots.takeWhile Contig.hasData).map Contig.pair

@[simp] lemma runs_ofPairs (hr : ∀ p ∈ ps, 0 < p.2) : runs (ofPairs ps k) = ps := by
  have hall : ∀ c ∈ ps.map Contig.ofPair, c.hasData = true := by
    intro c hc
    obtain ⟨p, hp, rfl⟩ := List.mem_map.mp hc
    exact hasData_ofPair (hr p hp)
  have hrep : (List.replicate k Contig.empty).takeWhile Contig.hasData = [] := by
    cases k <;> rfl
  rw [runs, ofPairs, List.takeWhile_append_of_pos hall, hrep, List.append_nil, List.map_map]
  exact List.map_id ps

end Pairs

structure WellFormed (n : ℕ) (slots : Slots ℕ) : Prop where
  canonical : Canonical slots.runs
  length_le : slots.runs.length ≤ n
  eq_ofPairs : slots = ofPairs slots.runs (n - slots.runs.length)

lemma WellFormed.ofPairs {n k : ℕ} {ps : List (ℕ × ℕ)} (hc : Canonical ps) (hk : ps.length + k = n) :
    WellFormed n (ofPairs ps k) := by
  have hr := runs_ofPairs (k := k) hc.run_pos
  refine ⟨by rwa [hr], by rw [hr]; omega, ?_⟩
  rw [hr, show n - ps.length = k by omega]

end Slots

/-- An assembler, how many octets were removed from its front, and the ranges that it accepted,
counted from the first octet of all. -/
structure History (A : Type) where
  assembler : A
  removed : ℕ
  accepted : List (ℕ × ℕ)

namespace History

variable {A : Type}

def Accepted (h : History A) (y : ℕ) : Prop := ∃ r ∈ h.accepted, r.1 ≤ y ∧ y < r.1 + r.2

def accept (h : History A) (offset size front : ℕ) (a : A) : History A :=
  ⟨a, h.removed + front, (h.removed + offset, size) :: h.accepted⟩

lemma accepted_accept (h : History A) (offset size front : ℕ) (a : A) (y : ℕ) :
    (h.accept offset size front a).Accepted y ↔
      h.Accepted y ∨ (h.removed + offset ≤ y ∧ y < h.removed + offset + size) := by
  simp only [Accepted, accept, List.mem_cons, exists_eq_or_imp]
  exact or_comm

end History

/-- `Assembler` with `n` for `ASSEMBLER_MAX_SEGMENT_COUNT`, in exact arithmetic. -/
@[ext]
structure Assembler (n : ℕ) where
  contigs : Slots ℕ
  wf : contigs.WellFormed n

namespace Assembler

variable {n : ℕ}

def runs (a : Assembler n) : List (ℕ × ℕ) := a.contigs.runs

def Present (a : Assembler n) (x : ℕ) : Prop := Covers a.runs x

instance (a : Assembler n) (x : ℕ) : Decidable (a.Present x) := inferInstanceAs (Decidable (Covers _ _))

lemma canonical (a : Assembler n) : Canonical a.runs := a.wf.canonical

lemma length_runs_le (a : Assembler n) : a.runs.length ≤ n := a.wf.length_le

lemma eq_ofPairs (a : Assembler n) : a.contigs = Slots.ofPairs a.runs (n - a.runs.length) := a.wf.eq_ofPairs

lemma present_ext {a b : Assembler n} (h : ∀ x, a.Present x ↔ b.Present x) : a = b := by
  have hr : a.runs = b.runs := canonical_unique a.canonical b.canonical h
  have hc : a.contigs = b.contigs := by rw [a.eq_ofPairs, b.eq_ofPairs, hr]
  cases a
  cases b
  cases hc
  rfl

def ofRuns (ps : List (ℕ × ℕ)) (hc : Canonical ps) (hn : ps.length ≤ n) : Assembler n where
  contigs := Slots.ofPairs ps (n - ps.length)
  wf := Slots.WellFormed.ofPairs hc (by omega)

lemma runs_ofRuns {ps : List (ℕ × ℕ)} (hc : Canonical ps) (hn : ps.length ≤ n) : (ofRuns ps hc hn).runs = ps :=
  Slots.runs_ofPairs hc.run_pos

def new (n : ℕ) : Assembler n where
  contigs := List.replicate n Contig.empty
  wf := Slots.WellFormed.ofPairs Canonical.nil (by simp)

def front (a : Assembler n) : Contig ℕ := a.contigs.headD Contig.empty

def isEmpty (a : Assembler n) : Bool := !a.front.hasData

lemma wf_add {a : Assembler n} {offset size : ℕ} (hs : 0 < size) {slots : Slots ℕ}
    (h : Slots.add offset size a.contigs = some slots) :
    ∃ (hc : Canonical (insertRange offset size a.runs)) (hn : (insertRange offset size a.runs).length ≤ n),
      slots = (ofRuns _ hc hn : Assembler n).contigs := by
  rw [a.eq_ofPairs, Slots.add_ofPairs a.canonical.run_pos, Nat.add_sub_cancel' a.length_runs_le] at h
  split_ifs at h with hn
  cases h
  exact ⟨insertRange_canonical hs a.canonical, hn, rfl⟩

def add (offset size : ℕ) (a : Assembler n) : Option (Assembler n) :=
  if hs : 0 < size then
    (Slots.add offset size a.contigs).pmap mk fun slots h => by
      obtain ⟨hc, hn, rfl⟩ := wf_add hs h
      exact (ofRuns _ hc hn).wf
  else some a

lemma map_contigs_add {a : Assembler n} {offset size : ℕ} (hs : 0 < size) :
    (a.add offset size).map contigs = Slots.add offset size a.contigs := by
  rw [add, dif_pos hs, Option.map_pmap]
  exact (Option.pmap_eq_map _ _ _ _).trans Option.map_id'

lemma wf_remove {a : Assembler n} (h : a.front.hasData = true) :
    ∃ p ps, a.runs = p :: ps ∧ a.front = Contig.ofPair p ∧
      ∃ (hc : Canonical ps) (hn : ps.length ≤ n), a.contigs.removeContigAt = (ofRuns ps hc hn : Assembler n).contigs := by
  have hle := a.length_runs_le
  have heq := a.eq_ofPairs
  have hcan := a.canonical
  cases hps : a.runs with
  | nil =>
    rw [front, heq, hps, Slots.ofPairs] at h
    cases n <;> simp [List.replicate_succ, Contig.empty, Contig.hasData] at h
  | cons p ps =>
    rw [hps] at heq hcan hle
    rw [List.length_cons] at hle
    refine ⟨p, ps, rfl, by rw [front, heq]; rfl, hcan.tail, by omega, ?_⟩
    rw [heq, Slots.removeContigAt_ofPairs hcan.run_pos, List.length_cons, ofRuns]
    congr 1
    omega

def removeFront (a : Assembler n) : ℕ × Assembler n :=
  if h : a.front.hasHole = false ∧ a.front.hasData = true then
    (a.front.dataSize, ⟨a.contigs.removeContigAt, by
      obtain ⟨p, ps, _, _, hc, hn, heq⟩ := wf_remove h.2
      exact heq ▸ (ofRuns ps hc hn).wf⟩)
  else (0, a)

lemma wf_shrink {a : Assembler n} {size : ℕ} (h : size < a.front.holeSize) :
    ∃ p ps, a.runs = p :: ps ∧ size < p.1 ∧ ∃ (hc : Canonical ((p.1 - size, p.2) :: ps))
      (hn : ((p.1 - size, p.2) :: ps).length ≤ n),
      a.contigs.modifyHead (·.shrinkHoleBy size) = (ofRuns _ hc hn : Assembler n).contigs := by
  have hle := a.length_runs_le
  have heq := a.eq_ofPairs
  have hcan := a.canonical
  cases hps : a.runs with
  | nil =>
    rw [front, heq, hps, Slots.ofPairs] at h
    cases n <;> simp [List.replicate_succ, Contig.empty] at h
  | cons p ps =>
    rw [hps] at heq hcan hle
    rw [front, heq] at h
    have hcons := Canonical.cons_iff.mp hcan
    exact ⟨p, ps, rfl, h, Canonical.cons_iff.mpr hcons, hle, by rw [heq]; rfl⟩

def addThenRemoveFront (offset size : ℕ) (a : Assembler n) : Option (ℕ × Assembler n) :=
  if h : offset = 0 ∧ size < a.front.holeSize then
    some (size, ⟨a.contigs.modifyHead (·.shrinkHoleBy size), by
      obtain ⟨p, ps, _, _, hc, hn, heq⟩ := wf_shrink h.2
      exact heq ▸ (ofRuns _ hc hn).wf⟩)
  else (a.add offset size).map removeFront

def nextBlock (r : ℕ × List (ℕ × ℕ)) (c : Contig ℕ) : ℕ × List (ℕ × ℕ) :=
  let left := r.1 + c.holeSize
  let right := left + c.dataSize
  (right, if left < right then r.2 ++ [(left, right)] else r.2)

def iterData (a : Assembler n) : List (ℕ × ℕ) := (a.contigs.foldl nextBlock (0, [])).2

lemma present_new (x : ℕ) : ¬ (new n).Present x := by
  have hpos : ∀ p ∈ ([] : List (ℕ × ℕ)), 0 < p.2 := by simp
  rw [Present, show (new n).runs = [] from Slots.runs_ofPairs hpos]
  exact covers_nil x

lemma add_eq (a : Assembler n) {offset size : ℕ} (hs : 0 < size) :
    a.add offset size =
      if hn : (insertRange offset size a.runs).length ≤ n then
        some (ofRuns _ (insertRange_canonical hs a.canonical) hn)
      else none := by
  rw [add, dif_pos hs]
  split_ifs with hn
  · apply Option.pmap_eq_some_iff.mpr
    refine ⟨_, _, ?_, rfl⟩
    rw [a.eq_ofPairs, Slots.add_ofPairs a.canonical.run_pos, Nat.add_sub_cancel' a.length_runs_le, if_pos hn]
  · rw [Option.pmap_eq_none_iff, a.eq_ofPairs, Slots.add_ofPairs a.canonical.run_pos,
      Nat.add_sub_cancel' a.length_runs_le, if_neg hn]

theorem present_add {a b : Assembler n} {offset size : ℕ} (h : a.add offset size = some b) (x : ℕ) :
    b.Present x ↔ a.Present x ∨ (offset ≤ x ∧ x < offset + size) := by
  by_cases hs : 0 < size
  · rw [add_eq a hs] at h
    split_ifs at h with hn
    cases h
    rw [Present, runs_ofRuns, covers_insertRange]
    rfl
  · rw [add, dif_neg hs] at h
    cases h
    constructor
    · exact Or.inl
    · rintro (hx | hx)
      · exact hx
      · omega

theorem add_eq_none_iff (a : Assembler n) (offset size : ℕ) :
    a.add offset size = none ↔
      ∀ b : Assembler n, ¬ ∀ x, b.Present x ↔ a.Present x ∨ (offset ≤ x ∧ x < offset + size) := by
  constructor
  · intro h b hb
    have hs : 0 < size := by
      by_contra hs
      rw [add, dif_neg hs] at h
      exact absurd h (Option.some_ne_none a)
    rw [add_eq a hs] at h
    split_ifs at h with hn
    apply hn
    have hruns : b.runs = insertRange offset size a.runs := by
      apply canonical_unique b.canonical (insertRange_canonical hs a.canonical)
      intro x
      rw [covers_insertRange]
      exact hb x
    rw [← hruns]
    exact b.length_runs_le
  · intro h
    cases hb : a.add offset size with
    | none => rfl
    | some b => exact absurd (present_add hb) (h b)

structure Front (P : ℕ → Prop) (r : ℕ × Assembler n) : Prop where
  before : ∀ x < r.1, P x
  after : ∀ x, r.2.Present x ↔ P (r.1 + x)
  missing : ¬ P r.1

lemma Front.unique {P : ℕ → Prop} {r r' : ℕ × Assembler n} (h : Front P r) (h' : Front P r') : r = r' := by
  have hfst : r.1 = r'.1 := by
    rcases lt_trichotomy r.1 r'.1 with hlt | heq | hgt
    · exact absurd (h'.before _ hlt) h.missing
    · exact heq
    · exact absurd (h.before _ hgt) h'.missing
  apply Prod.ext hfst
  apply present_ext
  intro x
  rw [h.after, h'.after, hfst]

lemma Front.congr {P Q : ℕ → Prop} {r : ℕ × Assembler n} (h : Front P r) (hpq : ∀ x, P x ↔ Q x) : Front Q r :=
  ⟨fun x hx => (hpq x).mp (h.before x hx), fun x => (h.after x).trans (hpq _),
    fun hx => h.missing ((hpq _).mpr hx)⟩

lemma Front.not_present {P : ℕ → Prop} {r : ℕ × Assembler n} (h : Front P r) : ¬ r.2.Present 0 :=
  fun hx => h.missing ((h.after 0).mp hx)

lemma not_present_of_front {a : Assembler n} (h : ¬ (a.front.hasHole = false ∧ a.front.hasData = true)) :
    ¬ a.Present 0 := by
  have hcan := a.canonical
  have heq := a.eq_ofPairs
  rw [Present]
  cases hps : a.runs with
  | nil => exact covers_nil 0
  | cons p ps =>
    rw [hps] at hcan heq
    have hp := hcan.run_pos p List.mem_cons_self
    have hfront : a.front = Contig.ofPair p := by rw [front, heq]; rfl
    rw [hfront, Slots.hasData_ofPair hp] at h
    have hhole : 0 < p.1 := by
      apply Nat.pos_of_ne_zero
      intro h0
      exact h ⟨by simp [Contig.hasHole, Contig.ofPair, h0], rfl⟩
    intro hx
    have hle := le_of_covers hx
    omega

lemma isEmpty_iff (a : Assembler n) : a.isEmpty = true ↔ ∀ x, ¬ a.Present x := by
  have hcan := a.canonical
  have heq := a.eq_ofPairs
  simp only [isEmpty, Present]
  cases hps : a.runs with
  | nil =>
    have hfront : a.front = Contig.empty := by
      rw [front, heq, hps]
      cases n <;> rfl
    simp [hfront, Contig.hasData, Contig.empty, covers_nil]
  | cons p ps =>
    rw [hps] at hcan heq
    have hp := hcan.run_pos p List.mem_cons_self
    have hfront : a.front = Contig.ofPair p := by rw [front, heq]; rfl
    rw [hfront, Slots.hasData_ofPair hp]
    simp only [Bool.not_true, Bool.false_eq_true, false_iff, not_forall, not_not]
    exact ⟨p.1, covers_first hp⟩

theorem front_removeFront (a : Assembler n) : Front a.Present a.removeFront := by
  rw [removeFront]
  split_ifs with h
  · obtain ⟨p, ps, hps, hfront, hc, hn, heq⟩ := wf_remove h.2
    have hcan := a.canonical
    have hhole : p.1 = 0 := by
      have hh := h.1
      rw [hfront] at hh
      simpa [Contig.hasHole, Contig.ofPair] using hh
    have hsize : a.front.dataSize = p.2 := by rw [hfront]; rfl
    have hrest : ∀ x, a.Present (p.2 + x) ↔ Covers ps x := by
      intro x
      rw [Present, hps, covers_cons, hhole, Nat.zero_add, Nat.add_sub_cancel_left]
      constructor
      · rintro (hx | hx)
        · omega
        · exact hx.2
      · intro hx
        exact Or.inr ⟨by omega, hx⟩
    have hruns : Slots.runs a.contigs.removeContigAt = ps := by rw [heq]; exact runs_ofRuns hc hn
    refine ⟨?_, ?_, ?_⟩
    · intro x hx
      rw [Present, hps, covers_cons, hhole]
      exact Or.inl ⟨Nat.zero_le x, by dsimp only at hx; omega⟩
    · intro x
      rw [Present, runs]
      dsimp only
      rw [hruns, hsize, hrest]
    · dsimp only
      rw [hsize, ← Nat.add_zero p.2, hrest]
      intro hx
      cases ps with
      | nil => exact hx
      | cons q ps =>
        have hle := le_of_covers hx
        rw [hps] at hcan
        have hpos := hcan.head_gap q rfl
        omega
  · exact ⟨by simp, by simp, not_present_of_front h⟩

theorem front_addThenRemoveFront {a : Assembler n} {offset size : ℕ} {r : ℕ × Assembler n}
    (h : a.addThenRemoveFront offset size = some r) :
    Front (fun x => a.Present x ∨ (offset ≤ x ∧ x < offset + size)) r := by
  rw [addThenRemoveFront] at h
  split_ifs at h with hshort
  · obtain ⟨p, ps, hps, hlt, hc, hn, heq⟩ := wf_shrink hshort.2
    have h0 := hshort.1
    subst h0
    cases h
    have hruns : Slots.runs (a.contigs.modifyHead (·.shrinkHoleBy size)) = (p.1 - size, p.2) :: ps := by
      rw [heq]
      exact runs_ofRuns hc hn
    refine ⟨?_, ?_, ?_⟩
    · intro x hx
      exact Or.inr ⟨Nat.zero_le x, by simpa using hx⟩
    · intro x
      rw [Present, runs]
      dsimp only
      rw [hruns, Present, hps, covers_cons, covers_cons]
      dsimp only
      rw [show x - (p.1 - size + p.2) = size + x - (p.1 + p.2) by omega]
      by_cases hcov : Covers ps (size + x - (p.1 + p.2)) <;> simp only [hcov, and_true, and_false, or_false] <;> omega
    · rintro (hx | hx)
      · rw [Present, hps] at hx
        have hle := le_of_covers hx
        dsimp only at hle
        omega
      · dsimp only at hx
        omega
  · obtain ⟨b, hb, rfl⟩ := Option.map_eq_some_iff.mp h
    exact (front_removeFront b).congr (present_add hb)

lemma add_zero_ne_none (a : Assembler n) (hn : 0 < n) {size : ℕ} (hs : a.front.holeSize ≤ size) :
    a.add 0 size ≠ none := by
  by_cases h0 : 0 < size
  · have hle := a.length_runs_le
    have heq := a.eq_ofPairs
    rw [add_eq a h0, dif_pos]
    · exact Option.some_ne_none _
    · cases hps : a.runs with
      | nil => exact hn
      | cons p ps =>
        rw [hps] at hle heq
        rw [front, heq] at hs
        rw [insertRange, if_neg (by omega), if_neg]
        · exact (length_absorb_le _ _ _ ps).trans hle
        · rw [Nat.zero_add]
          exact Nat.not_lt.mpr hs
  · rw [add, dif_neg h0]
    exact Option.some_ne_none _

lemma addThenRemoveFront_zero_ne_none (a : Assembler n) (hn : 0 < n) (size : ℕ) : a.addThenRemoveFront 0 size ≠ none := by
  rw [addThenRemoveFront]
  split_ifs with h
  · exact Option.some_ne_none _
  · rw [ne_eq, Option.map_eq_none_iff]
    exact a.add_zero_ne_none hn (by omega)

theorem addThenRemoveFront_total (a : Assembler n) (hn : 0 < n) (size : ℕ) :
    a.addThenRemoveFront 0 size ≠ none ∧
      ∀ offset b, a.add offset size = some b → a.addThenRemoveFront offset size = some b.removeFront := by
  refine ⟨a.addThenRemoveFront_zero_ne_none hn size, ?_⟩
  intro offset b hb
  have hfront := (front_removeFront b).congr (present_add hb)
  cases hr : a.addThenRemoveFront offset size with
  | some r => rw [(front_addThenRemoveFront hr).unique hfront]
  | none =>
    rw [addThenRemoveFront, hb] at hr
    split_ifs at hr
    exact absurd hr (Option.some_ne_none _)

theorem addThenRemoveFront_total_new :
    (new 1).addThenRemoveFront 0 3 ≠ none ∧
      ∀ offset b, (new 1).add offset 3 = some b → (new 1).addThenRemoveFront offset 3 = some b.removeFront :=
  addThenRemoveFront_total (new 1) (by decide) 3

inductive Op
  | add (offset size : ℕ)
  | removeFront
  | addThenRemoveFront (offset size : ℕ)
  deriving DecidableEq, Repr

def initial (n : ℕ) : History (Assembler n) := ⟨new n, 0, []⟩

def step (h : History (Assembler n)) : Op → History (Assembler n)
  | .add offset size =>
    match h.assembler.add offset size with
    | none => h
    | some b => h.accept offset size 0 b
  | .removeFront => { h with
      assembler := h.assembler.removeFront.2
      removed := h.removed + h.assembler.removeFront.1 }
  | .addThenRemoveFront offset size =>
    match h.assembler.addThenRemoveFront offset size with
    | none => h
    | some r => h.accept offset size r.1 r.2

structure Exact (h : History (Assembler n)) : Prop where
  present : ∀ x, h.assembler.Present x ↔ h.Accepted (h.removed + x)
  removed : ∀ y < h.removed, h.Accepted y

lemma Exact.accept {h : History (Assembler n)} (he : Exact h) {offset size front : ℕ} {b : Assembler n}
    (hb : ∀ x < front, h.assembler.Present x ∨ (offset ≤ x ∧ x < offset + size))
    (ha : ∀ x, b.Present x ↔
      h.assembler.Present (front + x) ∨ (offset ≤ front + x ∧ front + x < offset + size)) :
    Exact (h.accept offset size front b) := by
  constructor
  · intro x
    rw [History.accepted_accept]
    change b.Present x ↔ h.Accepted (h.removed + front + x) ∨
      (h.removed + offset ≤ h.removed + front + x ∧ h.removed + front + x < h.removed + offset + size)
    rw [ha, he.present, Nat.add_assoc]
    apply or_congr Iff.rfl
    omega
  · intro y hy
    rw [History.accepted_accept]
    change y < h.removed + front at hy
    by_cases hlt : y < h.removed
    · exact Or.inl (he.removed y hlt)
    · have hx := hb (y - h.removed) (by omega)
      rw [he.present, Nat.add_sub_cancel' (by omega)] at hx
      apply hx.imp id
      omega

lemma Exact.step {h : History (Assembler n)} (he : Exact h) (op : Op) : Exact (Assembler.step h op) := by
  cases op with
  | add offset size =>
    rw [Assembler.step]
    split
    · exact he
    · rename_i b hb
      apply he.accept
      · simp
      · intro x
        simpa using present_add hb x
  | removeFront =>
    have hf := front_removeFront h.assembler
    constructor
    · intro x
      change h.assembler.removeFront.2.Present x ↔ h.Accepted (h.removed + h.assembler.removeFront.1 + x)
      rw [hf.after, he.present, Nat.add_assoc]
    · intro y hy
      change y < h.removed + h.assembler.removeFront.1 at hy
      change h.Accepted y
      by_cases hlt : y < h.removed
      · exact he.removed y hlt
      · have hx := hf.before (y - h.removed) (by omega)
        rwa [he.present, Nat.add_sub_cancel' (by omega)] at hx
  | addThenRemoveFront offset size =>
    rw [Assembler.step]
    split
    · exact he
    · rename_i r hr
      have hf := front_addThenRemoveFront hr
      exact he.accept hf.before hf.after

lemma exact_run (n : ℕ) (ops : List Op) : Exact (run step (initial n) ops) := by
  apply run_preserves (I := Exact) (fun h op he => he.step op)
  constructor
  · intro x
    exact iff_of_false (present_new x) (by simp [initial, History.Accepted])
  · simp [initial]

end Assembler

end SmoltcpS3.Smoltcp
