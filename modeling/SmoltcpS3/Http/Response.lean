import Mathlib.Data.Nat.Digits.Defs
import SmoltcpS3.Foundations.EventRuns
import SmoltcpS3.Http.CountBody

namespace SmoltcpS3.Http

open Delimiter EventRuns

def digitValue (b : UInt8) : ℕ := (b - 48).toNat

def statusOf (header : List UInt8) : ℕ :=
  Nat.ofDigits 10 ((((header.take 12).drop 9).filter isAsciiDigit).map digitValue).reverse

def feed (s : BodyCount × Counters) (chunks : List (List UInt8)) : BodyCount × Counters :=
  run (fun s data => countBody s.1 s.2 data) s chunks

section Cuts

lemma countBody_nil (c : BodyCount) (k : Counters) : countBody c k [] = (c, k) := by
  rw [countBody]
  split_ifs <;> rfl

lemma countLoop_append (c : BodyCount) (k : Counters) (hd : c.headersDone = false)
    (xs ys : List UInt8) :
    countLoop c k (xs ++ ys) = countBody (countLoop c k xs).1 (countLoop c k xs).2 ys := by
  induction xs generalizing c with
  | nil => simp [countLoop, countBody, hd]
  | cons b xs ih =>
    simp only [List.cons_append, countLoop]
    split_ifs with h4
    · simp [countBody, Nat.add_assoc]
    · exact ih _ (by simpa using hd)

lemma countBody_append (c : BodyCount) (k : Counters) (xs ys : List UInt8) :
    countBody c k (xs ++ ys) = countBody (countBody c k xs).1 (countBody c k xs).2 ys := by
  cases hd : c.headersDone with
  | true => simp [countBody, hd, Nat.add_assoc]
  | false =>
    have hloop : ∀ data, countBody c k data = countLoop c k data := by
      intro data
      rw [countBody, if_neg (by simp [hd])]
    rw [hloop, hloop, countLoop_append c k hd]

lemma feed_eq (s : BodyCount × Counters) (chunks : List (List UInt8)) :
    feed s chunks = countBody s.1 s.2 chunks.flatten :=
  run_flatten (fun s => countBody_nil s.1 s.2) (fun s => countBody_append s.1 s.2) s chunks

end Cuts

section Status

lemma digitValue_lt {b : UInt8} (h : isAsciiDigit b = true) : digitValue b < 10 := by
  simp only [isAsciiDigit, Bool.and_eq_true, decide_eq_true_eq, UInt8.le_iff_toNat_le] at h
  have h48 : (48 : UInt8) ≤ b := UInt8.le_iff_toNat_le.mpr h.1
  have h57 : b.toNat ≤ 57 := h.2
  have hsub : digitValue b = b.toNat - 48 := UInt8.toNat_sub_of_le _ _ h48
  omega

lemma statusOf_lt (header : List UInt8) : statusOf header < 1000 := by
  have hlen : ((((header.take 12).drop 9).filter isAsciiDigit).map digitValue).reverse.length ≤ 3 := by
    rw [List.length_reverse, List.length_map]
    apply (List.length_filter_le _ _).trans
    rw [List.length_drop, List.length_take]
    omega
  have hlt : statusOf header <
      10 ^ ((((header.take 12).drop 9).filter isAsciiDigit).map digitValue).reverse.length := by
    apply Nat.ofDigits_lt_base_pow_length (by decide)
    intro x hx
    obtain ⟨b, hb, rfl⟩ := List.mem_map.mp (List.mem_reverse.mp hx)
    exact digitValue_lt (List.mem_filter.mp hb).2
  exact hlt.trans_le (Nat.pow_le_pow_right (by decide) hlen)

lemma drop_take_concat (header : List UInt8) (b : UInt8) :
    ((header ++ [b]).take 12).drop 9 =
      if 9 ≤ header.length ∧ header.length < 12 then (header.take 12).drop 9 ++ [b]
      else (header.take 12).drop 9 := by
  split_ifs with h
  · rw [List.take_of_length_le (by simp; omega), List.take_of_length_le (by omega),
      List.drop_append_of_le_length h.1]
  · rcases Nat.lt_or_ge header.length 9 with hlt | hge
    · rw [List.drop_eq_nil_of_le (by simp; omega), List.drop_eq_nil_of_le (by simp; omega)]
    · rw [List.take_append_of_le_length (by omega)]

lemma statusOf_concat (header : List UInt8) (b : UInt8) :
    statusOf (header ++ [b]) =
      if 9 ≤ header.length ∧ header.length < 12 ∧ isAsciiDigit b then
        statusOf header * 10 + digitValue b
      else statusOf header := by
  rw [statusOf, statusOf, drop_take_concat]
  split_ifs with hpos hdigit hdigit
  · rw [List.filter_append, List.filter_singleton, hdigit.2.2, cond_true, List.map_append,
      List.map_singleton, List.reverse_append, List.reverse_singleton, List.singleton_append,
      Nat.ofDigits_cons]
    omega
  · have hb : isAsciiDigit b = false := by
      rw [Bool.eq_false_iff]
      exact fun hb => hdigit ⟨hpos.1, hpos.2, hb⟩
    simp [hb]
  · exact absurd ⟨hdigit.1, hdigit.2.1⟩ hpos
  · rfl

def StatusRead (c : BodyCount) (stream : List UInt8) : Prop :=
  ∃ header body, stream = header ++ body ∧ body.length = c.bytes ∧
    c.statusPos = min 12 header.length ∧ c.status = statusOf header

lemma readStatus_eq {c : BodyCount} {header : List UInt8} (hpos : c.statusPos = min 12 header.length)
    (hst : c.status = statusOf header) (b : UInt8) :
    (c.readStatus b).statusPos = min 12 (header ++ [b]).length ∧
      (c.readStatus b).status = statusOf (header ++ [b]) := by
  rw [BodyCount.readStatus, statusOf_concat, List.length_append, List.length_singleton]
  split_ifs with hlt
  all_goals grind [digitValue]

lemma statusRead_countLoop {c : BodyCount} {header : List UInt8} (hb : c.bytes = 0)
    (hpos : c.statusPos = min 12 header.length) (hst : c.status = statusOf header) (k : Counters)
    (data : List UInt8) : StatusRead (countLoop c k data).1 (header ++ data) := by
  induction data generalizing c header with
  | nil => exact ⟨header, [], rfl, hb.symm, hpos, hst⟩
  | cons b rest ih =>
    obtain ⟨hpos', hst'⟩ := readStatus_eq hpos hst b
    rw [List.append_cons]
    simp only [countLoop]
    split_ifs
    · exact ⟨header ++ [b], rest, rfl, by simp [hb], hpos', hst'⟩
    · exact ih (by simpa using hb) hpos' hst'

lemma statusRead_countBody (k : Counters) (stream : List UInt8) :
    StatusRead (countBody .zero k stream).1 stream := by
  have hzero : BodyCount.zero.status = statusOf [] := by decide
  exact statusRead_countLoop rfl rfl hzero k stream

end Status

section Counting

lemma Counted.headersDone_iff {c : BodyCount} {stream : List UInt8} (h : Counted c stream) :
    c.headersDone = true ↔ crlf2 <:+: stream := by
  rw [← not_iff_not, ← afterFirst_eq_none_iff]
  rcases h with ⟨hd, _, hst, hf⟩ | ⟨hd, body, hb, _⟩
  · rw [← List.append_nil stream, hf [], afterFirst_partial hst]
    simp [hd]
  · simp [hd, hb]

lemma countLoop_badStatus (c : BodyCount) (k : Counters) (data : List UInt8)
    (hd : c.headersDone = false) :
    (countLoop c k data).2.badStatus = k.badStatus +
      if (countLoop c k data).1.headersDone = true ∧ (countLoop c k data).1.status ≠ 206 then 1
      else 0 := by
  induction data generalizing c with
  | nil => simp [countLoop, hd]
  | cons b rest ih =>
    simp only [countLoop]
    split_ifs with h4 hbad hbad
    · simp [Counters.noteStatus, hbad.2]
    · have hok : (c.readStatus b).status = 206 := by simpa using hbad
      simp [Counters.noteStatus, hok]
    · rw [ih _ (by simpa using hd), if_pos hbad]
    · rw [ih _ (by simpa using hd), if_neg hbad]

lemma countBody_badStatus (c : BodyCount) (k : Counters) (data : List UInt8) :
    (countBody c k data).2.badStatus = k.badStatus +
      if c.headersDone = false ∧ (countBody c k data).1.headersDone = true ∧
        (countBody c k data).1.status ≠ 206 then 1 else 0 := by
  cases hd : c.headersDone with
  | true => simp [countBody, hd]
  | false =>
    have hloop : countBody c k data = countLoop c k data := if_neg (by simp [hd])
    rw [hloop, countLoop_badStatus c k data hd]
    simp

end Counting

theorem count_body_of_chunks (k : Counters) (chunks : List (List UInt8)) :
    let stream := chunks.flatten
    let r := feed (.zero, k) chunks
    r = countBody .zero k stream ∧
    (r.1.headersDone = true ↔ crlf2 <:+: stream) ∧
    (¬ crlf2 <:+: stream → r.1.bytes = 0 ∧ r.1.status = statusOf stream) ∧
    (∀ before after, stream = before ++ crlf2 ++ after → ¬ crlf2 <:+: (before ++ crlf2).dropLast →
      r.1.bytes = after.length ∧ r.1.status = statusOf (before ++ crlf2)) ∧
    r.1.status < 1000 ∧
    (∀ k' data, (countBody r.1 k' data).2.badStatus = k'.badStatus +
      if r.1.headersDone = false ∧ (countBody r.1 k' data).1.headersDone = true ∧
        (countBody r.1 k' data).1.status ≠ 206 then 1 else 0) ∧
    r.2.badStatus = k.badStatus + if r.1.headersDone = true ∧ r.1.status ≠ 206 then 1 else 0 := by
  dsimp only
  have hfeed : feed (.zero, k) chunks = countBody .zero k chunks.flatten := feed_eq _ chunks
  rw [hfeed]
  generalize chunks.flatten = stream
  have hcounted : Counted (countBody .zero k stream).1 stream := countBody_counted counted_zero k stream
  have hbytes := hcounted.bytes_eq
  obtain ⟨header, body, hsplit, hlen, _, hstatus⟩ := statusRead_countBody k stream
  refine ⟨rfl, hcounted.headersDone_iff, ?_, ?_, ?_, countBody_badStatus _, ?_⟩
  · intro hno
    rw [bodyOf, afterFirst_eq_none_iff.mpr hno] at hbytes
    have hzero : (countBody .zero k stream).1.bytes = 0 := hbytes
    rw [hzero, List.length_eq_zero_iff] at hlen
    rw [hlen, List.append_nil] at hsplit
    exact ⟨hzero, hsplit ▸ hstatus⟩
  · intro before after hat hfirst
    rw [bodyOf, hat, afterFirst_of_first (by decide) hfirst] at hbytes
    have hafter : (countBody .zero k stream).1.bytes = after.length := by
      rw [hat]
      exact hbytes
    have hheader : header = before ++ crlf2 :=
      List.append_inj_left' (hsplit.symm.trans hat) (hlen.trans hafter)
    exact ⟨hafter, hheader ▸ hstatus⟩
  · rw [hstatus]
    exact statusOf_lt header
  · rw [countBody_badStatus]
    congr 1
    exact if_congr (and_iff_right rfl) rfl rfl

end SmoltcpS3.Http
