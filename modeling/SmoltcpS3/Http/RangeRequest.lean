import SmoltcpS3.Foundations.Decimal
import SmoltcpS3.Http.CountBody
import SmoltcpS3.Http.Request

namespace SmoltcpS3.Http

open Decimal

section BufWriter

lemma BufWriter.writeStr_of_fits {w : BufWriter} {s : String}
    (h : w.written.length + (bytesOf s).length ≤ w.capacity) :
    w.writeStr s = { w with written := w.written ++ bytesOf s } := by
  rw [writeStr, min_eq_left (by omega), List.take_length]

-- The induction is on the fragments that are left; what they write all fits.
theorem BufWriter.foldl_writeStr (frags : List String) (w : BufWriter)
    (h : w.written.length + (frags.flatMap bytesOf).length ≤ w.capacity) :
    (frags.foldl BufWriter.writeStr w).written = w.written ++ frags.flatMap bytesOf := by
  induction frags generalizing w with
  | nil => simp
  | cons s frags ih =>
    rw [List.flatMap_cons, List.length_append] at h
    rw [List.foldl_cons, writeStr_of_fits (by omega), ih, List.flatMap_cons, List.append_assoc]
    simp only [List.length_append]
    omega

end BufWriter

section Bytes

lemma bytesOf_append (s t : String) : bytesOf (s ++ t) = bytesOf s ++ bytesOf t := by
  simp [bytesOf]

lemma bytesOf_ofList_of_ascii {l : List Char} (h : ∀ c ∈ l, c.utf8Size = 1) :
    bytesOf (String.ofList l) = l.map fun c => UInt8.ofNat c.toNat := by
  induction l with
  | nil => rfl
  | cons c l ih =>
    have hc := h c List.mem_cons_self
    have hl := ih fun c hc => h c (List.mem_cons_of_mem _ hc)
    simp only [bytesOf, String.toUTF8, String.toByteArray_ofList] at hl ⊢
    rw [List.utf8Encode_cons, ByteArray.data_append, Array.toList_append, hl,
      List.utf8Encode_singleton, String.utf8EncodeChar_eq_singleton hc]
    rfl

lemma utf8Size_of_isDigit {c : Char} (h : c.isDigit) : c.utf8Size = 1 := by
  rw [Char.utf8Size_eq_one_iff]
  simp only [Char.isDigit, Bool.and_eq_true, decide_eq_true_eq] at h
  exact UInt32.le_trans h.2 (by decide)

lemma bytesOf_toString (n : UInt64) : bytesOf (toString n) = print n.toNat := by
  have htext : toString n = String.ofList (Nat.toDigits 10 n.toNat) := rfl
  rw [htext, bytesOf_ofList_of_ascii]
  · rfl
  · intro c hc
    exact utf8Size_of_isDigit (Nat.isDigit_of_mem_toDigits (by decide) (by decide) hc)

lemma length_print_u64 (n : UInt64) : (print n.toNat).length ≤ 20 :=
  length_print_le (by decide) (n.toNat_lt.trans (by decide))

end Bytes

section Lines

variable (cfg : Config) (start endInclusive : UInt64)

def rangeRequestText : List UInt8 := (rangeRequestFragments cfg start endInclusive).flatMap bytesOf

def rangeLine : List UInt8 :=
  bytesOf "Range: bytes=" ++ (print start.toNat ++ 45 :: (print endInclusive.toNat ++ [13]))

-- The lines up to the empty one, each still with its CR; a LF ends each of them.
def headerLines : List (List UInt8) :=
  [bytesOf "GET /blob.bin HTTP/1.1\r", bytesOf "Host: " ++ (bytesOf cfg.targetHost ++ [13]),
    bytesOf "User-Agent: minidpdk-smoltcp/0.1\r", rangeLine start endInclusive,
    bytesOf "Connection: close\r"]

lemma rangeRequestText_eq :
    rangeRequestText cfg start endInclusive =
      [10].intercalate (headerLines cfg start endInclusive ++ [[13], []]) := by
  have hget : bytesOf "GET " ++ (bytesOf targetPath ++ bytesOf " HTTP/1.1\r\nHost: ") =
      bytesOf "GET /blob.bin HTTP/1.1\r" ++ 10 :: bytesOf "Host: " := by decide
  have hagent : bytesOf "\r\nUser-Agent: minidpdk-smoltcp/0.1\r\nRange: bytes=" =
      13 :: 10 :: (bytesOf "User-Agent: minidpdk-smoltcp/0.1\r" ++ 10 :: bytesOf "Range: bytes=") := by
    decide
  have hclose : bytesOf "\r\nConnection: close\r\n\r\n" =
      13 :: 10 :: (bytesOf "Connection: close\r" ++ [10, 13, 10]) := by decide
  have hdash : bytesOf "-" = [45] := by decide
  simp only [rangeRequestText, rangeRequestFragments, List.flatMap_cons, List.flatMap_nil, hagent,
    hclose, hdash, bytesOf_toString, headerLines, rangeLine]
  rw [← List.append_assoc, ← List.append_assoc, List.append_assoc (bytesOf "GET "), hget]
  simp [List.intercalate]

lemma length_rangeRequestText_le (h : (bytesOf cfg.targetHost).length ≤ 113) :
    (rangeRequestText cfg start endInclusive).length ≤ requestBufferSize := by
  have hs := length_print_u64 start
  have he := length_print_u64 endInclusive
  have hfixed : (bytesOf "GET ").length + ((bytesOf targetPath).length +
      ((bytesOf " HTTP/1.1\r\nHost: ").length +
        ((bytesOf "\r\nUser-Agent: minidpdk-smoltcp/0.1\r\nRange: bytes=").length +
          ((bytesOf "-").length + (bytesOf "\r\nConnection: close\r\n\r\n").length)))) = 103 := by
    decide
  simp only [rangeRequestText, rangeRequestFragments, List.flatMap_cons, List.flatMap_nil,
    List.length_append, List.length_nil, bytesOf_toString, requestBufferSize]
  omega

variable {cfg start endInclusive}

lemma not_mem_lf_of_digits {ds : List UInt8} (h : Digits ds) : 10 ∉ ds :=
  fun hm => absurd (h 10 hm) (by decide)

lemma not_mem_lf_lines (h : 10 ∉ bytesOf cfg.targetHost) :
    ∀ l ∈ headerLines cfg start endInclusive ++ [[13], []], 10 ∉ l := by
  have hs := not_mem_lf_of_digits (digits_print start.toNat)
  have he := not_mem_lf_of_digits (digits_print endInclusive.toNat)
  have hget : 10 ∉ bytesOf "GET /blob.bin HTTP/1.1\r" := by decide
  have hhost : 10 ∉ bytesOf "Host: " := by decide
  have hagent : 10 ∉ bytesOf "User-Agent: minidpdk-smoltcp/0.1\r" := by decide
  have hrange : 10 ∉ bytesOf "Range: bytes=" := by decide
  have hclose : 10 ∉ bytesOf "Connection: close\r" := by decide
  simp [headerLines, rangeLine, hs, he, hget, hhost, hagent, hrange, hclose, h]

lemma splitOn_rangeRequestText (h : 10 ∉ bytesOf cfg.targetHost) :
    (rangeRequestText cfg start endInclusive).splitOn 10 =
      headerLines cfg start endInclusive ++ [[13], []] := by
  rw [rangeRequestText_eq]
  exact List.splitOn_intercalate 10 (not_mem_lf_lines h) (by simp)

lemma headerLines_ne_cr : [13] ∉ headerLines cfg start endInclusive := by
  have hget : [13] ≠ bytesOf "GET /blob.bin HTTP/1.1\r" := by decide
  have hhost : bytesOf "Host: " = 72 :: bytesOf "ost: " := by decide
  have hagent : [13] ≠ bytesOf "User-Agent: minidpdk-smoltcp/0.1\r" := by decide
  have hrange : bytesOf "Range: bytes=" = 82 :: bytesOf "ange: bytes=" := by decide
  have hclose : [13] ≠ bytesOf "Connection: close\r" := by decide
  simp [headerLines, rangeLine, hget, hhost, hagent, hrange, hclose]

lemma eq_singleton_of_append_cons {A B L : List (List UInt8)} {x e : List UInt8} (hL : x ∉ L)
    (he : e ≠ x) (h : A ++ x :: B = L ++ [x, e]) : B = [e] := by
  rcases List.append_eq_append_iff.mp h with ⟨t, rfl, ht⟩ | ⟨t, rfl, ht⟩
  · cases t with
    | nil => simpa using ht
    | cons y t =>
      rw [List.cons_append, List.cons.injEq] at ht
      exact absurd (by simp [ht.1]) hL
  · cases t with
    | nil => simpa using ht.symm
    | cons y t =>
      cases t with
      | nil => simp_all
      | cons z t => simp at ht

-- An occurrence of CRLFCRLF is a line that holds only its CR.
theorem crlf2_last (h : 10 ∉ bytesOf cfg.targetHost) {pre post : List UInt8}
    (heq : rangeRequestText cfg start endInclusive = pre ++ crlf2 ++ post) : post = [] := by
  have hsplit := @splitOn_rangeRequestText cfg start endInclusive h
  have htext : pre ++ crlf2 ++ post = (pre ++ [13]) ++ 10 :: ([13] ++ 10 :: post) := by
    simp [crlf2]
  rw [heq, htext, List.splitOn_append_cons_self,
    List.splitOn_append_cons_self_of_not_mem (by decide)] at hsplit
  have hpost := eq_singleton_of_append_cons headerLines_ne_cr (by decide) hsplit
  have hjoin : [10].intercalate (post.splitOn 10) = post := List.intercalate_splitOn 10
  rw [hpost] at hjoin
  exact hjoin.symm

lemma crlf2_suffix : ∃ pre, rangeRequestText cfg start endInclusive = pre ++ crlf2 := by
  have hclose : bytesOf "\r\nConnection: close\r\n\r\n" =
      bytesOf "\r\nConnection: close" ++ crlf2 := by decide
  simp only [rangeRequestText, rangeRequestFragments, List.flatMap_cons, List.flatMap_nil, hclose,
    ← List.append_assoc, List.append_nil]
  exact ⟨_, rfl⟩

end Lines

section Parse

def parseRange (l : List UInt8) : Option (ℕ × ℕ) :=
  match trailing l with
  | c :: r =>
    if c = 45 ∧ leading l ≠ [] ∧ leading r ≠ [] ∧ trailing r = [13] then
      some (value (leading l), value (leading r))
    else none
  | [] => none

def rangeOf (request : List UInt8) : Option (ℕ × ℕ) :=
  ((request.splitOn 10).find? ((bytesOf "Range: bytes=").isPrefixOf ·)).bind fun l =>
    parseRange (l.drop (bytesOf "Range: bytes=").length)

lemma parseRange_print (m n : ℕ) : parseRange (print m ++ 45 :: (print n ++ [13])) = some (m, n) := by
  have hm := digits_print m
  have hn := digits_print n
  have hl : leading (print n ++ [13]) = print n := by
    rw [leading_append hn, leading_eq_nil (by decide), List.append_nil]
  have ht : trailing (print n ++ [13]) = [13] := by
    rw [trailing_append hn, trailing_eq_self (by decide)]
  rw [parseRange, trailing_append hm, trailing_eq_self (by decide), leading_append hm,
    leading_eq_nil (by decide), List.append_nil]
  simp only [hl, ht, value_print]
  rw [if_pos ⟨trivial, print_ne_nil m, print_ne_nil n, trivial⟩]

theorem rangeOf_rangeRequestText {cfg : Config} (h : 10 ∉ bytesOf cfg.targetHost)
    (start endInclusive : UInt64) :
    rangeOf (rangeRequestText cfg start endInclusive) = some (start.toNat, endInclusive.toNat) := by
  have hhost : (bytesOf "Range: bytes=").isPrefixOf
      (bytesOf "Host: " ++ (bytesOf cfg.targetHost ++ [13])) = false := by
    have hr : bytesOf "Range: bytes=" = 82 :: bytesOf "ange: bytes=" := by decide
    have hh : bytesOf "Host: " = 72 :: bytesOf "ost: " := by decide
    rw [hr, hh, List.cons_append, List.isPrefixOf]
    rfl
  have hline : (bytesOf "Range: bytes=").isPrefixOf (rangeLine start endInclusive) = true :=
    List.isPrefixOf_iff_prefix.mpr (List.prefix_append _ _)
  rw [rangeOf, splitOn_rangeRequestText h, headerLines, List.cons_append,
    List.find?_cons_of_neg (by decide), List.cons_append, List.find?_cons_of_neg (by simp [hhost]),
    List.cons_append, List.find?_cons_of_neg (by decide), List.cons_append,
    List.find?_cons_of_pos hline, Option.bind_some, rangeLine, List.drop_left]
  exact parseRange_print _ _

end Parse

section Request

def NoBreak (s : String) : Prop := 13 ∉ bytesOf s ∧ 10 ∉ bytesOf s

structure HostOf (cfg : Config) (bucket region : String) : Prop where
  host : cfg.targetHost = bucket ++ ".s3." ++ region ++ ".amazonaws.com"
  bucket_le : (bytesOf bucket).length ≤ 63
  region_le : (bytesOf region).length ≤ 32
  bucket_noBreak : NoBreak bucket
  region_noBreak : NoBreak region

variable {cfg : Config} {bucket region : String}

lemma HostOf.bytes (h : HostOf cfg bucket region) :
    bytesOf cfg.targetHost =
      bytesOf bucket ++ bytesOf ".s3." ++ bytesOf region ++ bytesOf ".amazonaws.com" := by
  rw [h.host, bytesOf_append, bytesOf_append, bytesOf_append]

lemma HostOf.length_le (h : HostOf cfg bucket region) : (bytesOf cfg.targetHost).length ≤ 113 := by
  have hb := h.bucket_le
  have hr := h.region_le
  have hs3 : (bytesOf ".s3.").length = 4 := by decide
  have haws : (bytesOf ".amazonaws.com").length = 14 := by decide
  rw [h.bytes]
  simp only [List.length_append]
  omega

lemma HostOf.not_mem_lf (h : HostOf cfg bucket region) : 10 ∉ bytesOf cfg.targetHost := by
  have hs3 : 10 ∉ bytesOf ".s3." := by decide
  have haws : 10 ∉ bytesOf ".amazonaws.com" := by decide
  rw [h.bytes]
  simp [hs3, haws, h.bucket_noBreak.2, h.region_noBreak.2]

lemma HostOf.written (h : HostOf cfg bucket region) {start endInclusive : UInt64}
    {frags : List String} (hf : frags.flatMap bytesOf = rangeRequestText cfg start endInclusive) :
    (frags.foldl BufWriter.writeStr (.new requestBufferSize)).written =
      rangeRequestText cfg start endInclusive := by
  have hle := length_rangeRequestText_le cfg start endInclusive h.length_le
  rw [BufWriter.foldl_writeStr, hf]
  · rfl
  · rw [hf]
    simpa [BufWriter.new] using hle

theorem buildRangeRequest_determines (cfg : Config) (bucket region : String)
    (h : HostOf cfg bucket region) (start endInclusive : UInt64) :
    (∀ frags : List String, frags.flatMap bytesOf = rangeRequestText cfg start endInclusive →
      (frags.foldl BufWriter.writeStr (.new requestBufferSize)).written =
        rangeRequestText cfg start endInclusive) ∧
    buildRangeRequest cfg start endInclusive = rangeRequestText cfg start endInclusive ∧
    (∃ pre, buildRangeRequest cfg start endInclusive = pre ++ crlf2) ∧
    (∀ pre post, buildRangeRequest cfg start endInclusive = pre ++ crlf2 ++ post → post = []) ∧
    rangeOf (buildRangeRequest cfg start endInclusive) =
      some (start.toNat, endInclusive.toNat) ∧
    ∀ start' end', buildRangeRequest cfg start' end' = buildRangeRequest cfg start endInclusive →
      start' = start ∧ end' = endInclusive := by
  have hreq : ∀ a b, buildRangeRequest cfg a b = rangeRequestText cfg a b := fun a b =>
    h.written rfl
  simp only [hreq]
  refine ⟨fun frags => h.written, trivial, crlf2_suffix, fun pre post => crlf2_last h.not_mem_lf,
    rangeOf_rangeRequestText h.not_mem_lf start endInclusive, ?_⟩
  intro start' end' heq
  have hrange := congrArg rangeOf heq
  rw [rangeOf_rangeRequestText h.not_mem_lf, rangeOf_rangeRequestText h.not_mem_lf] at hrange
  simpa [UInt64.toNat_inj] using hrange

theorem buildRangeRequest_determines_largest :
    HostOf (.small true) "b" "r" ∧
      rangeOf (buildRangeRequest (.small true) 0 18446744073709551615) =
        some (0, 18446744073709551615) := by
  have h : HostOf (.small true) "b" "r" :=
    ⟨rfl, by decide, by decide, ⟨by decide, by decide⟩, ⟨by decide, by decide⟩⟩
  exact ⟨h, (buildRangeRequest_determines _ "b" "r" h 0 18446744073709551615).2.2.2.2.1⟩

end Request

end SmoltcpS3.Http
