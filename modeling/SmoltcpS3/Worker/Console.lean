import SmoltcpS3.Foundations.Exclusion
import SmoltcpS3.Http.Request

namespace SmoltcpS3.Worker

open EventRuns Http Interleaving

def lineMax : ℕ := 256

def newline : UInt8 := 10

def formatLine (frags : List String) : List UInt8 :=
  let w := frags.foldl BufWriter.writeStr (.new lineMax)
  -- A truncated line makes room for the newline.
  let used := if w.written.length = lineMax then w.written.length - 1 else w.written.length
  w.written.take used ++ [newline]

structure Piece where
  line : List UInt8
  written : List UInt8
  deriving DecidableEq

inductive PrintPhase
  | idle
  | spinning (line : List UInt8)
  | writing (line : List UInt8) (off : ℕ)
  | leaving
  deriving DecidableEq

structure Printer where
  phase : PrintPhase
  asked : List (List String)
  printed : List Piece
  deriving DecidableEq

structure Console where
  printLock : Bool
  output : List UInt8
  deriving DecidableEq

def Console.write (c : Console) (bytes : List UInt8) : Console := { c with output := c.output ++ bytes }

/-- `compareExchange` may fail for no reason, and `wrote` has the result of `write`. -/
inductive PrintEvent
  | printLine (frags : List String)
  | compareExchange (spurious : Bool)
  | wrote (n : ℤ)
  | store
  deriving DecidableEq

def PrintEvent.Succeeds : PrintEvent → Prop
  | .wrote n => 0 < n
  | _ => True

namespace Printer

def leave (p : Printer) (line : List UInt8) (off : ℕ) : Printer :=
  { p with phase := .leaving, printed := p.printed ++ [⟨line, line.take off⟩] }

def next (p : Printer) (c : Console) (e : PrintEvent) : Printer × Console :=
  match p.phase, e with
  | .idle, .printLine frags => ({ p with phase := .spinning (formatLine frags), asked := p.asked ++ [frags] }, c)
  | .spinning line, .compareExchange spurious =>
    if c.printLock = false ∧ spurious = false then ({ p with phase := .writing line 0 }, { c with printLock := true })
    else (p, c)
  | .writing line off, .wrote n =>
    if n ≤ 0 then (p.leave line off, c)
    else
      (if off + n.toNat < line.length then { p with phase := .writing line (off + n.toNat) }
        else p.leave line (off + n.toNat),
        c.write ((line.drop off).take n.toNat))
  | .leaving, .store => ({ p with phase := .idle }, { c with printLock := false })
  | _, _ => (p, c)

def holds (p : Printer) : Bool :=
  match p.phase with
  | .writing _ _ | .leaving => true
  | _ => false

def unfinished (p : Printer) : List UInt8 :=
  match p.phase with
  | .writing line off => line.take off
  | _ => []

def pending (p : Printer) : List (List UInt8) :=
  match p.phase with
  | .spinning line | .writing line _ => [line]
  | _ => []

end Printer

def printers (n : ℕ) : System Printer Console := ⟨List.replicate n ⟨.idle, [], []⟩, ⟨false, []⟩⟩

section Lines

def lineOf (frags : List String) : List UInt8 := (frags.flatMap bytesOf).take (lineMax - 1) ++ [newline]

lemma foldl_writeStr_take (frags : List String) (w : BufWriter) (h : w.written.length ≤ w.capacity) :
    (frags.foldl BufWriter.writeStr w).written = (w.written ++ frags.flatMap bytesOf).take w.capacity := by
  induction frags generalizing w with
  | nil => rw [List.foldl_nil, List.flatMap_nil, List.append_nil, List.take_of_length_le h]
  | cons s frags ih =>
    have hwrite : (w.writeStr s).written = (w.written ++ bytesOf s).take w.capacity := by
      rw [BufWriter.writeStr, List.take_append, List.take_of_length_le h, Nat.min_comm]
      dsimp only
      congr 1
      rcases Nat.le_total (w.capacity - w.written.length) (bytesOf s).length with hle | hle
      · rw [Nat.min_eq_left hle]
      · rw [Nat.min_eq_right hle, List.take_of_length_le le_rfl, List.take_of_length_le hle]
    have hlen : (w.writeStr s).written.length ≤ (w.writeStr s).capacity := by
      rw [hwrite]
      exact List.length_take_le _ _
    rw [List.foldl_cons, ih _ hlen, hwrite, show (w.writeStr s).capacity = w.capacity from rfl, List.flatMap_cons,
      ← List.append_assoc]
    rcases Nat.le_total (w.written ++ bytesOf s).length w.capacity with hle | hle
    · rw [List.take_of_length_le hle]
    · rw [List.take_append_of_le_length (by rw [List.length_take]; omega), List.take_take, Nat.min_self,
        List.take_append_of_le_length hle]

lemma formatLine_eq (frags : List String) : formatLine frags = lineOf frags := by
  have hw := foldl_writeStr_take frags (.new lineMax) (Nat.zero_le _)
  rw [show (BufWriter.new lineMax).written = [] from rfl, List.nil_append,
    show (BufWriter.new lineMax).capacity = lineMax from rfl] at hw
  rw [formatLine, lineOf, hw]
  congr 1
  by_cases hfull : ((frags.flatMap bytesOf).take lineMax).length = lineMax
  · rw [if_pos hfull, hfull, List.take_take, Nat.min_eq_left (Nat.sub_le _ _)]
  · rw [if_neg hfull, List.take_of_length_le le_rfl]
    rw [List.length_take, lineMax] at hfull
    rw [List.take_of_length_le (by rw [lineMax]; omega), List.take_of_length_le (by rw [lineMax]; omega)]

end Lines

section Moves

inductive Moves (p : Printer) (c : Console) (e : PrintEvent) : Printer → Console → Prop
  | stays : Moves p c e p c
  | asks (frags : List String) (h : p.phase = .idle) :
      Moves p c e { p with phase := .spinning (formatLine frags), asked := p.asked ++ [frags] } c
  | takes (line : List UInt8) (h : p.phase = .spinning line) (hfree : c.printLock = false) :
      Moves p c e { p with phase := .writing line 0 } { c with printLock := true }
  | writes (line : List UInt8) (off k : ℕ) (h : p.phase = .writing line off) :
      Moves p c e { p with phase := .writing line (off + k) } (c.write ((line.drop off).take k))
  | leaves (line : List UInt8) (off k : ℕ) (h : p.phase = .writing line off)
      (hall : e.Succeeds → line.length ≤ off + k) :
      Moves p c e (p.leave line (off + k)) (c.write ((line.drop off).take k))
  | gives (h : p.phase = .leaving) : Moves p c e { p with phase := .idle } { c with printLock := false }

lemma Printer.next_moves (p : Printer) (c : Console) (e : PrintEvent) : Moves p c e (p.next c e).1 (p.next c e).2 := by
  unfold next
  split
  · rename_i frags hphase
    exact .asks frags hphase
  · rename_i line spurious hphase
    by_cases hfree : c.printLock = false ∧ spurious = false
    · rw [if_pos hfree]
      exact .takes line hphase hfree.1
    · rw [if_neg hfree]
      exact .stays
  · rename_i line off n hphase
    by_cases hn : n ≤ 0
    · have hleave : Moves p c (.wrote n) (p.leave line (off + 0)) (c.write ((line.drop off).take 0)) := by
        apply Moves.leaves line off 0 hphase
        intro hsucceeds
        exact absurd (show 0 < n from hsucceeds) (by omega)
      rw [if_pos hn]
      simpa [Console.write] using hleave
    · rw [if_neg hn]
      dsimp only
      by_cases hmore : off + n.toNat < line.length
      · rw [if_pos hmore]
        exact .writes line off n.toNat hphase
      · rw [if_neg hmore]
        exact .leaves line off n.toNat hphase fun _ => by omega
  · rename_i hphase
    exact .gives hphase
  · exact .stays

variable {p p' : Printer} {c c' : Console} {e : PrintEvent}

lemma Moves.discipline (h : Moves p c e p' c') : Discipline Printer.holds Console.printLock p c p' c' := by
  cases h with
  | stays => exact .keeps rfl rfl
  | asks frags h => exact .keeps (by rw [Printer.holds, Printer.holds, h]) rfl
  | takes line h hfree => exact .takes rfl hfree rfl
  | writes line off k h => exact .keeps (by rw [Printer.holds, Printer.holds, h]) rfl
  | leaves line off k h hall => exact .keeps (by rw [Printer.holds, Printer.holds, h]; rfl) rfl
  | gives h => exact .gives (by rw [Printer.holds, h]) rfl rfl

structure Told (p : Printer) : Prop where
  lines : p.printed.map Piece.line ++ p.pending = p.asked.map lineOf
  starts : ∀ piece ∈ p.printed, piece.written <+: piece.line

lemma Moves.told (h : Moves p c e p' c') (ht : Told p) : Told p' := by
  have hlines := ht.lines
  cases h with
  | stays => exact ht
  | asks frags h =>
    refine ⟨?_, ht.starts⟩
    rw [Printer.pending, h, List.append_nil] at hlines
    simp [Printer.pending, hlines, formatLine_eq]
  | takes line h _ =>
    refine ⟨?_, ht.starts⟩
    rwa [Printer.pending, h] at hlines
  | writes line off k h =>
    refine ⟨?_, ht.starts⟩
    rwa [Printer.pending, h] at hlines
  | leaves line off k h _ =>
    rw [Printer.pending, h] at hlines
    refine ⟨?_, ?_⟩
    · simpa [Printer.leave, Printer.pending] using hlines
    · intro piece hmem
      rcases List.mem_append.mp hmem with hmem | hmem
      · exact ht.starts piece hmem
      · rw [List.mem_singleton.mp hmem]
        exact List.take_prefix _ _
  | gives h =>
    refine ⟨?_, ht.starts⟩
    rwa [Printer.pending, h] at hlines

def Whole (p : Printer) : Prop := ∀ piece ∈ p.printed, piece.written = piece.line

lemma Moves.whole (h : Moves p c e p' c') (hw : Whole p) (he : e.Succeeds) : Whole p' := by
  cases h with
  | leaves line off k h hall =>
    intro piece hmem
    rcases List.mem_append.mp hmem with hmem | hmem
    · exact hw piece hmem
    · rw [List.mem_singleton.mp hmem]
      exact List.take_of_length_le (hall he)
  | _ => exact hw

end Moves

section Runs

lemma flatMap_sole {α β : Type*} {f : α → List β} {l : List α} {i : ℕ} {a : α} (ha : l[i]? = some a)
    (hothers : ∀ j b, j ≠ i → l[j]? = some b → f b = []) : l.flatMap f = f a := by
  induction l generalizing i with
  | nil => cases ha
  | cons b l ih =>
    rw [List.flatMap_cons]
    cases i with
    | zero =>
      cases ha
      have hnil : l.flatMap f = [] := by
        rw [List.flatMap_eq_nil_iff]
        intro x hx
        obtain ⟨j, hj⟩ := List.mem_iff_getElem?.mp hx
        exact hothers (j + 1) x (Nat.succ_ne_zero j) hj
      rw [hnil, List.append_nil]
    | succ i =>
      rw [hothers 0 b (Nat.succ_ne_zero i).symm rfl, List.nil_append]
      exact ih ha fun j x hj hx => hothers (j + 1) x (fun he => hj (Nat.succ.inj he)) hx

def Logged (s : System Printer Console) : Prop :=
  ∃ log : List (ℕ × Piece),
    s.shared.output = log.flatMap (fun entry => entry.2.written) ++ s.parts.flatMap Printer.unfinished ∧
    (∀ entry ∈ log, entry.1 < s.parts.length) ∧
    ∀ k p, s.parts[k]? = some p → (log.filter fun entry => entry.1 = k).map Prod.snd = p.printed

lemma unfinished_of_not_holds {p : Printer} (h : p.holds = false) : p.unfinished = [] := by
  rw [Printer.holds] at h
  rw [Printer.unfinished]
  split at h
  all_goals simp_all

lemma Logged.quiet {s : System Printer Console} (h : Logged s) {i : ℕ} {p p' : Printer} {c' : Console}
    (hp : s.parts[i]? = some p) (hunf : p'.unfinished = p.unfinished) (hprinted : p'.printed = p.printed)
    (hout : c'.output = s.shared.output) : Logged ⟨s.parts.set i p', c'⟩ := by
  obtain ⟨log, houtput, hthreads, hlog⟩ := h
  refine ⟨log, ?_, by rwa [List.length_set], ?_⟩
  · dsimp only
    rw [hout, houtput, List.flatMap_def (l := s.parts), List.flatMap_def (l := s.parts.set i p'),
      ListUpdates.map_set_of_getElem? hp hunf]
  · intro k q hq
    rcases ListUpdates.getElem?_set_cases hp hq with ⟨rfl, rfl⟩ | ⟨_, hq⟩
    · rw [hprinted]
      exact hlog k p hp
    · exact hlog k q hq

lemma Logged.step {s : System Printer Console} (hx : Exclusive Printer.holds Console.printLock s) (h : Logged s)
    (e : ℕ × PrintEvent) : Logged (Interleaving.step Printer.next s e) := by
  rw [Interleaving.step]
  cases hp : s.parts[e.1]? with
  | none => exact h
  | some p =>
    dsimp only
    have hlt := (List.getElem?_eq_some_iff.mp hp).1
    -- Only the holder of the lock has an unfinished line, so that what it writes comes last.
    have hothers : p.holds = true → ∀ j q, j ≠ e.1 → s.parts[j]? = some q → q.unfinished = [] :=
      fun hold j q hj hq => unfinished_of_not_holds (hx.alone hp hold hq hj)
    have hset : p.holds = true → ∀ p' : Printer, (s.parts.set e.1 p').flatMap Printer.unfinished = p'.unfinished := by
      intro hold p'
      apply flatMap_sole (List.getElem?_set_self hlt)
      intro j q hj hq
      rw [List.getElem?_set_ne (Ne.symm hj)] at hq
      exact hothers hold j q hj hq
    generalize hnext : p.next s.shared e.2 = r
    have hmoves := p.next_moves s.shared e.2
    rw [hnext] at hmoves
    obtain ⟨p', c'⟩ := r
    cases hmoves with
    | stays => exact h.quiet hp rfl rfl rfl
    | asks frags hphase => exact h.quiet hp (by rw [Printer.unfinished, Printer.unfinished, hphase]) rfl rfl
    | takes line hphase _ =>
      exact h.quiet hp (by rw [Printer.unfinished, Printer.unfinished, hphase]; rfl) rfl rfl
    | gives hphase => exact h.quiet hp (by rw [Printer.unfinished, Printer.unfinished, hphase]) rfl rfl
    | writes line off k hphase =>
      have hold : p.holds = true := by rw [Printer.holds, hphase]
      obtain ⟨log, houtput, hthreads, hlog⟩ := h
      refine ⟨log, ?_, by rwa [List.length_set], ?_⟩
      · dsimp only [Console.write]
        rw [houtput, flatMap_sole hp (hothers hold), hset hold, Printer.unfinished, Printer.unfinished, hphase,
          List.append_assoc, ← List.take_add]
      · intro j q hq
        rcases ListUpdates.getElem?_set_cases hp hq with ⟨rfl, rfl⟩ | ⟨_, hq⟩
        · exact hlog _ p hp
        · exact hlog j q hq
    | leaves line off k hphase _ =>
      have hold : p.holds = true := by rw [Printer.holds, hphase]
      obtain ⟨log, houtput, hthreads, hlog⟩ := h
      refine ⟨log ++ [(e.1, ⟨line, line.take (off + k)⟩)], ?_, ?_, ?_⟩
      · dsimp only [Console.write]
        rw [houtput, flatMap_sole hp (hothers hold), hset hold, Printer.unfinished, hphase, List.append_assoc,
          ← List.take_add, List.flatMap_append]
        simp [Printer.unfinished]
      · intro entry hentry
        rw [List.length_set]
        rcases List.mem_append.mp hentry with hentry | hentry
        · exact hthreads entry hentry
        · rw [List.mem_singleton.mp hentry]
          exact hlt
      · intro j q hq
        rw [List.filter_append, List.map_append]
        rcases ListUpdates.getElem?_set_cases hp hq with ⟨rfl, rfl⟩ | ⟨hj, hq⟩
        · rw [hlog _ p hp]
          simp
        · rw [hlog j q hq]
          simp [Ne.symm hj]

lemma logged_printers (n : ℕ) : Logged (printers n) := by
  refine ⟨[], ?_, by simp, ?_⟩
  · simp [printers, Printer.unfinished]
  · intro k p hp
    rw [List.eq_of_mem_replicate (List.mem_of_getElem? hp)]
    rfl

variable (n : ℕ) (es : List (ℕ × PrintEvent))

lemma exclusive_logged_run :
    Exclusive Printer.holds Console.printLock (run (step Printer.next) (printers n) es) ∧
      Logged (run (step Printer.next) (printers n) es) := by
  apply run_preserves (I := fun s => Exclusive Printer.holds Console.printLock s ∧ Logged s)
  · rintro s e ⟨hx, hl⟩
    exact ⟨hx.step (fun p c e => (p.next_moves c e).discipline) e, hl.step hx e⟩
  · refine ⟨.of_idle ?_ rfl, logged_printers n⟩
    intro p hp
    rw [List.eq_of_mem_replicate hp]
    rfl

lemma told_run : Each (fun _ => Told) (run (step Printer.next) (printers n) es) := by
  refine Each.run_of_forall (fun _ p c e ht => (p.next_moves c e).told ht) ?_ es
  intro k p hp
  rw [List.eq_of_mem_replicate (List.mem_of_getElem? hp)]
  exact ⟨rfl, nofun⟩

lemma along_of_forall {s : System Printer Console} (h : ∀ e ∈ es, e.2.Succeeds) :
    LocalAlong Printer.next (fun _ _ e => e.Succeeds) s es := by
  induction es generalizing s with
  | nil => trivial
  | cons e es ih =>
    refine ⟨fun _ _ => h e List.mem_cons_self, ?_⟩
    exact ih fun e he => h e (List.mem_cons_of_mem _ he)

lemma whole_run (h : ∀ e ∈ es, e.2.Succeeds) : Each (fun _ => Whole) (run (step Printer.next) (printers n) es) := by
  refine Each.run (fun _ p c e hw he => (p.next_moves c e).whole hw he) ?_ (along_of_forall es h)
  intro k p hp
  rw [List.eq_of_mem_replicate (List.mem_of_getElem? hp)]
  exact nofun

/-- However the threads take turns, and however often the exchange fails and `write` writes only a part, at most
one of them writes at a time. The console has a beginning of each line that a thread is done with, one line after
the other, and then of at most one line more; the lines of each thread are those it was asked for, in order, and
they are whole if no `write` failed. -/
theorem lines_never_interleave (n : ℕ) (es : List (ℕ × PrintEvent)) :
    let s := run (step Printer.next) (printers n) es
    (∀ (i j : ℕ) (p q : Printer), s.parts[i]? = some p → s.parts[j]? = some q → p.holds = true → q.holds = true → i = j) ∧
    (∃ log : List (ℕ × Piece),
      s.shared.output = log.flatMap (fun entry => entry.2.written) ++ s.parts.flatMap Printer.unfinished ∧
      (∀ entry ∈ log, entry.1 < n) ∧
      ∀ k p, s.parts[k]? = some p → (log.filter fun entry => entry.1 = k).map Prod.snd = p.printed) ∧
    ∀ p ∈ s.parts, p.printed.map Piece.line ++ p.pending = p.asked.map lineOf ∧
      ∀ piece ∈ p.printed, piece.written <+: piece.line ∧ ((∀ e ∈ es, e.2.Succeeds) → piece.written = piece.line) := by
  intro s
  obtain ⟨hx, hl⟩ := exclusive_logged_run n es
  have hlength : s.parts.length = n := by rw [length_run, printers, List.length_replicate]
  rw [Logged, hlength] at hl
  refine ⟨?_, hl, ?_⟩
  · intro i j p q hp hq hpold hqold
    by_contra hne
    rw [hx.alone hp hpold hq (Ne.symm hne)] at hqold
    cases hqold
  · intro p hp
    obtain ⟨k, hk⟩ := List.mem_iff_getElem?.mp hp
    have ht := told_run n es k p hk
    refine ⟨ht.lines, fun piece hpiece => ⟨ht.starts piece hpiece, fun hall => ?_⟩⟩
    exact whole_run n es hall k p hk piece hpiece

end Runs

end SmoltcpS3.Worker
