import SmoltcpS3.Connection.Settlement
import SmoltcpS3.Worker.Completeness

namespace SmoltcpS3.Worker

open Smoltcp Connection ListUpdates

section Ledger

structure Credit where
  established : ℕ
  failed : ℕ
  setupMs : ℕ
  deriving DecidableEq, Repr

def Credit.zero : Credit := ⟨0, 0, 0⟩

structure Entry where
  worker : ℕ
  conn : ℕ
  now : ℤ
  credit : Credit
  deriving DecidableEq, Repr

def creditOf (before after : Counters) : Credit where
  established := after.connsEstablished - before.connsEstablished
  failed := after.connsFailed - before.connsFailed
  setupMs := after.setupMsTotal - before.setupMsTotal

variable (cfg : Config) (up : Startup)

def entryOf (s : System) (e : ℕ × Event) : List Entry :=
  match s.parts[e.1]? with
  | none => []
  | some t =>
    match t.sessionEvent e.2 with
    | some (j, .step now _) =>
      [⟨e.1, j, now, creditOf s.shared (Interleaving.step (Thread.next cfg up) s e).shared⟩]
    | _ => []

def ledger : System → List (ℕ × Event) → List Entry
  | _, [] => []
  | s, e :: es => entryOf cfg up s e ++ ledger (Interleaving.step (Thread.next cfg up) s e) es

def creditsOf (entries : List Entry) (k j : ℕ) : List Entry :=
  entries.filter fun x => x.worker = k ∧ x.conn = j ∧ x.credit ≠ .zero

end Ledger

section Keys

def keyOf (s : Session) : Bool × ℤ := (s.conn.settled, s.conn.startMs)

def Thread.keys (t : Thread) : List (Bool × ℤ) := t.sessions.map keyOf

def settles (b : Bool) (now st : ℤ) (f f' : SetupFigures) : Prop :=
  f'.established = f.established + b.toNat ∧ f'.failed = f.failed + (!b).toNat ∧
    f'.setupMs = f.setupMs + (now - st).toNat

variable {cfg : Config} {up : Startup}

lemma stepSession_keys (cfg : Config) (now : ℤ) (tls : List UnbufferedStatus) (k : Counters)
    (s : Session) :
    (keyOf (Thread.stepSession cfg now tls k s).1 = keyOf s ∧
      figures (Thread.stepSession cfg now tls k s).1.counters = figures k) ∨
    ∃ b, s.conn.settled = false ∧
      keyOf (Thread.stepSession cfg now tls k s).1 = (true, s.conn.startMs) ∧
      settles b now s.conn.startMs (figures k)
        (figures (Thread.stepSession cfg now tls k s).1.counters) := by
  have h := Session.connStep_account cfg now tls { s with counters := k }
  rw [Thread.stepSession]
  cases hset : Session.settlement now { s with counters := k } with
  | none =>
    rw [hset, Session.book] at h
    exact .inl ⟨congrArg (fun a => (a.settled, a.startMs)) h, congrArg Account.figures h⟩
  | some b =>
    have hs : s.conn.settled = false := by
      cases hs : s.conn.settled with
      | true =>
        have hnone : Session.settlement now { s with counters := k } = none :=
          Session.settlement_of_settled hs
        rw [hnone] at hset
        cases hset
      | false => rfl
    rw [hset] at h
    refine .inr ⟨b, hs, ?_, ?_⟩
    · cases b <;> exact congrArg (fun a => (a.settled, a.startMs)) h
    · have hf := congrArg Account.figures h
      simp only [Session.account] at hf
      rw [hf]
      cases b <;> exact ⟨rfl, rfl, rfl⟩

theorem Thread.next_keys (t : Thread) (k : Counters) (e : Event) :
    (figures (t.next cfg up k e).2 = figures k ∧
      ((t.next cfg up k e).1.keys = t.keys ∨
        ∃ st, (t.next cfg up k e).1.keys = t.keys ++ [(false, st)])) ∨
    ∃ j now tls st b, t.sessionEvent e = some (j, .step now tls) ∧ t.keys[j]? = some (false, st) ∧
      (t.next cfg up k e).1.keys = t.keys.set j (true, st) ∧
      settles b now st (figures k) (figures (t.next cfg up k e).2) := by
  rcases next_sessions cfg up t k e with ⟨he, n, hk⟩ | ⟨o, he, hk⟩ | ⟨j, seg, s, -, hs, he, hk⟩ |
    ⟨j, now, tls, s, hev, hs, he, hk⟩ <;> rw [keys, he, hk]
  · exact .inl ⟨rfl, .inl rfl⟩
  · refine .inl ⟨rfl, .inr ⟨o.now, ?_⟩⟩
    rw [List.map_append]
    rfl
  · exact .inl ⟨rfl, .inl (map_set_of_getElem? hs rfl)⟩
  · rcases stepSession_keys cfg now tls k s with ⟨hkey, hfig⟩ | ⟨b, hset, hkey, hfig⟩
    · exact .inl ⟨hfig, .inl (map_set_of_getElem? hs hkey)⟩
    · refine .inr ⟨j, now, tls, s.conn.startMs, b, hev, ?_, ?_, hfig⟩
      · rw [keys, List.getElem?_map, hs, ← hset]
        rfl
      · rw [List.map_set, hkey]
        rfl

end Keys

section Books

def settledCount (keys : List (List (Bool × ℤ))) : ℕ :=
  (keys.map fun ks => (ks.map fun x => x.1.toNat).sum).sum

def Booked (x : Bool × ℤ) (credits : List Entry) : Prop :=
  (x.1 = false ∧ credits = []) ∨
    (x.1 = true ∧ ∃ y, credits = [y] ∧
      (y.credit = ⟨1, 0, (y.now - x.2).toNat⟩ ∨ y.credit = ⟨0, 1, (y.now - x.2).toNat⟩))

structure Books (keys : List (List (Bool × ℤ))) (f : SetupFigures) (entries : List Entry) : Prop where
  booked : ∀ k ks j x, keys[k]? = some ks → ks[j]? = some x → Booked x (creditsOf entries k j)
  fresh : ∀ k j, (∀ ks, keys[k]? = some ks → ks[j]? = none) → creditsOf entries k j = []
  established : f.established = (entries.map (·.credit.established)).sum
  failed : f.failed = (entries.map (·.credit.failed)).sum
  setup : f.setupMs = (entries.map (·.credit.setupMs)).sum
  count : settledCount keys = f.established + f.failed

lemma creditsOf_append (xs ys : List Entry) (k j : ℕ) :
    creditsOf (xs ++ ys) k j = creditsOf xs k j ++ creditsOf ys k j := List.filter_append _ _

lemma creditsOf_of_zero {xs : List Entry} (h : ∀ x ∈ xs, x.credit = .zero) (k j : ℕ) :
    creditsOf xs k j = [] := by
  rw [creditsOf, List.filter_eq_nil_iff]
  intro x hx
  simp [h x hx]

lemma sum_map_of_zero {xs : List Entry} {f : Credit → ℕ} (hf : f .zero = 0)
    (h : ∀ x ∈ xs, x.credit = .zero) : (xs.map fun x => f x.credit).sum = 0 := by
  rw [List.sum_eq_zero]
  intro y hy
  obtain ⟨x, hx, rfl⟩ := List.mem_map.mp hy
  rw [h x hx, hf]

variable {K : List (List (Bool × ℤ))} {f f' : SetupFigures} {L : List Entry}

lemma Books.quiet (h : Books K f L) {xs : List Entry} (hx : ∀ x ∈ xs, x.credit = .zero) :
    Books K f (L ++ xs) where
  booked := by
    intro k ks j x hk hj
    rw [creditsOf_append, creditsOf_of_zero hx, List.append_nil]
    exact h.booked k ks j x hk hj
  fresh := by
    intro k j hn
    rw [creditsOf_append, creditsOf_of_zero hx, List.append_nil]
    exact h.fresh k j hn
  established := by
    rw [List.map_append, List.sum_append, sum_map_of_zero rfl hx]
    exact h.established
  failed := by
    rw [List.map_append, List.sum_append, sum_map_of_zero rfl hx]
    exact h.failed
  setup := by
    rw [List.map_append, List.sum_append, sum_map_of_zero rfl hx]
    exact h.setup
  count := h.count

lemma settledCount_set {k : ℕ} {ks : List (Bool × ℤ)} (hk : K[k]? = some ks)
    (ks' : List (Bool × ℤ)) :
    settledCount (K.set k ks') + (ks.map fun x => x.1.toNat).sum =
      settledCount K + (ks'.map fun x => x.1.toNat).sum := by
  rw [settledCount, settledCount, List.map_set]
  exact sum_set_add (by rw [List.getElem?_map, hk]; rfl) _

lemma fresh_of_set {k j : ℕ} {ks ks' : List (Bool × ℤ)} (hk : K[k]? = some ks)
    (hle : ks.length ≤ ks'.length) {k' : ℕ}
    (hn : ∀ x, (K.set k ks')[k']? = some x → x[j]? = none) :
    ∀ x, K[k']? = some x → x[j]? = none := by
  intro x hx
  by_cases hkk : k = k'
  · subst hkk
    rw [hk, Option.some.injEq] at hx
    subst hx
    have hlt := (List.getElem?_eq_some_iff.mp hk).1
    have h := hn ks' (by rw [List.getElem?_set, if_pos rfl, if_pos hlt])
    rw [List.getElem?_eq_none_iff] at h ⊢
    exact hle.trans h
  · exact hn x (by rw [List.getElem?_set, if_neg hkk]; exact hx)

lemma Books.opened (h : Books K f L) {k : ℕ} {ks : List (Bool × ℤ)} (hk : K[k]? = some ks) (st : ℤ) :
    Books (K.set k (ks ++ [(false, st)])) f L where
  booked := by
    intro k' ks' j x hk' hj
    rcases getElem?_set_cases hk hk' with ⟨rfl, rfl⟩ | ⟨-, hold⟩
    · rw [List.getElem?_append] at hj
      split_ifs at hj with hlt
      · exact h.booked k' ks j x hk hj
      · have hnew : x = (false, st) := by
          rw [List.getElem?_singleton] at hj
          split_ifs at hj
          exact (Option.some.inj hj).symm
        refine .inl ⟨congrArg Prod.fst hnew, h.fresh k' j ?_⟩
        intro y hy
        rw [hk, Option.some.injEq] at hy
        subst hy
        exact List.getElem?_eq_none_iff.mpr (not_lt.mp hlt)
    · exact h.booked k' ks' j x hold hj
  fresh k' j hn := h.fresh k' j (fresh_of_set hk (by simp) hn)
  established := h.established
  failed := h.failed
  setup := h.setup
  count := by
    have hc := settledCount_set hk (ks ++ [(false, st)])
    rw [List.map_append, List.sum_append] at hc
    simp only [List.map_cons, List.map_nil, Bool.toNat_false, List.sum_cons, List.sum_nil] at hc
    have := h.count
    omega

def settledEntry (k j : ℕ) (b : Bool) (now st : ℤ) : Entry :=
  ⟨k, j, now, ⟨b.toNat, (!b).toNat, (now - st).toNat⟩⟩

lemma creditsOf_append_other {x : Entry} {k j : ℕ} (h : ¬ (x.worker = k ∧ x.conn = j)) :
    creditsOf (L ++ [x]) k j = creditsOf L k j := by
  have hnone : creditsOf [x] k j = [] := by
    rw [creditsOf, List.filter_eq_nil_iff]
    intro y hy
    rw [List.mem_singleton] at hy
    subst hy
    simp only [decide_eq_true_eq]
    exact fun hc => h ⟨hc.1, hc.2.1⟩
  rw [creditsOf_append, hnone, List.append_nil]

lemma booked_settledEntry {k j : ℕ} (h : creditsOf L k j = []) (b : Bool) (now st : ℤ) :
    Booked (true, st) (creditsOf (L ++ [settledEntry k j b now st]) k j) := by
  have hself : creditsOf [settledEntry k j b now st] k j = [settledEntry k j b now st] := by
    cases b <;> simp [creditsOf, settledEntry, Credit.zero]
  refine .inr ⟨rfl, settledEntry k j b now st, by rw [creditsOf_append, h, hself, List.nil_append], ?_⟩
  cases b
  · exact .inr rfl
  · exact .inl rfl

lemma Books.unsettled (h : Books K f L) {k j : ℕ} {ks : List (Bool × ℤ)} {st : ℤ}
    (hk : K[k]? = some ks) (hj : ks[j]? = some (false, st)) : creditsOf L k j = [] := by
  rcases h.booked k ks j _ hk hj with ⟨-, hn⟩ | ⟨hcontra, -⟩
  · exact hn
  · cases hcontra

lemma Books.settled (h : Books K f L) {k j : ℕ} {ks : List (Bool × ℤ)} {now st : ℤ} {b : Bool}
    (hk : K[k]? = some ks) (hj : ks[j]? = some (false, st)) (hf : settles b now st f f') :
    Books (K.set k (ks.set j (true, st))) f' (L ++ [settledEntry k j b now st]) where
  booked := by
    intro k' ks' j' x hk' hj'
    rcases getElem?_set_cases hk hk' with ⟨rfl, rfl⟩ | ⟨hne, hold⟩
    · rcases getElem?_set_cases hj hj' with ⟨rfl, rfl⟩ | ⟨hne, hold⟩
      · exact booked_settledEntry (h.unsettled hk hj) b now st
      · rw [creditsOf_append_other fun hc => hne hc.2.symm]
        exact h.booked k' ks j' x hk hold
    · rw [creditsOf_append_other fun hc => hne hc.1.symm]
      exact h.booked k' ks' j' x hold hj'
  fresh := by
    intro k' j' hn
    have hold := fresh_of_set hk (by simp) hn
    rw [creditsOf_append_other, h.fresh k' j' hold]
    rintro ⟨rfl, rfl⟩
    have hnone := hold ks hk
    rw [settledEntry, hj] at hnone
    cases hnone
  established := by
    rw [List.map_append, List.sum_append, ← h.established, hf.1]
    simp [settledEntry]
  failed := by
    rw [List.map_append, List.sum_append, ← h.failed, hf.2.1]
    simp [settledEntry]
  setup := by
    rw [List.map_append, List.sum_append, ← h.setup, hf.2.2]
    simp [settledEntry]
  count := by
    have hc := settledCount_set hk (ks.set j (true, st))
    have hs : ((ks.set j (true, st)).map fun x => x.1.toNat).sum + 0 =
        (ks.map fun x => x.1.toNat).sum + 1 := by
      rw [List.map_set]
      exact sum_set_add (by rw [List.getElem?_map, hj]; rfl) 1
    have hb : b.toNat + (!b).toNat = 1 := by cases b <;> rfl
    have := h.count
    rw [hf.1, hf.2.1]
    omega

end Books

section Runs

variable {cfg : Config} {up : Startup}

def keysOf (s : System) : List (List (Bool × ℤ)) := s.parts.map Thread.keys

lemma creditOf_of_figures {k k' : Counters} (h : figures k' = figures k) : creditOf k k' = .zero := by
  simp only [figures, SetupFigures.mk.injEq] at h
  simp [creditOf, Credit.zero, h]

lemma creditOf_of_settles {b : Bool} {now st : ℤ} {k k' : Counters}
    (h : settles b now st (figures k) (figures k')) :
    creditOf k k' = ⟨b.toNat, (!b).toNat, (now - st).toNat⟩ := by
  obtain ⟨h₁, h₂, h₃⟩ := h
  simp only [figures] at h₁ h₂ h₃
  simp [creditOf, h₁, h₂, h₃]

lemma entryOf_zero {s : System} {e : ℕ × Event}
    (h : figures (Interleaving.step (Thread.next cfg up) s e).shared = figures s.shared) :
    ∀ x ∈ entryOf cfg up s e, x.credit = .zero := by
  intro x hx
  rw [entryOf] at hx
  split at hx
  · cases hx
  · split at hx
    · rw [List.mem_singleton] at hx
      rw [hx]
      exact creditOf_of_figures h
    · cases hx

lemma books_step {s : System} {L : List Entry} (h : Books (keysOf s) (figures s.shared) L)
    (e : ℕ × Event) :
    Books (keysOf (Interleaving.step (Thread.next cfg up) s e))
      (figures (Interleaving.step (Thread.next cfg up) s e).shared) (L ++ entryOf cfg up s e) := by
  cases hp : s.parts[e.1]? with
  | none =>
    have hstep : Interleaving.step (Thread.next cfg up) s e = s := by simp [Interleaving.step, hp]
    have hzero := @entryOf_zero cfg up s e (by rw [hstep])
    rw [hstep]
    exact h.quiet hzero
  | some t =>
    have hstep : Interleaving.step (Thread.next cfg up) s e =
        ⟨s.parts.set e.1 (t.next cfg up s.shared e.2).1, (t.next cfg up s.shared e.2).2⟩ := by
      simp [Interleaving.step, hp]
    have hkeys : keysOf (Interleaving.step (Thread.next cfg up) s e) =
        (keysOf s).set e.1 (t.next cfg up s.shared e.2).1.keys := by
      rw [hstep]
      exact List.map_set
    have hkey : (keysOf s)[e.1]? = some t.keys := by
      rw [keysOf, List.getElem?_map, hp]
      rfl
    rcases @Thread.next_keys cfg up t s.shared e.2 with ⟨hfig, hquiet⟩ |
      ⟨j, now, tls, st, b, hev, hj, hset, hfig⟩
    · have hshared : figures (Interleaving.step (Thread.next cfg up) s e).shared =
          figures s.shared := by
        rw [hstep]
        exact hfig
      rw [hshared, hkeys]
      rcases hquiet with hsame | ⟨st, hopen⟩
      · obtain ⟨_, hget⟩ := List.getElem?_eq_some_iff.mp hkey
        rw [hsame, ← hget, List.set_getElem_self]
        exact h.quiet (entryOf_zero hshared)
      · rw [hopen]
        exact (h.opened hkey st).quiet (entryOf_zero hshared)
    · have hentry : entryOf cfg up s e = [settledEntry e.1 j b now st] := by
        simp only [entryOf, hp, hev]
        rw [hstep, creditOf_of_settles hfig, settledEntry]
      rw [hkeys, hset, hentry]
      refine h.settled hkey hj ?_
      rw [hstep]
      exact hfig

-- The induction is on the events that are left; `L` is what was booked before them.
theorem books_run (s : System) (L : List Entry) (h : Books (keysOf s) (figures s.shared) L)
    (es : List (ℕ × Event)) :
    Books (keysOf (EventRuns.run (Interleaving.step (Thread.next cfg up)) s es))
      (figures (EventRuns.run (Interleaving.step (Thread.next cfg up)) s es).shared)
      (L ++ ledger cfg up s es) := by
  induction es generalizing s L with
  | nil =>
    rw [ledger, List.append_nil]
    exact h
  | cons e es ih =>
    rw [ledger, ← List.append_assoc]
    exact ih _ _ (books_step h e)

lemma keysOf_spawn (cfg : Config) (up : Startup) :
    keysOf (spawn cfg up) = List.replicate up.nWorkers.toNat [] := by
  rw [keysOf, spawn, List.map_map, List.eq_replicate_iff]
  refine ⟨by simp, ?_⟩
  intro ks hks
  obtain ⟨i, -, rfl⟩ := List.mem_map.mp hks
  rfl

lemma books_spawn (cfg : Config) (up : Startup) :
    Books (keysOf (spawn cfg up)) (figures (spawn cfg up).shared) [] where
  booked := by
    intro k ks j x hk hj
    rw [keysOf_spawn] at hk
    rw [List.eq_of_mem_replicate (List.mem_of_getElem? hk)] at hj
    cases hj
  fresh _ _ _ := rfl
  established := rfl
  failed := rfl
  setup := rfl
  count := by
    rw [keysOf_spawn]
    simp [settledCount, spawn, figures, Counters.zero]

theorem books_systemAfter (cfg : Config) (up : Startup) (es : List (ℕ × Event)) :
    Books (keysOf (systemAfter cfg up es)) (figures (systemAfter cfg up es).shared)
      (ledger cfg up (spawn cfg up) es) :=
  books_run (spawn cfg up) [] (books_spawn cfg up) es

end Runs

section Finished

variable {cfg : Config} {up : Startup}

def connections (s : System) : ℕ := (s.parts.map fun t => t.sessions.length).sum

structure AccountedOnce (cfg : Config) (up : Startup) (es : List (ℕ × Event)) : Prop where
  each : ∀ k t j s, (systemAfter cfg up es).parts[k]? = some t → t.sessions[j]? = some s →
    s.conn.settled = true ∧ ∃ x, creditsOf (ledger cfg up (spawn cfg up) es) k j = [x] ∧
      (x.credit = ⟨1, 0, (x.now - s.conn.startMs).toNat⟩ ∨
        x.credit = ⟨0, 1, (x.now - s.conn.startMs).toNat⟩)
  established : (systemAfter cfg up es).shared.connsEstablished =
    ((ledger cfg up (spawn cfg up) es).map (·.credit.established)).sum
  failed : (systemAfter cfg up es).shared.connsFailed =
    ((ledger cfg up (spawn cfg up) es).map (·.credit.failed)).sum
  setup : (systemAfter cfg up es).shared.setupMsTotal =
    ((ledger cfg up (spawn cfg up) es).map (·.credit.setupMs)).sum
  total : (systemAfter cfg up es).shared.connsEstablished +
    (systemAfter cfg up es).shared.connsFailed = connections (systemAfter cfg up es)

def LeftInSetup (cfg : Config) (t : Thread) (e : Event) : Prop :=
  t.SessionEvents (fun _ s e => s.LeftInSetup cfg e) e

instance (cfg : Config) (t : Thread) (e : Event) : Decidable (LeftInSetup cfg t e) :=
  inferInstanceAs (Decidable (t.SessionEvents _ e))

lemma settledCount_of_all {s : System} (h : ∀ t ∈ s.parts, ∀ x ∈ t.sessions, x.conn.settled = true) :
    settledCount (keysOf s) = connections s := by
  rw [settledCount, keysOf, connections, List.map_map]
  congr 1
  apply List.map_congr_left
  intro t ht
  rw [Function.comp_apply, Thread.keys, List.map_map]
  have hone : ∀ x ∈ t.sessions, ((fun y : Bool × ℤ => y.1.toNat) ∘ keyOf) x = 1 := by
    intro x hx
    simp [keyOf, h t ht x hx]
  rw [List.map_congr_left hone]
  simp

theorem accountedOnce_of_settled {es : List (ℕ × Event)}
    (h : ∀ t ∈ (systemAfter cfg up es).parts, ∀ s ∈ t.sessions, s.conn.settled = true) :
    AccountedOnce cfg up es := by
  have hb := books_systemAfter cfg up es
  refine ⟨?_, hb.established, hb.failed, hb.setup, ?_⟩
  · intro k t j s ht hs
    have hset := h t (List.mem_of_getElem? ht) s (List.mem_of_getElem? hs)
    refine ⟨hset, ?_⟩
    have hk : (keysOf (systemAfter cfg up es))[k]? = some t.keys := by
      rw [keysOf, List.getElem?_map, ht]
      rfl
    have hj : t.keys[j]? = some (keyOf s) := by
      rw [Thread.keys, List.getElem?_map, hs]
      rfl
    rcases hb.booked k t.keys j (keyOf s) hk hj with ⟨hno, -⟩ | ⟨-, x, hx, hcredit⟩
    · rw [keyOf, hset] at hno
      cases hno
    · exact ⟨x, hx, hcredit⟩
  · rw [← settledCount_of_all h]
    exact hb.count.symm

theorem settled_of_left {es : List (ℕ × Event)}
    (h : Interleaving.LocalAlong (Thread.next cfg up) (fun _ t e => LeftInSetup cfg t e)
      (spawn cfg up) es) :
    Interleaving.Each (fun _ t => t.EachSession fun _ s => s.conn.done = true → s.conn.settled = true)
      (systemAfter cfg up es) := by
  refine Interleaving.Each.run (P := fun _ t e => LeftInSetup cfg t e) ?_ ?_ h
  · intro k t c e hi hp
    exact hi.next (fun _ _ hd => by cases hd) (fun _ _ _ h => h) (fun _ _ _ e h => by cases e <;> exact h)
      (fun _ s e hi he => Session.next_done_settled hi he) hp
  · apply each_spawn
    intro k j s hs
    cases hs

def Thread.Lost (t : Thread) : Prop := ∃ s ∈ t.sessions, s.Unaccounted

theorem Thread.Lost.next {t : Thread} (h : t.Lost) (k : Counters) (e : Event) :
    (t.next cfg up k e).1.Lost := by
  rw [Lost]
  rcases next_sessions cfg up t k e with ⟨he, -⟩ | ⟨o, he, -⟩ | ⟨j, seg, s, -, hs, he, -⟩ |
    ⟨j, now, tls, s, -, hs, he, -⟩ <;> rw [he]
  · exact h
  · obtain ⟨x, hx, hlost⟩ := h
    exact ⟨x, List.mem_append_left _ hx, hlost⟩
  · exact exists_mem_set hs (fun hl => @Session.Unaccounted.next cfg s hl (.segment seg)) h
  · exact exists_mem_set hs (fun hl => Session.Unaccounted.next (s := { s with counters := k }) hl
      (.step now tls)) h

lemma Thread.sessionEvent_step {t : Thread} {e : Event} {j : ℕ} {now : ℤ}
    {tls : List UnbufferedStatus} (h : t.sessionEvent e = some (j, .step now tls)) :
    ∃ allDone, t.phase = .stepping j allDone ∧ e = .step now tls := by
  unfold sessionEvent at h
  split at h
  · simp at h
  · rename_i i allDone now' tls' hp
    simp only [Option.some.injEq, Prod.mk.injEq, Connection.Event.step.injEq] at h
    obtain ⟨rfl, rfl, rfl⟩ := h
    exact ⟨allDone, hp, rfl⟩
  · cases h

lemma Thread.lost_of_not_left {t : Thread} {e : Event} (h : ¬ LeftInSetup cfg t e) (k : Counters) :
    (t.next cfg up k e).1.Lost := by
  rw [LeftInSetup, SessionEvents] at h
  push Not at h
  obtain ⟨⟨j, ev⟩, hev, s, hs, hnot⟩ := h
  rw [Option.mem_def] at hev hs
  cases ev with
  | segment seg => exact absurd trivial hnot
  | step now tls =>
    obtain ⟨allDone, hp, rfl⟩ := sessionEvent_step hev
    have hlost := @Session.unaccounted_of_not_left cfg { s with counters := k } (.step now tls) hnot
    have hsessions : (t.next cfg up k (.step now tls)).1.sessions =
        t.sessions.set j (stepSession cfg now tls k s).1 := by
      simp only [next, hp, onStep, hs, stepFrom_sessions]
    refine ⟨(stepSession cfg now tls k s).1, ?_, hlost⟩
    rw [hsessions]
    exact List.mem_set (List.getElem?_eq_some_iff.mp hs).1 _

theorem accountedOnce_iff (cfg : Config) (up : Startup) (es : List (ℕ × Event))
    (hdone : ∀ t ∈ (systemAfter cfg up es).parts, ∀ s ∈ t.sessions, s.conn.done = true) :
    AccountedOnce cfg up es ↔
      Interleaving.LocalAlong (Thread.next cfg up) (fun _ t e => LeftInSetup cfg t e)
        (spawn cfg up) es := by
  constructor
  · intro h
    refine Interleaving.localAlong_of_not_somewhere (B := Thread.Lost) (fun t k e hl => hl.next k e)
      (fun _ t k e hn => Thread.lost_of_not_left hn k) ?_
    rintro ⟨t, ht, s, hs, hlost, -⟩
    obtain ⟨k, hk⟩ := List.mem_iff_getElem?.mp ht
    obtain ⟨j, hj⟩ := List.mem_iff_getElem?.mp hs
    rw [(h.each k t j s hk hj).1] at hlost
    cases hlost
  · intro h
    apply accountedOnce_of_settled
    intro t ht s hs
    obtain ⟨k, hk⟩ := List.mem_iff_getElem?.mp ht
    obtain ⟨j, hj⟩ := List.mem_iff_getElem?.mp hs
    exact settled_of_left h k t hk j s hj (hdone t ht s hs)

theorem accountedOnce_pair :
    AccountedOnce (.small true) pairStartup (pairRun fullResponse fullResponse) := by
  refine (accountedOnce_iff (.small true) pairStartup _ ?_).mpr ?_
  · rw [systemAfter_pairRun]
    decide +kernel
  · rw [spawn_pair]
    decide +kernel

-- The peer answers the SYN and closes before the worker looks at the connection again.
def hangUp : List (ℕ × Event) :=
  [(0, .start), (0, .connect true true 0), (0, .segment 0 ⟨.syn, true, 0, false, []⟩),
    (0, .segment 0 ⟨.fin, true, 0, false, []⟩), (0, .polled), (0, .step 1 [])]

theorem not_accountedOnce_hangUp :
    (∀ t ∈ (systemAfter (.small true) pairStartup hangUp).parts, ∀ s ∈ t.sessions,
      s.conn.done = true ∧ s.conn.settled = false) ∧
    connections (systemAfter (.small true) pairStartup hangUp) = 1 ∧
    (systemAfter (.small true) pairStartup hangUp).shared.connsEstablished +
      (systemAfter (.small true) pairStartup hangUp).shared.connsFailed = 0 ∧
    ¬ AccountedOnce (.small true) pairStartup hangUp := by
  have hdone : ∀ t ∈ (systemAfter (.small true) pairStartup hangUp).parts, ∀ s ∈ t.sessions,
      s.conn.done = true ∧ s.conn.settled = false := by
    rw [systemAfter, spawn_pair]
    decide +kernel
  have hconns : connections (systemAfter (.small true) pairStartup hangUp) = 1 := by
    rw [systemAfter, spawn_pair]
    decide +kernel
  have hnone : (systemAfter (.small true) pairStartup hangUp).shared.connsEstablished +
      (systemAfter (.small true) pairStartup hangUp).shared.connsFailed = 0 := by
    rw [systemAfter, spawn_pair]
    decide +kernel
  refine ⟨hdone, hconns, hnone, ?_⟩
  intro h
  have htotal := h.total
  rw [hconns, hnone] at htotal
  cases htotal

end Finished

end SmoltcpS3.Worker
