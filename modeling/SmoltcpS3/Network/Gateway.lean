import Mathlib.Tactic.IntervalCases
import SmoltcpS3.Network.Arp

/-! How long the seeded gateway entry carries a worker: each packet it sends looks the gateway up,
and nothing refreshes the entry. -/

namespace SmoltcpS3.Network

namespace Link

variable (link : Link)

lemma not_isBroadcast_target : link.targetIp.isBroadcast = false := by
  have h := link.target_unicast
  simp only [Ipv4Address.isUnicast, Bool.not_eq_true', Bool.or_eq_false_iff] at h
  exact h.1.1

lemma not_isMulticast_target : link.targetIp.isMulticast = false := by
  have h := link.target_unicast
  simp only [Ipv4Address.isUnicast, Bool.not_eq_true', Bool.or_eq_false_iff] at h
  exact h.1.2

lemma route_target : link.route link.targetIp = some link.gatewayIp := by
  simp [route, inSameNetwork, link.target_outside, link.not_isBroadcast_target]

lemma gateway_ne_target : link.gatewayIp ≠ link.targetIp := by
  intro h
  have := link.gateway_inside
  rw [h, link.target_outside] at this
  cases this

lemma hostBits_and_netmask {n : ℕ} (h : n ≤ 32) : (0xffffffff : BitVec 32) >>> n &&& netmask n = 0#32 := by
  interval_cases n <;> decide

lemma not_isBroadcastV4_target : link.isBroadcastV4 link.targetIp = false := by
  rw [isBroadcastV4, link.not_isBroadcast_target, Bool.false_or, beq_eq_false_iff_ne, subnetBroadcast]
  split_ifs
  · exact nofun
  · intro h
    have hout := link.target_outside
    rw [containsAddr, beq_eq_false_iff_ne] at hout
    apply hout
    rw [← Option.some.inj h, BitVec.and_or_distrib_right, hostBits_and_netmask link.prefixLen_le,
      BitVec.or_zero, BitVec.and_assoc, BitVec.and_self]

end Link

namespace Interface

structure Seeded (link : Link) (expiry : ℤ) (s : Interface) : Prop where
  holds : s.cache.Holds link.gatewayIp ⟨link.gatewayMac, expiry⟩
  taken : s.pendingSynth = none

def AllActive (s : Interface) : Prop := ∀ m ∈ s.metas, m = .active

def Missed (s : Interface) : Prop := ∃ a ∈ s.lookups, a.isFound = false

structure Quiet (link : Link) (s : Interface) : Prop where
  found : ∀ a ∈ s.lookups, a = .found link.gatewayMac
  noArp : ∀ r, .arp r ∉ s.sent

lemma processArp_seed (link : Link) (s : Interface) :
    s.processArp link ((buildArpReply link.gatewayMac link.gatewayIp link.mac link.ip).drop 14) =
      { s with cache := s.cache.fill link.gatewayIp link.gatewayMac s.now } := by
  have hown : (link.ip, link.prefixLen) ∈ link.host.ipAddrs := List.mem_singleton.mpr rfl
  have hreply := Host.processArp_reply link.mac hown link.gateway_inside link.gateway_unicast
    link.gatewayMac_unicast s.now s.cache
  rw [processArp_eq_host, hreply]
  simp

lemma takeSynth_start (link : Link) (n : ℕ) (t : ℤ) :
    ({ start link n with now := t } : Interface).takeSynth link =
      { start link n with
        now := t
        pendingSynth := none
        cache := Cache.new.fill link.gatewayIp link.gatewayMac t } := by
  have hlen : ¬ (buildArpReply link.gatewayMac link.gatewayIp link.mac link.ip).length < 14 := by
    rw [buildArpReply, length_arpFrame]
    decide
  have hmac : readMac (buildArpReply link.gatewayMac link.gatewayIp link.mac link.ip) 0 = link.mac :=
    readMac_arpFrame _ _ _ _ _ _
  have htype : readU16 (buildArpReply link.gatewayMac link.gatewayIp link.mac link.ip) 12 = 0x0806 :=
    ethertype_arpFrame _ _ _ _ _ _
  have hseed := processArp_seed link
  generalize hframe : buildArpReply link.gatewayMac link.gatewayIp link.mac link.ip = frame at *
  have hsynth : (start link n).pendingSynth = some frame := congrArg some hframe
  simp only [takeSynth, hsynth, processEthernet, hlen, hmac, htype, hseed, if_false, if_true, ne_eq,
    not_true_eq_false, and_false]
  rfl

structure Progress (link : Link) (expiry : ℤ) (s s' : Interface) : Prop where
  seeded : s'.Seeded link expiry
  now : s'.now = s.now
  metas : s'.metas.length = s.metas.length
  quiet : s.now < expiry → s.Quiet link → s'.Quiet link
  missed : s.Missed → s'.Missed
  missed_or_active : s.Missed ∨ s.AllActive → s'.Missed ∨ s'.AllActive

variable {link : Link} {expiry : ℤ}

lemma Progress.rfl {s : Interface} (h : s.Seeded link expiry) : Progress link expiry s s :=
  ⟨h, Eq.refl _, Eq.refl _, fun _ => id, id, id⟩

lemma Progress.trans {s s' s'' : Interface} (h : Progress link expiry s s')
    (h' : Progress link expiry s' s'') : Progress link expiry s s'' where
  seeded := h'.seeded
  now := h'.now.trans h.now
  metas := h'.metas.trans h.metas
  quiet hn hq := h'.quiet (h.now ▸ hn) (h.quiet hn hq)
  missed hm := h'.missed (h.missed hm)
  missed_or_active hm := h'.missed_or_active (h.missed_or_active hm)

lemma Progress.foldl {β : Type*} {f : Interface × Bool → β → Interface × Bool}
    (hf : ∀ s b x, s.Seeded link expiry → Progress link expiry s (f (s, b) x).1) (xs : List β)
    {s : Interface} (h : s.Seeded link expiry) (b : Bool) :
    Progress link expiry s (xs.foldl f (s, b)).1 := by
  induction xs generalizing s b with
  | nil => exact .rfl h
  | cons x xs ih =>
    have hx := hf s b x h
    exact hx.trans (ih hx.seeded (f (s, b) x).2)

lemma Missed.of_append {s : Interface} {lookups : List Answer} {a : Answer}
    (hl : s.lookups = lookups ++ [a]) (ha : a.isFound = false) : s.Missed :=
  ⟨a, by simp [hl], ha⟩

lemma Seeded.dispatchIp {s : Interface} (h : s.Seeded link expiry) :
    (s.now < expiry ∧ s.dispatchIp link link.targetIp =
      ({ s with
          lookups := s.lookups ++ [.found link.gatewayMac]
          sent := s.sent ++ [.segment link.gatewayMac] }, true)) ∨
    (¬ s.now < expiry ∧ ∃ a sent silentUntil, a.isFound = false ∧ s.dispatchIp link link.targetIp =
      ({ s with
          lookups := s.lookups ++ [a]
          sent := sent
          cache := { s.cache with silentUntil := silentUntil } }, false)) := by
  have hl := h.holds.lookup s.now
  rw [Interface.dispatchIp, lookupHardwareAddr]
  simp only [link.not_isBroadcastV4_target, link.not_isMulticast_target, link.route_target,
    Bool.false_eq_true, if_false]
  rcases hl with ⟨hn, hl⟩ | ⟨hn, hl⟩
  · exact Or.inl ⟨hn, by simp only [hl]⟩
  · refine Or.inr ⟨hn, ?_⟩
    cases ha : s.cache.lookup link.gatewayIp s.now with
    | found m => simp [ha, Answer.isFound] at hl
    | notFound => exact ⟨.notFound, _, _, rfl, rfl⟩
    | rateLimited => exact ⟨.rateLimited, s.sent, s.cache.silentUntil, rfl, rfl⟩

lemma Quiet.sent {s : Interface} (h : s.Quiet link) :
    ({ s with
        lookups := s.lookups ++ [.found link.gatewayMac]
        sent := s.sent ++ [.segment link.gatewayMac] } : Interface).Quiet link := by
  constructor
  · intro a ha
    rcases List.mem_append.mp ha with ha | ha
    · exact h.found a ha
    · exact List.mem_singleton.mp ha
  · intro r hr
    rcases List.mem_append.mp hr with hr | hr
    · exact h.noArp r hr
    · cases List.mem_singleton.mp hr

lemma Seeded.progress_dispatchIp {s : Interface} (h : s.Seeded link expiry) :
    Progress link expiry s (s.dispatchIp link link.targetIp).1 := by
  rcases h.dispatchIp with ⟨_, he⟩ | ⟨hn, a, _, _, ha, he⟩ <;> rw [he]
  · refine ⟨⟨h.holds, h.taken⟩, rfl, rfl, fun _ hq => hq.sent, ?_, Or.imp_left ?_⟩ <;>
      exact fun ⟨a, ha, hf⟩ => ⟨a, List.mem_append_left _ ha, hf⟩
  · have hm : ∀ {sent cache}, Missed { s with lookups := s.lookups ++ [a], sent := sent, cache := cache } :=
      Missed.of_append rfl ha
    exact ⟨⟨h.holds, h.taken⟩, rfl, rfl, fun hn' => absurd hn' hn, fun _ => hm, fun _ => Or.inl hm⟩

lemma Seeded.missed_dispatchIp {s : Interface} (h : s.Seeded link expiry) (hn : ¬ s.now < expiry) :
    (s.dispatchIp link link.targetIp).1.Missed := by
  rcases h.dispatchIp with ⟨hn', _⟩ | ⟨_, a, _, _, ha, he⟩
  · exact absurd hn' hn
  · rw [he]
    exact Missed.of_append rfl ha

lemma Seeded.processIpv4 {s : Interface} (h : s.Seeded link expiry) {f : TcpFrame}
    (hf : f.srcIp = link.targetIp) :
    s.processIpv4 link f =
      if f.accepted link && f.replies then (s.dispatchIp link link.targetIp).1 else s := by
  have hcache : s.cache.resetExpiryIfExisting f.srcIp f.srcMac s.now = s.cache :=
    h.holds.resetExpiryIfExisting (hf ▸ link.gateway_ne_target) _ _
  have hs : (if link.isUnicastV4 f.dstIp = true then
      { s with cache := s.cache.resetExpiryIfExisting f.srcIp f.srcMac s.now } else s) = s := by
    rw [hcache]
    split_ifs <;> rfl
  rw [Interface.processIpv4]
  dsimp only
  rw [hs, hf]
  cases f.accepted link <;> cases f.replies <;> rfl

lemma Seeded.progress_processIpv4 {s : Interface} (h : s.Seeded link expiry) {f : TcpFrame}
    (hf : f.srcIp = link.targetIp) : Progress link expiry s (s.processIpv4 link f) := by
  rw [h.processIpv4 hf]
  split_ifs
  · exact h.progress_dispatchIp
  · exact .rfl h

lemma Seeded.progress_ingress {s : Interface} (h : s.Seeded link expiry) {fs : List TcpFrame}
    (hfs : ∀ f ∈ fs, f.srcIp = link.targetIp) : Progress link expiry s (s.ingress link fs) := by
  induction fs generalizing s with
  | nil => exact .rfl h
  | cons f fs ih =>
    have hf := h.progress_processIpv4 (hfs f (by simp))
    exact hf.trans (ih hf.seeded fun g hg => hfs g (by simp [hg]))

lemma Seeded.ingress_of_no_reply {s : Interface} (h : s.Seeded link expiry) {fs : List TcpFrame}
    (hfs : ∀ f ∈ fs, f.srcIp = link.targetIp) (hno : ∀ f ∈ fs, (f.accepted link && f.replies) = false) :
    s.ingress link fs = s := by
  induction fs with
  | nil => rfl
  | cons f fs ih =>
    have hf : s.processIpv4 link f = s := by
      rw [h.processIpv4 (hfs f (by simp)), hno f (by simp)]
      rfl
    have := ih (fun g hg => hfs g (by simp [hg])) fun g hg => hno g (by simp [hg])
    rwa [ingress, List.foldl_cons, hf]

lemma Seeded.missed_ingress {s : Interface} (h : s.Seeded link expiry) (hn : ¬ s.now < expiry)
    {fs : List TcpFrame} (hfs : ∀ f ∈ fs, f.srcIp = link.targetIp)
    (hreply : ∃ f ∈ fs, (f.accepted link && f.replies) = true) : (s.ingress link fs).Missed := by
  induction fs generalizing s with
  | nil => simp at hreply
  | cons f fs ih =>
    have hf := h.progress_processIpv4 (hfs f (by simp))
    have hrest : ∀ g ∈ fs, g.srcIp = link.targetIp := fun g hg => hfs g (by simp [hg])
    obtain ⟨g, hg, hr⟩ := hreply
    rcases List.mem_cons.mp hg with rfl | hg
    · apply (hf.seeded.progress_ingress hrest).missed
      rw [h.processIpv4 (hfs g (by simp)), hr]
      exact h.missed_dispatchIp hn
    · exact ih hf.seeded (by rwa [hf.now]) hrest ⟨g, hg, hr⟩

lemma Seeded.progress_setMeta {s : Interface} (h : s.Seeded link expiry) (i : ℕ) {m : NeighborState}
    (hm : s.Missed ∨ (s.AllActive → m = .active)) :
    Progress link expiry s { s with metas := s.metas.set i m } := by
  refine ⟨⟨h.holds, h.taken⟩, rfl, List.length_set, fun _ hq => ⟨hq.found, hq.noArp⟩, id, ?_⟩
  rintro (hmiss | hact)
  · exact Or.inl hmiss
  · apply hm.imp id
    intro hm m' hm'
    rcases List.mem_or_eq_of_mem_set hm' with hm' | rfl
    · exact hact m' hm'
    · exact hm hact

lemma AllActive.egressPermitted {s : Interface} (h : s.AllActive) {i : ℕ} {m : NeighborState}
    (hm : s.metas[i]? = some m) : s.egressPermitted link m = (true, .active) := by
  rw [h m (List.mem_of_getElem? hm)]
  rfl

lemma Seeded.progress_respond {s : Interface} (h : s.Seeded link expiry) (i : ℕ) (b : Bool) :
    Progress link expiry s (respond link i (s, b)).1 := by
  have hp := h.progress_dispatchIp
  rcases h.dispatchIp with ⟨_, he⟩ | ⟨hn, a, _, _, ha, he⟩ <;> rw [he] at hp <;>
    simp only [respond, he]
  · exact hp
  · exact hp.trans (hp.seeded.progress_setMeta i (Or.inl (Missed.of_append rfl ha)))

lemma Seeded.missed_respond {s : Interface} (h : s.Seeded link expiry) (hn : ¬ s.now < expiry)
    (i : ℕ) (b : Bool) : (respond link i (s, b)).1.Missed := by
  rcases h.dispatchIp with ⟨hn', _⟩ | ⟨_, a, _, _, ha, he⟩
  · exact absurd hn' hn
  · simp only [respond, he]
    exact Missed.of_append rfl ha

lemma Seeded.progress_egressSocket {s : Interface} (h : s.Seeded link expiry) (wants : List Bool)
    (b : Bool) (i : ℕ) : Progress link expiry s (egressSocket link wants (s, b) i).1 := by
  rw [egressSocket]
  cases hm : s.metas[i]? with
  | none => exact .rfl h
  | some m =>
    have hset := h.progress_setMeta i (m := (s.egressPermitted link m).2)
      (Or.inr fun ha => congrArg Prod.snd (ha.egressPermitted hm))
    dsimp only
    split_ifs
    · exact hset.trans (hset.seeded.progress_respond i b)
    · exact hset

variable (link) in
lemma egressSocket_of_idle (s : Interface) {wants : List Bool} {i : ℕ} (hi : wants.getD i false = false)
    (b : Bool) :
    (egressSocket link wants (s, b) i).1.lookups = s.lookups ∧
      (egressSocket link wants (s, b) i).1.sent = s.sent ∧
      (egressSocket link wants (s, b) i).2 = b := by
  rw [egressSocket]
  cases s.metas[i]? with
  | none => exact ⟨rfl, rfl, rfl⟩
  | some m =>
    dsimp only
    rw [hi, Bool.and_false]
    exact ⟨rfl, rfl, rfl⟩

lemma Seeded.missed_egressSocket {s : Interface} (h : s.Seeded link expiry) (hn : ¬ s.now < expiry)
    (ha : s.Missed ∨ s.AllActive) {wants : List Bool} {i : ℕ} (hi : i < s.metas.length)
    (hw : wants.getD i false = true) (b : Bool) : (egressSocket link wants (s, b) i).1.Missed := by
  rcases ha with hmiss | ha
  · exact (h.progress_egressSocket wants b i).missed hmiss
  · have hm : s.metas[i]? = some s.metas[i] := List.getElem?_eq_getElem hi
    have hset := h.progress_setMeta i (m := .active) (Or.inr fun _ => rfl)
    simp only [egressSocket, hm, ha.egressPermitted hm, hw, Bool.and_self, if_true]
    exact hset.seeded.missed_respond (by rwa [hset.now]) i b

lemma Seeded.missed_foldl_egressSocket {s : Interface} (h : s.Seeded link expiry) (hn : ¬ s.now < expiry)
    (ha : s.Missed ∨ s.AllActive) {wants : List Bool} {is : List ℕ} {i : ℕ} (hi : i < s.metas.length)
    (hmem : i ∈ is) (hw : wants.getD i false = true) (b : Bool) :
    (is.foldl (egressSocket link wants) (s, b)).1.Missed := by
  induction is generalizing s b with
  | nil => simp at hmem
  | cons j is ih =>
    have hj := h.progress_egressSocket wants b j
    have hrest := Progress.foldl (fun s b i h => h.progress_egressSocket wants b i) is hj.seeded
      (egressSocket link wants (s, b) j).2
    rcases List.mem_cons.mp hmem with rfl | hmem
    · exact hrest.missed (h.missed_egressSocket hn ha hi hw b)
    · exact ih hj.seeded (by rwa [hj.now]) (hj.missed_or_active ha) (by rwa [hj.metas]) hmem _

variable (link) in
lemma foldl_egressSocket_of_idle {wants : List Bool} {is : List ℕ}
    (hi : ∀ i ∈ is, wants.getD i false = false) (s : Interface) (b : Bool) :
    (is.foldl (egressSocket link wants) (s, b)).1.lookups = s.lookups ∧
      (is.foldl (egressSocket link wants) (s, b)).1.sent = s.sent ∧
      (is.foldl (egressSocket link wants) (s, b)).2 = b := by
  induction is generalizing s b with
  | nil => exact ⟨rfl, rfl, rfl⟩
  | cons i is ih =>
    obtain ⟨hl, hs, hb⟩ := egressSocket_of_idle link s (hi i (by simp)) b
    obtain ⟨hl', hs', hb'⟩ := ih (fun j hj => hi j (by simp [hj])) (egressSocket link wants (s, b) i).1
      (egressSocket link wants (s, b) i).2
    exact ⟨hl'.trans hl, hs'.trans hs, hb'.trans hb⟩

lemma Seeded.progress_socketEgress {s : Interface} (h : s.Seeded link expiry) (wants : List Bool) :
    Progress link expiry s (s.socketEgress link wants).1 :=
  Progress.foldl (fun _ b i h => h.progress_egressSocket wants b i) _ h false

lemma Seeded.progress_egressLoop {s : Interface} (h : s.Seeded link expiry) (passes : List (List Bool)) :
    Progress link expiry s (s.egressLoop link passes) := by
  induction passes generalizing s with
  | nil => exact .rfl h
  | cons wants rest ih =>
    have hp := h.progress_socketEgress wants
    rw [egressLoop]
    split <;> rename_i he <;> rw [he] at hp
    · exact hp.trans (ih hp.seeded)
    · exact hp

lemma Seeded.missed_egressLoop {s : Interface} (h : s.Seeded link expiry) (hn : ¬ s.now < expiry)
    (ha : s.Missed ∨ s.AllActive) {passes : List (List Bool)} {i : ℕ} (hi : i < s.metas.length)
    (hw : (passes.headD []).getD i false = true) : (s.egressLoop link passes).Missed := by
  cases passes with
  | nil => simp at hw
  | cons wants rest =>
    have hm : (s.socketEgress link wants).1.Missed :=
      h.missed_foldl_egressSocket hn ha hi (List.mem_range.mpr hi) hw false
    have hp := h.progress_socketEgress wants
    rw [egressLoop]
    split <;> rename_i he <;> rw [he] at hp hm
    · exact (hp.seeded.progress_egressLoop rest).missed hm
    · exact hm

variable (link) in
lemma egressLoop_of_idle {s : Interface} {passes : List (List Bool)}
    (hi : ∀ i < s.metas.length, (passes.headD []).getD i false = false) :
    (s.egressLoop link passes).lookups = s.lookups ∧ (s.egressLoop link passes).sent = s.sent := by
  cases passes with
  | nil => exact ⟨rfl, rfl⟩
  | cons wants rest =>
    obtain ⟨hl, hs, hb⟩ := foldl_egressSocket_of_idle link
      (fun i him => hi i (List.mem_range.mp him)) s false
    rw [egressLoop]
    split <;> rename_i he
    · have hb : (s.socketEgress link wants).2 = false := hb
      rw [he] at hb
      cases hb
    · have hl : (s.socketEgress link wants).1.lookups = s.lookups := hl
      have hs : (s.socketEgress link wants).1.sent = s.sent := hs
      rw [he] at hl hs
      exact ⟨hl, hs⟩

structure Running (link : Link) (n : ℕ) (expiry : ℤ) (s : Interface) : Prop where
  seeded : s.Seeded link expiry
  metas : s.metas.length = n
  missed_or_active : s.Missed ∨ s.AllActive

end Interface

def Poll.Dispatches (link : Link) (n : ℕ) (p : Poll) : Prop :=
  (∃ f ∈ p.frames, (f.accepted link && f.replies) = true) ∨
    ∃ i < n, (p.egress.headD []).getD i false = true

namespace Interface

variable {n : ℕ}

def pollLoops (link : Link) (s : Interface) (p : Poll) : Interface :=
  (s.ingress link p.frames).egressLoop link p.egress

lemma Seeded.poll {s : Interface} (h : s.Seeded link expiry) (p : Poll) :
    s.poll link p = ({ s with now := p.timestamp } : Interface).pollLoops link p := by
  simp only [Interface.poll, takeSynth, h.taken, pollLoops]

lemma Seeded.progress_pollLoops {s : Interface} (h : s.Seeded link expiry) {p : Poll}
    (hp : ∀ f ∈ p.frames, f.srcIp = link.targetIp) : Progress link expiry s (s.pollLoops link p) :=
  have hi := h.progress_ingress hp
  hi.trans (hi.seeded.progress_egressLoop p.egress)

lemma Running.pollLoops {s : Interface} (h : s.Running link n expiry) {p : Poll}
    (hp : ∀ f ∈ p.frames, f.srcIp = link.targetIp) : (s.pollLoops link p).Running link n expiry :=
  have hr := h.seeded.progress_pollLoops hp
  ⟨hr.seeded, hr.metas.trans h.metas, hr.missed_or_active h.missed_or_active⟩

lemma Running.quiet_pollLoops {s : Interface} (h : s.Running link n expiry) {p : Poll}
    (hp : ∀ f ∈ p.frames, f.srcIp = link.targetIp) (hd : p.Dispatches link n → s.now < expiry)
    (hq : s.Quiet link) : (s.pollLoops link p).Quiet link := by
  by_cases hn : s.now < expiry
  · exact (h.seeded.progress_pollLoops hp).quiet hn hq
  · have hno : ¬ p.Dispatches link n := fun hp => hn (hd hp)
    have hin : s.ingress link p.frames = s :=
      h.seeded.ingress_of_no_reply hp fun f hf =>
        Bool.eq_false_iff.mpr fun hr => hno (Or.inl ⟨f, hf, hr⟩)
    obtain ⟨hl, hs⟩ := egressLoop_of_idle link (s := s) fun i hi =>
      Bool.eq_false_iff.mpr fun hw => hno (Or.inr ⟨i, h.metas ▸ hi, hw⟩)
    rw [Interface.pollLoops, hin]
    exact ⟨hl ▸ hq.found, hs ▸ hq.noArp⟩

lemma Running.missed_pollLoops {s : Interface} (h : s.Running link n expiry) {p : Poll}
    (hp : ∀ f ∈ p.frames, f.srcIp = link.targetIp) (hd : p.Dispatches link n) (hn : ¬ s.now < expiry) :
    (s.pollLoops link p).Missed := by
  have hi := h.seeded.progress_ingress hp
  rcases hd with hreply | ⟨i, hin, hw⟩
  · exact (hi.seeded.progress_egressLoop p.egress).missed (h.seeded.missed_ingress hn hp hreply)
  · exact hi.seeded.missed_egressLoop (by rwa [hi.now]) (hi.missed_or_active h.missed_or_active)
      (by rwa [hi.metas, h.metas]) hw

lemma Missed.not_quiet {s : Interface} (h : s.Missed) : ¬ s.Quiet link := by
  obtain ⟨a, ha, hf⟩ := h
  intro hq
  rw [hq.found a ha] at hf
  cases hf

lemma Running.setNow {s : Interface} (h : s.Running link n expiry) (t : ℤ) :
    ({ s with now := t } : Interface).Running link n expiry :=
  ⟨⟨h.seeded.holds, h.seeded.taken⟩, h.metas, h.missed_or_active⟩

lemma Running.missed_run {s : Interface} (h : s.Running link n expiry) (hm : s.Missed) {ps : List Poll}
    (hps : ∀ p ∈ ps, ∀ f ∈ p.frames, f.srcIp = link.targetIp) :
    (EventRuns.run (Interface.poll link) s ps).Missed := by
  induction ps generalizing s with
  | nil => exact hm
  | cons p ps ih =>
    have hp := hps p (by simp)
    rw [EventRuns.run_cons, h.seeded.poll]
    refine ih ((h.setNow p.timestamp).pollLoops hp) ?_ fun q hq => hps q (by simp [hq])
    exact ((h.setNow p.timestamp).seeded.progress_pollLoops hp).missed hm

theorem Running.quiet_run_iff {s : Interface} (h : s.Running link n expiry) (hq : s.Quiet link)
    {ps : List Poll} (hps : ∀ p ∈ ps, ∀ f ∈ p.frames, f.srcIp = link.targetIp) :
    (EventRuns.run (Interface.poll link) s ps).Quiet link ↔
      ∀ p ∈ ps, p.Dispatches link n → p.timestamp < expiry := by
  induction ps generalizing s with
  | nil => simp [hq]
  | cons p ps ih =>
    have hp := hps p (by simp)
    have hrest : ∀ q ∈ ps, ∀ f ∈ q.frames, f.srcIp = link.targetIp := fun q hq => hps q (by simp [hq])
    have hnow := h.setNow p.timestamp
    rw [EventRuns.run_cons, h.seeded.poll, List.forall_mem_cons]
    by_cases hd : p.Dispatches link n → p.timestamp < expiry
    · rw [ih (hnow.pollLoops hp) (hnow.quiet_pollLoops hp hd ⟨hq.found, hq.noArp⟩) hrest]
      exact (and_iff_right hd).symm
    · obtain ⟨hd', hn⟩ := Classical.not_imp.mp hd
      refine iff_of_false (Missed.not_quiet ?_) fun hall => hd hall.1
      exact (hnow.pollLoops hp).missed_run (hnow.missed_pollLoops hp hd' hn) hrest

def seeded (link : Link) (n : ℕ) (t : ℤ) : Interface :=
  { start link n with
    now := t
    pendingSynth := none
    cache := Cache.new.fill link.gatewayIp link.gatewayMac t }

lemma running_seeded (link : Link) (n : ℕ) (t : ℤ) :
    (seeded link n t).Running link n (t + Cache.entryLifetime) where
  seeded := ⟨Cache.holds_fill _ _ _, rfl⟩
  metas := List.length_replicate
  missed_or_active := Or.inr fun _ hm => List.eq_of_mem_replicate hm

lemma poll_start (link : Link) (n : ℕ) (p : Poll) :
    (start link n).poll link p = (seeded link n p.timestamp).poll link p := by
  rw [(running_seeded link n p.timestamp).seeded.poll, Interface.poll, takeSynth_start]
  rfl

end Interface

/-- A worker looks the gateway up with success and sends no ARP request exactly as long as the
packets are dispatched within the lifetime of the entry that its first poll made. -/
theorem quiet_iff_within_lifetime (link : Link) (n : ℕ) (p₀ : Poll) (ps : List Poll)
    (hframes : ∀ p ∈ p₀ :: ps, ∀ f ∈ p.frames, f.srcIp = link.targetIp ∧ f.srcMac = link.gatewayMac) :
    (interfaceAfter link n (p₀ :: ps)).Quiet link ↔
      ∀ p ∈ p₀ :: ps, p.Dispatches link n → p.timestamp < p₀.timestamp + Cache.entryLifetime := by
  have hrun : interfaceAfter link n (p₀ :: ps) =
      EventRuns.run (Interface.poll link) (.seeded link n p₀.timestamp) (p₀ :: ps) := by
    rw [interfaceAfter, EventRuns.run_cons, EventRuns.run_cons, Interface.poll_start]
  rw [hrun]
  refine (Interface.running_seeded link n p₀.timestamp).quiet_run_iff ⟨?_, ?_⟩ ?_
  · exact fun a ha => absurd ha List.not_mem_nil
  · exact fun r => List.not_mem_nil
  · exact fun p hp f hf => (hframes p hp f hf).1

def labLink : Link where
  mac := ⟨2, 0, 0, 0, 0, 2⟩
  ip := ⟨10, 0, 0, 2⟩
  prefixLen := 24
  gatewayIp := ⟨10, 0, 0, 1⟩
  gatewayMac := ⟨2, 0, 0, 0, 0, 1⟩
  targetIp := ⟨93, 184, 216, 34⟩
  prefixLen_le := by decide
  gateway_inside := by decide
  target_outside := by decide
  gateway_unicast := by decide
  gatewayMac_unicast := by decide
  target_unicast := by decide

def longTransfer : List Poll :=
  [⟨0, [], [[true], [false]]⟩,
    ⟨59999, [⟨labLink.gatewayMac, labLink.targetIp, labLink.ip, true⟩], [[false]]⟩,
    ⟨60000, [], [[true], [false]]⟩]

theorem quiet_iff_within_lifetime_lab :
    (interfaceAfter labLink 1 (longTransfer.take 2)).Quiet labLink := by
  have hearly : ∀ p ∈ longTransfer.take 2, p.timestamp < 0 + Cache.entryLifetime := by decide
  exact (quiet_iff_within_lifetime labLink 1 _ _ (by decide)).mpr fun p hp _ => hearly p hp

theorem arp_request_after_lifetime :
    ¬ ∀ (link : Link) (n : ℕ) (ps : List Poll), ps.Pairwise (·.timestamp ≤ ·.timestamp) →
      (∀ p ∈ ps, ∀ f ∈ p.frames, f.srcIp = link.targetIp ∧ f.srcMac = link.gatewayMac) →
      (interfaceAfter link n ps).Quiet link := by
  intro h
  have hq := h labLink 1 longTransfer (by decide) (by decide)
  apply hq.noArp ⟨1, labLink.mac, labLink.ip, .broadcast, labLink.gatewayIp⟩
  decide +kernel

end SmoltcpS3.Network
