import Mathlib.Tactic.Set
import Mathlib.Algebra.GroupWithZero.Nat
import Diversion.Proofs.Queue

/-!
# `Proofs.Reads` — readers are served in order, and a reader and a packet never both wait

Readers wait in a FIFO of requests; a reader that goes away leaves its request, marked, until it
reaches the front. Serving pairs the front request whose reader is still there with the head
packet, again and again, until one side runs out (`nextPair_some`, `nextPair_none`). So one round
of serving hands the live requests, in the order they wait, the packets, in the order they wait,
one for one (`serviceFor_spec`), and each reader gets its packet repaired as asked and cut to its
length (`complete_spec`, `delivery`).

Every operation that adds a packet or a request serves readers right after, and no other
operation adds either. Hence the invariant `ReadsInv`: an open queue has no packet waiting or no
request waiting, the requests wait in the order they were made, and every request and reply
belongs to a reader already handed out. Closing answers every live request with a refusal and
refuses every later read (`drainAll_answers`, `recv_of_closing`). The main statement is
`reads_paired_in_order`.
-/

namespace Diversion

/-! ## Repair keeps the length -/

theorem Bytes.length_overwrite {b vals : Bytes} {off : Nat} (h : off + vals.length ≤ b.length) :
    (b.overwrite off vals).length = b.length := by
  simp only [Bytes.overwrite, List.length_append, List.length_take, List.length_drop]
  omega

theorem Checksum.transportOffset_add_two_le {proto transLen off : Nat} {fx : ChecksumFixup}
    (h : Checksum.transportOffset proto transLen fx = some off) : off + 2 ≤ transLen := by
  unfold Checksum.transportOffset at h
  split at h
  · next hc =>
    cases h
    omega
  · split at h
    · next hc =>
      cases h
      omega
    · cases h

theorem Checksum.repairHeader_length {p : Bytes} {hl : Nat} (h : 20 ≤ p.length) :
    (Checksum.repairHeader p hl).length = p.length := by
  unfold Checksum.repairHeader Checksum.ipChecksumAt
  have hz : (p.overwrite 10 [0, 0]).length = p.length := Bytes.length_overwrite (by simp; omega)
  rw [Bytes.length_overwrite (by simp [hz]; omega), hz]

/-- **Repairing checksums never changes a packet's length**: every checksum is rewritten in
    place, inside the bounds the repair checked. -/
theorem Checksum.repair_length (p : Bytes) (fx : ChecksumFixup) :
    (Checksum.repair p fx).1.length = p.length := by
  unfold Checksum.repair
  split
  · rfl
  · next hbad =>
    dsimp only
    split
    · rfl
    · next hhl =>
      -- the header repair keeps the length, and the transport checksum lies inside the segment
      have hp : (if fx.ip then Checksum.repairHeader p (p.byteAt 0 % 16 * 4) else p).length =
          p.length := by
        split
        · exact Checksum.repairHeader_length (by omega)
        · rfl
      generalize (if fx.ip then Checksum.repairHeader p (p.byteAt 0 % 16 * 4) else p) = p' at hp ⊢
      split
      · exact hp
      · next htot =>
        split
        · exact hp
        · next off hoff =>
          have hoff2 := Checksum.transportOffset_add_two_le hoff
          have h1 : (p'.overwrite (p.byteAt 0 % 16 * 4 + off) [0, 0]).length = p.length := by
            rw [Bytes.length_overwrite (by simp; omega), hp]
          split <;> rw [Bytes.length_overwrite (by simp [h1]; omega), h1]

namespace Queue

/-! ## One delivery -/

/-- **What a reader gets for a packet**: its bytes, with checksums repaired when repair is on and
    the packet asks for it, cut to the reader's length; its address; and its full length. -/
def delivery (repair : Bool) (maxLen : Nat) (p : Queued) : Delivered :=
  let data := if repair && p.fixup.any then (Checksum.repair p.data p.fixup).1 else p.data
  { data := data.take (min p.data.length maxLen), address := p.address, fullLen := p.data.length }

/-- The reply a request gets for a packet. -/
def answer (repair : Bool) (r : ReadRequest) (p : Queued) : Nat × Except Error Delivered :=
  (r.reader, .ok (delivery repair r.maxLen p))

/-- **Handing a packet to a request** answers it with the delivery and counts one packet and
    the bytes handed over. -/
theorem complete_spec (q : Queue) (r : ReadRequest) (p : Queued) :
    (q.complete r p).replies = q.replies ++ [answer q.repair r p] ∧
      (q.complete r p).counters.packetsDelivered = q.counters.packetsDelivered + 1 ∧
      (q.complete r p).counters.bytesDelivered =
        q.counters.bytesDelivered + UInt64.ofNat (min p.data.length r.maxLen) := by
  by_cases hr : (q.repair && p.fixup.any) = true
  · simp [complete, answer, delivery, hr, Checksum.repair_length]
  · simp [complete, answer, delivery, hr]

/-! ## One pairing -/

/-- The requests whose reader is still there, in the order they wait. -/
def liveRequests (q : Queue) : List ReadRequest := q.requests.filter (!·.abandoned)

theorem filter_dropWhile_abandoned :
    ∀ rs : List ReadRequest,
      (rs.dropWhile (·.abandoned)).filter (!·.abandoned) = rs.filter (!·.abandoned)
  | [] => rfl
  | r :: rs => by
    cases h : r.abandoned
    · simp [h]
    · simp [h, filter_dropWhile_abandoned rs]

/-- A request left at the front after the abandoned ones are skipped is live. -/
theorem abandoned_of_dropWhile {rs rs' : List ReadRequest} {r : ReadRequest}
    (h : rs.dropWhile (·.abandoned) = r :: rs') : r.abandoned = false := by
  have := List.head?_dropWhile_not (·.abandoned) rs
  rw [h] at this
  simpa using this

/-- **Nothing to pair**: the abandoned requests at the front are skipped, and that is all. -/
theorem nextPair_none {q : Queue} (hc : q.closing = false)
    (h : q.requests.dropWhile (·.abandoned) = [] ∨ q.packets = []) :
    q.nextPair = ({ q with requests := q.requests.dropWhile (·.abandoned) }, none) := by
  unfold nextPair
  rw [if_neg (by simp [hc])]
  dsimp only
  rcases h with h | h
  · rw [h]
  · rw [h]
    cases q.requests.dropWhile (·.abandoned) <;> rfl

/-- **A pairing**: the front live request takes the head packet. -/
theorem nextPair_some {q : Queue} (hc : q.closing = false) {r : ReadRequest}
    {rs : List ReadRequest} {p : Queued} {ps : List Queued}
    (hr : q.requests.dropWhile (·.abandoned) = r :: rs) (hp : q.packets = p :: ps) :
    q.nextPair = (gauge { q with requests := rs, packets := ps }, some (r, p)) := by
  unfold nextPair
  rw [if_neg (by simp [hc])]
  dsimp only
  rw [hr, hp]

/-! ## A round of serving -/

/-- **`q'` is `q` after `n` readers were served**, the live requests in the order they wait
    taking the packets in the order they wait. -/
structure Served (q q' : Queue) (n : Nat) : Prop where
  count : n = min q.liveRequests.length q.packets.length
  packets : q'.packets = q.packets.drop n
  live : q'.liveRequests = q.liveRequests.drop n
  suffix : q'.requests <:+ q.requests
  replies : q'.replies = q.replies ++ List.zipWith (answer q.repair) q.liveRequests q.packets
  bytes : q'.counters.bytesDelivered = q.counters.bytesDelivered +
    UInt64.ofNat (List.zipWith (fun r p => min p.data.length r.maxLen) q.liveRequests q.packets).sum
  nextReader : q'.nextReader = q.nextReader
  /-- Serving stops only when no live request or no packet is left. -/
  exhausted : q'.packets = [] ∨ q'.requests = []

/-- **Nobody to serve**: with no live request or no packet waiting, skipping the abandoned
    requests at the front serves no one. -/
theorem served_skip {q : Queue} (h : q.liveRequests = [] ∨ q.packets = []) :
    Served q { q with requests := q.requests.dropWhile (·.abandoned) }
      (min q.liveRequests.length q.packets.length) := by
  have h0 : min q.liveRequests.length q.packets.length = 0 := by
    rcases h with h | h <;> simp [h]
  rw [h0]
  refine ⟨h0.symm, rfl, ?_, List.dropWhile_suffix _, ?_, ?_, rfl, ?_⟩
  · show (q.requests.dropWhile _).filter _ = _
    rw [filter_dropWhile_abandoned]
    rfl
  · rcases h with h | h <;> simp [h]
  · rcases h with h | h <;> simp [h]
  · rcases h with h | h
    · -- a request left after skipping would be live
      refine .inr ?_
      show q.requests.dropWhile (·.abandoned) = []
      cases hr : q.requests.dropWhile (·.abandoned) with
      | nil => rfl
      | cons r rs =>
        have hlive : r ∈ q.liveRequests := by
          rw [liveRequests, ← filter_dropWhile_abandoned, hr]
          simp [abandoned_of_dropWhile hr]
        rw [h] at hlive
        cases hlive
    · exact .inl h

/-- **A round of serving an open queue**, with more fuel than packets. Induction on the fuel: each
    pairing takes the front live request and the head packet. -/
theorem serviceFor_spec : ∀ fuel (q : Queue) (acc : Nat), q.closing = false →
    q.packets.length < fuel →
    (serviceFor fuel q acc).2 = acc + min q.liveRequests.length q.packets.length ∧
      Served q (serviceFor fuel q acc).1 (min q.liveRequests.length q.packets.length)
  | 0, _, _, _, hf => absurd hf (Nat.not_lt_zero _)
  | fuel + 1, q, acc, hc, hf => by
    rw [serviceFor]
    cases hr : q.requests.dropWhile (·.abandoned) with
    | nil =>
      -- only abandoned requests wait: they are skipped and nobody is served
      have hlive : q.liveRequests = [] := by
        rw [liveRequests, ← filter_dropWhile_abandoned, hr]
        rfl
      rw [nextPair_none hc (.inl hr)]
      exact ⟨by simp [hlive], served_skip (.inl hlive)⟩
    | cons r rs =>
      have hra := abandoned_of_dropWhile hr
      have hlive : q.liveRequests = r :: rs.filter (!·.abandoned) := by
        rw [liveRequests, ← filter_dropWhile_abandoned, hr]
        simp [hra]
      cases hp : q.packets with
      | nil =>
        -- no packet waits: the front abandoned requests are skipped and nobody is served
        rw [nextPair_none hc (.inr hp)]
        have hs := served_skip (.inr hp)
        rw [hp] at hs ⊢
        exact ⟨by simp, hs⟩
      | cons p ps =>
        rw [nextPair_some hc hr hp]
        dsimp only
        -- the front live request takes the head packet; the rest is served from there
        set q₁ := (gauge { q with requests := rs, packets := ps }).complete r p
        have hrep : q₁.replies = q.replies ++ [answer q.repair r p] := (complete_spec _ r p).1
        have hbytes : q₁.counters.bytesDelivered =
            q.counters.bytesDelivered + UInt64.ofNat (min p.data.length r.maxLen) :=
          (complete_spec _ r p).2.2
        have hl₁ : q₁.liveRequests = rs.filter (!·.abandoned) := rfl
        have hp₁ : q₁.packets = ps := rfl
        have hf₁ : q₁.packets.length < fuel := by
          rw [hp₁]
          rw [hp] at hf
          simpa using hf
        obtain ⟨hn, hs⟩ := serviceFor_spec fuel q₁ (acc + 1) hc hf₁
        have hmin : min q.liveRequests.length q.packets.length =
            min q₁.liveRequests.length q₁.packets.length + 1 := by
          rw [hlive, hp, hl₁, hp₁]
          simp [Nat.succ_min_succ]
        rw [← hp, hmin]
        refine ⟨by rw [hn]; omega, ⟨hmin.symm, ?_, ?_, ?_, ?_, ?_, hs.nextReader, hs.exhausted⟩⟩
        · rw [hs.packets, hp₁, hp]
          rfl
        · rw [hs.live, hl₁, hlive]
          rfl
        · exact hs.suffix.trans ((List.suffix_cons r rs).trans (hr ▸ List.dropWhile_suffix _))
        · rw [hs.replies, hrep, hlive, hp, hl₁, hp₁, List.zipWith_cons_cons, List.append_assoc]
          rfl
        · rw [hs.bytes, hbytes, hlive, hp, hl₁, hp₁, List.zipWith_cons_cons, List.sum_cons,
            UInt64.ofNat_add, UInt64.add_assoc]

theorem serviceReads_spec {q : Queue} (hc : q.closing = false) :
    q.serviceReads.2 = min q.liveRequests.length q.packets.length ∧
      Served q q.serviceReads.1 (min q.liveRequests.length q.packets.length) := by
  obtain ⟨hn, hs⟩ := serviceFor_spec (q.packets.length + 1) q 0 hc (Nat.lt_succ_self _)
  exact ⟨by rw [serviceReads, hn, Nat.zero_add], hs⟩

/-- A closed queue serves nobody. -/
theorem serviceReads_of_closing {q : Queue} (hc : q.closing = true) : q.serviceReads = (q, 0) := by
  unfold serviceReads
  rw [serviceFor]
  unfold nextPair
  rw [if_pos hc]

/-! ## Closing -/

/-- **Closing** answers every live request with a refusal, in the order they wait, and leaves
    no request and no packet behind. -/
theorem drainAll_answers (q : Queue) :
    q.drainAll.1.replies =
        q.replies ++ q.liveRequests.map (fun r => (r.reader, .error .shuttingDown)) ∧
      q.drainAll.1.requests = [] ∧ q.drainAll.1.packets = [] ∧ q.drainAll.1.closing = true :=
  ⟨rfl, rfl, rfl, rfl⟩

/-- A closed queue refuses a read. -/
theorem recv_of_closing {q : Queue} (hc : q.closing = true) (maxLen : Nat) :
    (q.recv maxLen).2 = .ready (.error .shuttingDown) := by
  unfold recv
  simp [hc]

theorem ageSweep_keeps (q : Queue) :
    q.ageSweep.1.requests = q.requests ∧ q.ageSweep.1.replies = q.replies ∧
      q.ageSweep.1.nextReader = q.nextReader ∧ q.ageSweep.1.closing = q.closing := by
  unfold ageSweep
  dsimp only
  split <;> exact ⟨rfl, rfl, rfl, rfl⟩

/-- **Only `drainAll` opens or closes the queue.** -/
theorem apply_closing_of_ne (q : Queue) : ∀ op : Op, op ≠ .drainAll →
    (q.apply op).closing = q.closing
  | .enqueue p, _ => (enqueue_sameSetup q p).closing
  | .dequeue, _ => (dequeue_sameSetup q).closing
  | .ageSweep, _ => (ageSweep_keeps q).2.2.2
  | .setMaxLength v, _ => by
    simp only [apply]
    split
    · next q' hq => obtain ⟨-, rfl⟩ := setMaxLength_eq_ok hq; rfl
    · rfl
  | .setSweepInterval v, _ => by
    simp only [apply]
    split
    · next q' hq => rw [setSweepInterval_eq_ok hq]
    · rfl
  | .setRepair _, _ => rfl
  | .drainAll, h => absurd rfl h
  | .recv n, _ => (recv_sameSetup q n).closing
  | .abandon r, _ => rfl
  | .serviceReads, _ => (serviceReads_sameSetup q).closing
  | .takeReply r, _ => (takeReply_sameSetup q r).closing

/-- **A closed queue stays closed**, whatever comes next. -/
theorem apply_closing {q : Queue} (hc : q.closing = true) (op : Op) : (q.apply op).closing = true := by
  by_cases h : op = .drainAll
  · subst h
    rfl
  · rw [apply_closing_of_ne q op h, hc]

theorem foldl_closing : ∀ (ops : List Op) {q : Queue}, q.closing = true →
    (ops.foldl apply q).closing = true
  | [], _, hc => hc
  | op :: ops, _, hc => foldl_closing ops (apply_closing hc op)

/-- **After closing, every read is refused.** -/
theorem recv_after_drainAll (ops₁ ops₂ : List Op) (maxLen : Nat) :
    (((ops₁ ++ .drainAll :: ops₂).foldl apply {}).recv maxLen).2 = .ready (.error .shuttingDown) := by
  rw [List.foldl_append, List.foldl_cons]
  exact recv_of_closing (foldl_closing ops₂ (drainAll_answers _).2.2.2) maxLen

/-! ## The reads invariant -/

/-- **The reads invariant.** -/
structure ReadsInv (q : Queue) : Prop where
  /-- An open queue has no packet waiting or no request waiting. -/
  apart : q.closing = false → q.packets = [] ∨ q.requests = []
  /-- Requests wait in the order they were made. -/
  ordered : (q.requests.map (·.reader)).Pairwise (· < ·)
  /-- Every request belongs to a reader already handed out. -/
  issued : ∀ r ∈ q.requests, r.reader < q.nextReader
  /-- Every reply belongs to a reader already handed out. -/
  answered : ∀ x ∈ q.replies, x.1 < q.nextReader

theorem initial_readsInv : ReadsInv {} := ⟨fun _ => .inl rfl, List.Pairwise.nil, by simp, by simp⟩

/-- **`q'` keeps the reads of `q`**: packets only taken from the head, the same requests up to
    abandonment, no new reply, no new reader, and the queue open or closing as before. -/
structure KeepsReads (q q' : Queue) : Prop where
  packets : ∃ m, q'.packets = q.packets.drop m
  readers : q'.requests.map (·.reader) = q.requests.map (·.reader)
  replies : ∀ x ∈ q'.replies, x ∈ q.replies
  nextReader : q'.nextReader = q.nextReader
  closing : q'.closing = q.closing

theorem KeepsReads.of_eq {q q' : Queue} (hp : q'.packets = q.packets) (hr : q'.requests = q.requests)
    (hrep : q'.replies = q.replies) (hn : q'.nextReader = q.nextReader)
    (hc : q'.closing = q.closing) : KeepsReads q q' :=
  ⟨⟨0, hp⟩, by rw [hr], fun x hx => hrep ▸ hx, hn, hc⟩

theorem KeepsReads.readsInv {q q' : Queue} (h : KeepsReads q q') (hi : ReadsInv q) : ReadsInv q' := by
  obtain ⟨m, hm⟩ := h.packets
  constructor
  · intro hc
    rcases hi.apart (h.closing ▸ hc) with hp | hr
    · exact .inl (by rw [hm, hp, List.drop_nil])
    · have : q'.requests.map (·.reader) = [] := by rw [h.readers, hr, List.map_nil]
      exact .inr (List.map_eq_nil_iff.mp this)
  · rw [h.readers]
    exact hi.ordered
  · intro r hr
    have : r.reader ∈ q.requests.map (·.reader) := h.readers ▸ List.mem_map_of_mem hr
    obtain ⟨r₀, hr₀, he⟩ := List.mem_map.mp this
    rw [h.nextReader, ← he]
    exact hi.issued r₀ hr₀
  · intro x hx
    rw [h.nextReader]
    exact hi.answered x (h.replies x hx)

theorem dequeue_keepsReads (q : Queue) : KeepsReads q q.dequeue.1 := by
  unfold dequeue
  split
  · next p ps hp => exact ⟨⟨1, by simp [hp]⟩, rfl, fun _ hx => hx, rfl, rfl⟩
  · exact KeepsReads.of_eq rfl rfl rfl rfl rfl

theorem ageSweep_keepsReads (q : Queue) : KeepsReads q q.ageSweep.1 := by
  obtain ⟨hr, hrep, hn, hc⟩ := ageSweep_keeps q
  exact ⟨⟨_, (ageSweep_takes q).packets⟩, by rw [hr], fun x hx => hrep ▸ hx, hn, hc⟩

theorem abandon_keepsReads (q : Queue) (reader : Nat) : KeepsReads q (q.abandon reader) := by
  refine ⟨⟨0, rfl⟩, ?_, fun x hx => (List.mem_filter.mp hx).1, rfl, rfl⟩
  simp only [abandon, List.map_map]
  apply List.map_congr_left
  intro r _
  simp only [Function.comp]
  split <;> rfl

theorem takeReply_keepsReads (q : Queue) (reader : Nat) : KeepsReads q (q.takeReply reader).1 := by
  unfold takeReply
  split
  · exact ⟨⟨0, rfl⟩, rfl, fun x hx => (List.mem_filter.mp hx).1, rfl, rfl⟩
  · exact KeepsReads.of_eq rfl rfl rfl rfl rfl

theorem reader_of_mem_zipWith {rep : Bool} :
    ∀ {l : List ReadRequest} {ps : List Queued} {x : Nat × Except Error Delivered},
      x ∈ List.zipWith (answer rep) l ps → ∃ r ∈ l, x.1 = r.reader
  | [], _, _, h => by simp at h
  | _ :: _, [], _, h => by simp at h
  | r :: l, p :: ps, x, h => by
    rw [List.zipWith_cons_cons, List.mem_cons] at h
    rcases h with rfl | h
    · exact ⟨r, List.mem_cons_self, rfl⟩
    · obtain ⟨r', hr', he⟩ := reader_of_mem_zipWith h
      exact ⟨r', List.mem_cons_of_mem _ hr', he⟩

/-- **Serving restores the invariant** on an open queue whose requests are in order and issued:
    it stops only when one side is empty, keeps a suffix of the requests, and answers only
    requests it had. -/
theorem serviceReads_readsInv {q : Queue} (hc : q.closing = false)
    (ho : (q.requests.map (·.reader)).Pairwise (· < ·))
    (hiss : ∀ r ∈ q.requests, r.reader < q.nextReader)
    (hans : ∀ x ∈ q.replies, x.1 < q.nextReader) : ReadsInv q.serviceReads.1 := by
  obtain ⟨-, hs⟩ := serviceReads_spec hc
  constructor
  · exact fun _ => hs.exhausted
  · exact ho.sublist (hs.suffix.sublist.map _)
  · intro r hr
    rw [hs.nextReader]
    exact hiss r (hs.suffix.subset hr)
  · intro x hx
    rw [hs.nextReader]
    rw [hs.replies, List.mem_append] at hx
    rcases hx with hx | hx
    · exact hans x hx
    · obtain ⟨r, hr, he⟩ := reader_of_mem_zipWith hx
      rw [he]
      exact hiss r ((List.mem_filter.mp hr).1)

theorem enqueue_readsInv {q : Queue} (hi : ReadsInv q) (p : Queued) : ReadsInv (q.enqueue p).1 := by
  cases hc : q.closing
  · rw [enqueue_of_open p hc]
    unfold serveWaiting
    split
    · -- nobody waits: the arrival keeps the requests empty
      next hr =>
      refine ⟨fun _ => .inr (List.isEmpty_iff.mp hr), ?_, ?_, ?_⟩ <;>
        simp only [arrive] <;> split <;> first | exact hi.ordered | exact hi.issued | exact hi.answered
    · have hs := arrive_sameSetup q p
      refine serviceReads_readsInv (hs.closing.trans hc) ?_ ?_ ?_ <;>
        simp only [arrive] <;> split <;> first | exact hi.ordered | exact hi.issued | exact hi.answered
  · rw [enqueue, if_pos hc]
    refine KeepsReads.readsInv (q := q) ?_ hi
    exact KeepsReads.of_eq rfl rfl rfl rfl rfl

theorem recv_readsInv {q : Queue} (hi : ReadsInv q) (maxLen : Nat) : ReadsInv (q.recv maxLen).1 := by
  unfold recv
  dsimp only
  split
  · next hc =>
    exact ⟨fun h => (nomatch hc.symm.trans h), hi.ordered,
      fun r hr => Nat.lt_succ_of_lt (hi.issued r hr), fun x hx => Nat.lt_succ_of_lt (hi.answered x hx)⟩
  · next hc =>
    -- the new request carries the newest reader, after every waiting one
    have hserved := serviceReads_readsInv (q := { q with
        requests := q.requests ++ [{ reader := q.nextReader, maxLen }],
        nextReader := q.nextReader + 1 }) (by simpa using hc)
      (by
        rw [List.map_append, List.pairwise_append]
        refine ⟨hi.ordered, by simp, ?_⟩
        intro a ha b hb
        simp only [List.map_cons, List.map_nil, List.mem_singleton] at hb
        obtain ⟨r, hr, rfl⟩ := List.mem_map.mp ha
        rw [hb]
        exact hi.issued r hr)
      (by
        intro r hr
        rcases List.mem_append.mp hr with hr | hr
        · exact Nat.lt_succ_of_lt (hi.issued r hr)
        · rw [List.mem_singleton.mp hr]
          exact Nat.lt_succ_self _)
      (fun x hx => Nat.lt_succ_of_lt (hi.answered x hx))
    have hk := (takeReply_keepsReads _ q.nextReader).readsInv hserved
    split <;> next heq => rw [heq] at hk; exact hk

theorem drainAll_readsInv {q : Queue} (hi : ReadsInv q) : ReadsInv q.drainAll.1 := by
  refine ⟨fun h => absurd h (by simp [drainAll]), List.Pairwise.nil, by simp [drainAll], ?_⟩
  intro x hx
  rw [(drainAll_answers q).1, List.mem_append] at hx
  rcases hx with hx | hx
  · exact hi.answered x hx
  · obtain ⟨r, hr, rfl⟩ := List.mem_map.mp hx
    exact hi.issued r ((List.mem_filter.mp hr).1)

/-- **Every operation keeps the reads invariant**, one case per operation. -/
theorem readsInv_apply {q : Queue} (hi : ReadsInv q) : ∀ op, ReadsInv (q.apply op)
  | .enqueue p => enqueue_readsInv hi p
  | .dequeue => (dequeue_keepsReads q).readsInv hi
  | .ageSweep => (ageSweep_keepsReads q).readsInv hi
  | .setMaxLength v => by
    simp only [apply]
    split
    · next q' hq =>
      obtain ⟨-, rfl⟩ := setMaxLength_eq_ok hq
      refine KeepsReads.readsInv (q := q) ?_ hi
      exact ⟨⟨q.packets.length - v, rfl⟩, rfl, fun _ hx => hx, rfl, rfl⟩
    · exact hi
  | .setSweepInterval v => by
    simp only [apply]
    split
    · next q' hq =>
      rw [setSweepInterval_eq_ok hq]
      refine KeepsReads.readsInv (q := q) ?_ hi
      exact KeepsReads.of_eq rfl rfl rfl rfl rfl
    · exact hi
  | .setRepair on =>
    (KeepsReads.of_eq rfl rfl rfl rfl rfl : KeepsReads q (q.setRepair on)).readsInv hi
  | .drainAll => drainAll_readsInv hi
  | .recv n => recv_readsInv hi n
  | .abandon r => (abandon_keepsReads q r).readsInv hi
  | .serviceReads => by
    cases hc : q.closing
    · exact serviceReads_readsInv hc hi.ordered hi.issued hi.answered
    · simp only [apply, serviceReads_of_closing hc]
      exact hi
  | .takeReply r => (takeReply_keepsReads q r).readsInv hi

theorem foldl_readsInv : ∀ (ops : List Op) {q : Queue}, ReadsInv q → ReadsInv (ops.foldl apply q)
  | [], _, hi => hi
  | op :: ops, _, hi => foldl_readsInv ops (readsInv_apply hi op)

/-- **Readers are served in order, each with its own packet, and a reader and a packet never
    both wait.** A read answered with a packet gets the packet's bytes, repaired when repair is on
    and the packet asks for it, cut to the reader's length, with the address and the full length,
    and the bytes handed over are counted. Serving an open queue hands the live requests, in the
    order they wait, the packets, in the order they wait, one for one, until one side runs out.
    Along every run from a new queue, an open queue never has both a packet and a request
    waiting, and requests wait in the order they were made (reader numbers rise along the FIFO
    and stay below the next one handed out). Closing answers every live request with a refusal,
    and every read after closing is refused. -/
theorem reads_paired_in_order :
    (∀ (q : Queue) (r : ReadRequest) (p : Queued),
      (q.complete r p).replies = q.replies ++ [(r.reader, .ok (delivery q.repair r.maxLen p))] ∧
        (q.complete r p).counters.bytesDelivered =
          q.counters.bytesDelivered + UInt64.ofNat (min p.data.length r.maxLen)) ∧
    (∀ q : Queue, q.closing = false →
      let n := min q.liveRequests.length q.packets.length
      q.serviceReads.2 = n ∧ q.serviceReads.1.packets = q.packets.drop n ∧
        q.serviceReads.1.liveRequests = q.liveRequests.drop n ∧
        q.serviceReads.1.replies = q.replies ++ List.zipWith
          (fun r p => (r.reader, .ok (delivery q.repair r.maxLen p))) q.liveRequests q.packets) ∧
    (∀ ops : List Op,
      let q := ops.foldl apply {}
      (q.closing = false → q.packets = [] ∨ q.requests = []) ∧
        (q.requests.map (·.reader)).Pairwise (· < ·) ∧ ∀ r ∈ q.requests, r.reader < q.nextReader) ∧
    (∀ q : Queue, q.drainAll.1.replies =
        q.replies ++ q.liveRequests.map (fun r => (r.reader, .error .shuttingDown)) ∧
      q.drainAll.1.requests = []) ∧
    ∀ (ops₁ ops₂ : List Op) (maxLen : Nat),
      (((ops₁ ++ .drainAll :: ops₂).foldl apply {}).recv maxLen).2 = .ready (.error .shuttingDown) := by
  refine ⟨fun q r p => ⟨(complete_spec q r p).1, (complete_spec q r p).2.2⟩, ?_, ?_,
    fun q => ⟨(drainAll_answers q).1, (drainAll_answers q).2.1⟩, recv_after_drainAll⟩
  · intro q hc
    obtain ⟨hn, hs⟩ := serviceReads_spec hc
    exact ⟨hn, hs.packets, hs.live, hs.replies⟩
  · intro ops
    have hi := foldl_readsInv ops initial_readsInv
    exact ⟨hi.apart, hi.ordered, hi.issued⟩

/-- An open queue with one reader waiting for two bytes and one three-byte packet: serving hands
    the packet, cut to two bytes, to the reader and leaves nothing waiting; and after a packet and
    then a read, the open queue has no packet left. -/
theorem reads_paired_in_order_one_reader :
    let p : Queued := { data := [1, 2, 3], address := default }
    let q : Queue := { packets := [p], requests := [{ reader := 0, maxLen := 2 }] }
    let q₁ := [Op.enqueue p, .recv 2].foldl apply {}
    q.closing = false ∧ q.serviceReads.2 = 1 ∧ q.serviceReads.1.packets = [] ∧
      q.serviceReads.1.replies = [(0, .ok (delivery q.repair 2 p))] ∧
      q₁.closing = false ∧ (q₁.packets = [] ∨ q₁.requests = []) := by
  intro p q q₁
  obtain ⟨hn, hp, -, hr⟩ := reads_paired_in_order.2.1 q rfl
  have hc₁ : q₁.closing = false := by decide
  exact ⟨rfl, hn, hp, hr, hc₁, (reads_paired_in_order.2.2.1 [Op.enqueue p, .recv 2]).1 hc₁⟩

end Queue

end Diversion
