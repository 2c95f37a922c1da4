import Diversion.Proofs.Aging

/-!
# `Proofs.Capacity` — the queue stays within its capacity, and its length gauge is exact

The capacity is set only through `setMaxLength`, which refuses a value outside `[1, 8192]` and
otherwise drops the oldest packets beyond the new bound at once (`setMaxLength_accepted`,
`setMaxLength_refused`). Every other operation keeps the capacity and takes packets only from the
head, except an arrival, which appends one packet and drops the head when that makes one too many
(`arrive_overflow`). So a single drop on arrival suffices, because every other operation leaves
the queue within the bound.

The length gauge `queueLength` is written by the operations that take or add packets, and skipped
by those that do not: a sweep that evicts nothing, an arrival at a closed queue. `KeepsGauge`
says what serving, reads and the setters do to it, and `gauged_apply` that every operation leaves
it right if it was.

The invariant `Bounded` bundles the gauge with the bound; `Bounded.apply` is the step lemma and
`run_within_capacity` the main statement.
-/

namespace Diversion

namespace Queue

/-! ## The length gauge -/

/-- **The length gauge reads the number of waiting packets.** -/
def Gauged (q : Queue) : Prop := q.counters.queueLength = q.packets.length

theorem gauged_gauge (q : Queue) : q.gauge.Gauged := rfl

/-- **`q'` accounts for the queue length as `q` does**: the gauge stays right, and no packet is
    counted as overflow. -/
structure KeepsGauge (q q' : Queue) : Prop where
  gauged : q.Gauged → q'.Gauged
  overflow : q'.counters.overflowEvictions = q.counters.overflowEvictions

theorem KeepsGauge.refl (q : Queue) : KeepsGauge q q := ⟨id, rfl⟩

theorem KeepsGauge.trans {q q' q'' : Queue} (h : KeepsGauge q q') (h' : KeepsGauge q' q'') :
    KeepsGauge q q'' :=
  ⟨h'.gauged ∘ h.gauged, h'.overflow.trans h.overflow⟩

theorem KeepsGauge.of_eq {q q' : Queue} (hp : q'.packets = q.packets)
    (hl : q'.counters.queueLength = q.counters.queueLength)
    (ho : q'.counters.overflowEvictions = q.counters.overflowEvictions) : KeepsGauge q q' :=
  ⟨fun h => by rw [Gauged, hl, hp]; exact h, ho⟩

theorem complete_keepsGauge (q : Queue) (r : ReadRequest) (p : Queued) :
    KeepsGauge q (q.complete r p) :=
  .of_eq rfl rfl rfl

theorem nextPair_keepsGauge (q : Queue) : KeepsGauge q q.nextPair.1 := by
  unfold nextPair
  split
  · exact .refl q
  · dsimp only
    split
    · exact ⟨fun _ => gauged_gauge _, rfl⟩
    · exact .of_eq rfl rfl rfl

/-- Serving readers regauges after every pairing; induction on the fuel. -/
theorem serviceFor_keepsGauge : ∀ fuel (q : Queue) n, KeepsGauge q (serviceFor fuel q n).1
  | 0, q, _ => .refl q
  | fuel + 1, q, n => by
    have hq := nextPair_keepsGauge q
    rw [serviceFor]
    split
    · next q' heq => rw [heq] at hq; exact hq
    · next q' r p heq =>
      rw [heq] at hq
      exact (hq.trans (complete_keepsGauge q' r p)).trans (serviceFor_keepsGauge fuel _ _)

theorem serviceReads_keepsGauge (q : Queue) : KeepsGauge q q.serviceReads.1 :=
  serviceFor_keepsGauge _ q 0

theorem serveWaiting_keepsGauge (q : Queue) : KeepsGauge q q.serveWaiting := by
  unfold serveWaiting
  split
  · exact .refl q
  · exact serviceReads_keepsGauge q

theorem takeReply_keepsGauge (q : Queue) (reader : Nat) : KeepsGauge q (q.takeReply reader).1 := by
  unfold takeReply
  split <;> exact .of_eq rfl rfl rfl

/-- A read adds a request, serves readers and collects its reply. -/
theorem recv_keepsGauge (q : Queue) (maxLen : Nat) : KeepsGauge q (q.recv maxLen).1 := by
  unfold recv
  dsimp only
  split
  · exact .of_eq rfl rfl rfl
  · have hk := ((KeepsGauge.of_eq rfl rfl rfl : KeepsGauge q
      { q with requests := q.requests ++ [{ reader := q.nextReader, maxLen }],
               nextReader := q.nextReader + 1 }).trans
      (serviceReads_keepsGauge _)).trans (takeReply_keepsGauge _ q.nextReader)
    split <;> next heq => rw [heq] at hk; exact hk

theorem gauged_arrive (q : Queue) (p : Queued) : (q.arrive p).Gauged := by
  unfold arrive
  dsimp only
  split <;> rfl

theorem gauged_dequeue (q : Queue) : q.dequeue.1.Gauged := by
  unfold dequeue
  split <;> rfl

/-- A sweep that evicts nothing leaves the packets, and so the gauge, as they were. -/
theorem gauged_ageSweep {q : Queue} (h : q.Gauged) : q.ageSweep.1.Gauged := by
  obtain ⟨hd, -⟩ := dropStale_spec q.generation q.packets
  unfold ageSweep
  dsimp only
  split
  · next h0 =>
    show q.counters.queueLength = (dropStale q.generation q.packets).1.length
    rw [hd, h0, List.drop_zero]
    exact h
  · rfl

/-- **Every operation leaves the gauge right** if it was. -/
theorem gauged_apply {q : Queue} (h : q.Gauged) : ∀ op, (q.apply op).Gauged
  | .enqueue p => by
    cases hc : q.closing
    · rw [apply, enqueue_of_open p hc]
      exact (serveWaiting_keepsGauge _).gauged (gauged_arrive q p)
    · rw [apply, enqueue, if_pos hc]
      exact h
  | .dequeue => gauged_dequeue q
  | .ageSweep => gauged_ageSweep h
  | .setMaxLength v => by
    simp only [apply]
    split
    · next q' hq => obtain ⟨-, rfl⟩ := setMaxLength_eq_ok hq; rfl
    · exact h
  | .setSweepInterval v => by
    simp only [apply]
    split
    · next q' hq => rw [setSweepInterval_eq_ok hq]; exact h
    · exact h
  | .setRepair _ => h
  | .drainAll => rfl
  | .recv n => (recv_keepsGauge q n).gauged h
  | .abandon _ => h
  | .serviceReads => (serviceReads_keepsGauge q).gauged h
  | .takeReply r => (takeReply_keepsGauge q r).gauged h

/-! ## The capacity -/

/-- **An accepted capacity** replaces the old one, keeps the newest `min len v` packets and counts
    the others as overflow; the gauge is set to what is left. -/
theorem setMaxLength_accepted (q : Queue) {v : Nat} (h1 : 1 ≤ v) (h2 : v ≤ 8192) :
    ∃ q', q.setMaxLength v = .ok q' ∧ q'.maxLen = v ∧
      q'.packets = q.packets.drop (q.packets.length - v) ∧
      q'.packets.length = min q.packets.length v ∧
      q'.counters.overflowEvictions =
        q.counters.overflowEvictions + UInt64.ofNat (q.packets.length - v) ∧
      q'.Gauged := by
  have hv : Param.queueLen.validate v = .ok v := by
    rw [Param.validate, if_neg (by simp only [Param.lo, Param.hi]; omega)]
  have hlen : (q.packets.drop (q.packets.length - v)).length = min q.packets.length v := by
    rw [List.length_drop]
    omega
  refine ⟨{ gauge { q with maxLen := v, packets := q.packets.drop (q.packets.length - v) } with
      counters.overflowEvictions :=
        q.counters.overflowEvictions + UInt64.ofNat (q.packets.length - v) },
    ?_, rfl, rfl, hlen, rfl, rfl⟩
  rw [setMaxLength, hv]
  rfl

/-- **A capacity outside `[1, 8192]` is refused**, and the queue stays as it was. -/
theorem setMaxLength_refused (q : Queue) {v : Nat} (h : v < 1 ∨ 8192 < v) :
    q.setMaxLength v = .error (.param (.outOfBounds .queueLen v)) ∧
      q.apply (.setMaxLength v) = q := by
  have hv : Param.queueLen.validate v = .error (.param (.outOfBounds .queueLen v)) := by
    rw [Param.validate, if_pos (by simp only [Param.lo, Param.hi]; omega)]
  have hs : q.setMaxLength v = .error (.param (.outOfBounds .queueLen v)) := by
    rw [setMaxLength, hv]
    rfl
  refine ⟨hs, ?_⟩
  simp only [apply, hs]

/-- Within the capacity, one more packet is one too many exactly when the queue was full. -/
theorem overflows_iff_full {q : Queue} (x : Queued) (hfit : q.packets.length ≤ q.maxLen) :
    (q.packets ++ [x]).length > q.maxLen ↔ q.packets.length = q.maxLen := by
  simp only [List.length_append, List.length_singleton]
  omega

/-- **An arrival at a queue within its capacity drops at most one packet**: the head, exactly when
    the queue was full, counted as overflow. -/
theorem arrive_overflow (q : Queue) (p : Queued) (hfit : q.packets.length ≤ q.maxLen) :
    let full := q.packets.length = q.maxLen
    (q.arrive p).packets =
        (q.packets ++ [{ p with generation := q.generation }]).drop (if full then 1 else 0) ∧
      (q.arrive p).counters.overflowEvictions =
        q.counters.overflowEvictions + (if full then 1 else 0) := by
  dsimp only
  unfold arrive
  have hiff := overflows_iff_full { p with generation := q.generation } hfit
  by_cases hfull : q.packets.length = q.maxLen
  · simp only [hiff.2 hfull, hfull, if_true]
    exact ⟨rfl, rfl⟩
  · simp only [mt hiff.1 hfull, hfull, if_false, List.drop_zero]
    exact ⟨rfl, (UInt64.add_zero _).symm⟩

/-- **An enqueue on an open queue within its capacity** is reported as an overflow exactly when the
    queue was full, and then counts one overflow eviction; serving readers afterwards evicts
    nothing. -/
theorem enqueue_overflow (q : Queue) (p : Queued) (hc : q.closing = false)
    (hfit : q.packets.length ≤ q.maxLen) :
    let full := q.packets.length = q.maxLen
    (q.enqueue p).2 = (if full then .overflowed else .queued) ∧
      (q.enqueue p).1.counters.overflowEvictions =
        q.counters.overflowEvictions + (if full then 1 else 0) := by
  dsimp only
  rw [enqueue_of_open p hc]
  have hiff := overflows_iff_full { p with generation := q.generation } hfit
  refine ⟨by simp only [hiff], ?_⟩
  rw [(serveWaiting_keepsGauge _).overflow]
  exact (arrive_overflow q p hfit).2

/-! ## The invariant -/

/-- **The capacity invariant**: the capacity is an admissible queue length, the queue fits in it,
    and the gauge reads its length. -/
structure Bounded (q : Queue) : Prop where
  gauge : q.Gauged
  fits : q.packets.length ≤ q.maxLen
  pos : 1 ≤ q.maxLen
  le_max : q.maxLen ≤ 8192

theorem initial_bounded : ({} : Queue).Bounded :=
  ⟨rfl, Nat.zero_le _, by decide, by decide⟩

/-- An operation that keeps the capacity and takes packets only from the head keeps the queue
    within it. -/
theorem Bounded.of_drop {q q' : Queue} (hb : q.Bounded) (hmax : q'.maxLen = q.maxLen)
    (hp : ∃ m, q'.packets = q.packets.drop m) (hg : q'.Gauged) : q'.Bounded := by
  obtain ⟨m, hm⟩ := hp
  refine ⟨hg, ?_, hmax ▸ hb.pos, hmax ▸ hb.le_max⟩
  rw [hm, List.length_drop, hmax]
  have := hb.fits
  omega

/-- The operations other than an arrival add no packet, so what they leave is cut from the head. -/
theorem apply_packets_drop (q : Queue) {op : Op} (h : q.arrivals op = []) :
    ∃ m, (q.apply op).packets = q.packets.drop m := by
  obtain ⟨m, hm⟩ := apply_packets q op
  rw [h, List.append_nil] at hm
  exact ⟨m, hm⟩

/-- An operation that adds no packet and keeps the capacity keeps the invariant. -/
theorem Bounded.of_no_arrival {q : Queue} (hb : q.Bounded) {op : Op} (h : q.arrivals op = [])
    (hmax : (q.apply op).maxLen = q.maxLen) : (q.apply op).Bounded :=
  hb.of_drop hmax (apply_packets_drop q h) (gauged_apply hb.gauge op)

theorem ageSweep_maxLen (q : Queue) : q.ageSweep.1.maxLen = q.maxLen := by
  unfold ageSweep
  dsimp only
  split <;> rfl

/-- An enqueue keeps the queue within its capacity: the arrival drops the head when it makes one
    packet too many, and serving readers takes packets from the head. -/
theorem Bounded.enqueue {q : Queue} (hb : q.Bounded) (p : Queued) : (q.enqueue p).1.Bounded := by
  cases hc : q.closing
  · rw [enqueue_of_open p hc]
    obtain ⟨hp, -⟩ := arrive_overflow q p hb.fits
    have hs := arrive_sameSetup q p
    have ha : (q.arrive p).Bounded := by
      refine ⟨gauged_arrive q p, ?_, hs.maxLen ▸ hb.pos, hs.maxLen ▸ hb.le_max⟩
      rw [hp, hs.maxLen, List.length_drop, List.length_append, List.length_singleton]
      have := hb.fits
      split <;> omega
    obtain ⟨m, hm⟩ := serveWaiting_takes (q.arrive p)
    exact ha.of_drop (serveWaiting_sameSetup _).maxLen ⟨m, hm.packets⟩
      ((serveWaiting_keepsGauge _).gauged ha.gauge)
  · rw [Queue.enqueue, if_pos hc]
    exact hb.of_drop rfl ⟨0, rfl⟩ hb.gauge

theorem Bounded.setMaxLength {q : Queue} (hb : q.Bounded) (v : Nat) :
    (q.apply (.setMaxLength v)).Bounded := by
  by_cases hv : 1 ≤ v ∧ v ≤ 8192
  · obtain ⟨q', hq, hmax, -, hlen, -, hg⟩ := setMaxLength_accepted q hv.1 hv.2
    simp only [apply, hq]
    exact ⟨hg, by rw [hlen, hmax]; omega, hmax ▸ hv.1, hmax ▸ hv.2⟩
  · rw [(setMaxLength_refused q (by omega)).2]
    exact hb

/-- **Every operation keeps the capacity invariant**, one case per operation. -/
theorem Bounded.apply {q : Queue} (hb : q.Bounded) : ∀ op, (q.apply op).Bounded
  | .enqueue p => hb.enqueue p
  | .setMaxLength v => hb.setMaxLength v
  | .dequeue => hb.of_no_arrival rfl (dequeue_sameSetup q).maxLen
  | .ageSweep => hb.of_no_arrival rfl (ageSweep_maxLen q)
  | .setSweepInterval v => by
    refine hb.of_no_arrival rfl ?_
    simp only [Queue.apply]
    split
    · next q' hq => rw [setSweepInterval_eq_ok hq]
    · rfl
  | .setRepair on => hb.of_no_arrival rfl rfl
  | .drainAll => hb.of_no_arrival rfl rfl
  | .recv n => hb.of_no_arrival rfl (recv_sameSetup q n).maxLen
  | .abandon r => hb.of_no_arrival rfl rfl
  | .serviceReads => hb.of_no_arrival rfl (serviceReads_sameSetup q).maxLen
  | .takeReply r => hb.of_no_arrival rfl (takeReply_sameSetup q r).maxLen

theorem foldl_bounded : ∀ (ops : List Op) {q : Queue}, q.Bounded → (ops.foldl Queue.apply q).Bounded
  | [], _, hb => hb
  | op :: ops, _, hb => foldl_bounded ops (hb.apply op)

/-- **The queue never exceeds its capacity, and its length gauge is exact.** Along every run from a
    new queue, the capacity lies in `[1, 8192]`, the queue fits in it and the gauge reads its
    length; an enqueue on the open queue then drops at most one packet, the oldest, exactly when the
    queue was full, reports it as an overflow and counts it. A capacity in `[1, 8192]` keeps the
    newest `min len v` packets and counts the others as overflow; any other capacity is refused as
    an invalid parameter and changes nothing. -/
theorem run_within_capacity :
    (∀ ops : List Op,
      let q := ops.foldl Queue.apply {}
      q.packets.length ≤ q.maxLen ∧ 1 ≤ q.maxLen ∧ q.maxLen ≤ 8192 ∧
        q.counters.queueLength = q.packets.length ∧
        (q.closing = false → ∀ p : Queued,
          let full := q.packets.length = q.maxLen
          (q.arrive p).packets =
              (q.packets ++ [{ p with generation := q.generation }]).drop (if full then 1 else 0) ∧
            (q.enqueue p).2 = (if full then .overflowed else .queued) ∧
            (q.enqueue p).1.counters.overflowEvictions =
              q.counters.overflowEvictions + (if full then 1 else 0))) ∧
    (∀ (q : Queue) (v : Nat), 1 ≤ v → v ≤ 8192 →
      ∃ q', q.setMaxLength v = .ok q' ∧ q'.maxLen = v ∧
        q'.packets = q.packets.drop (q.packets.length - v) ∧
        q'.packets.length = min q.packets.length v ∧
        q'.counters.overflowEvictions =
          q.counters.overflowEvictions + UInt64.ofNat (q.packets.length - v) ∧
        q'.counters.queueLength = q'.packets.length) ∧
    (∀ (q : Queue) (v : Nat), v < 1 ∨ 8192 < v →
      q.setMaxLength v = .error (.param (.outOfBounds .queueLen v)) ∧
        q.apply (.setMaxLength v) = q) := by
  refine ⟨fun ops => ?_, fun q v h1 h2 => setMaxLength_accepted q h1 h2,
    fun q v h => setMaxLength_refused q h⟩
  have hb := foldl_bounded ops initial_bounded
  refine ⟨hb.fits, hb.pos, hb.le_max, hb.gauge, fun hc p => ?_⟩
  obtain ⟨hp, -⟩ := arrive_overflow _ p hb.fits
  obtain ⟨hs, ho⟩ := enqueue_overflow _ p hc hb.fits
  exact ⟨hp, hs, ho⟩

/-- Three packets at a new queue: shrinking the capacity to one keeps one packet and counts two
    overflows, a capacity of zero is refused and changes nothing, and once the capacity is one and
    a packet waits, the next arrival overflows. -/
theorem run_within_capacity_three_packets :
    let p : Queued := { data := [1], address := default }
    let q := [Op.enqueue p, .enqueue p, .enqueue p].foldl Queue.apply {}
    let q₁ := [Op.setMaxLength 1, .enqueue p].foldl Queue.apply {}
    (∃ q', q.setMaxLength 1 = .ok q' ∧ q'.packets.length = 1 ∧
        q'.counters.overflowEvictions = q.counters.overflowEvictions + 2) ∧
      q.setMaxLength 0 = .error (.param (.outOfBounds .queueLen 0)) ∧
      q.apply (.setMaxLength 0) = q ∧
      q₁.closing = false ∧ (q₁.enqueue p).2 = .overflowed ∧
      (q₁.enqueue p).1.counters.overflowEvictions = q₁.counters.overflowEvictions + 1 := by
  dsimp only
  obtain ⟨q', hq', -, -, hlen, hov, -⟩ := run_within_capacity.2.1 _ 1 (by decide) (by decide)
  obtain ⟨hrefused, hsame⟩ := run_within_capacity.2.2 _ 0 (.inl (by decide))
  obtain ⟨-, -, -, -, hfull⟩ :=
    run_within_capacity.1 [Op.setMaxLength 1, .enqueue { data := [1], address := default }]
  have hc₁ : ([Op.setMaxLength 1, .enqueue { data := [1], address := default }].foldl
      Queue.apply {}).closing = false := by decide
  obtain ⟨-, hs, ho⟩ := hfull hc₁ { data := [1], address := default }
  -- the queue of capacity one holds one packet, so it is full
  have hf : ([Op.setMaxLength 1, .enqueue { data := [1], address := default }].foldl
        Queue.apply {}).packets.length =
      ([Op.setMaxLength 1, .enqueue { data := [1], address := default }].foldl
        Queue.apply {}).maxLen := by decide
  rw [if_pos hf] at hs ho
  refine ⟨⟨q', hq', hlen.trans (by decide), hov.trans (by decide)⟩, hrefused, hsame, hc₁, hs, ho⟩

end Queue

end Diversion
