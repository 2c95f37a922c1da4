import Diversion.Queue

/-!
# `Proofs.Queue` — the diversion queue is a FIFO that conserves packets

Five operations remove packets — overflow on arrival, shrinking the capacity, the aging sweep,
pairing with readers, and `drainAll` — and `dequeue` takes one without a reader. Each is shown
to take packets **from the head only**, and to count each one it takes in exactly one counter
(`TakesHead`: one spec lemma per operation). A run is watched by a `History` that records the
packets taken in and the packets that left, in order; the invariant `History.Inv` (what left,
then what waits, is what came in; and the counts agree) holds initially and after every
operation (`History.step_inv`), hence along every run (`History.run_conserves_packets`).

The counters are 64-bit words and wrap, so they cannot hold the counts themselves. The invariant
keeps the true number of packets counted as gone and says that each counter holds its share
modulo `2^64` (`Counters.Departed`). So the counts agree modulo `2^64` along every run, and
exactly as long as fewer than `2^64` packets came in; a run that drops `2^64` packets on overflow
brings the overflow counter back to zero (`History.overflow_counter_wraps`).
-/

namespace Diversion

/-! ## Counting departures -/

/-- The three counters a packet that leaves the queue is counted in: delivered, dropped on
    overflow or shrinking, and aged out. -/
def Counters.departures (k : Counters) : UInt64 × UInt64 × UInt64 :=
  (k.packetsDelivered, k.overflowEvictions, k.agedEvictions)

/-- The three counters with `d`, `o` and `a` more departures, each addition wrapping. -/
def Counters.bump (k : Counters) (d o a : Nat) : UInt64 × UInt64 × UInt64 :=
  (k.packetsDelivered + .ofNat d, k.overflowEvictions + .ofNat o, k.agedEvictions + .ofNat a)

/-- **The counters record `n` departures**: `n` splits into packets delivered, dropped and aged
    out, and each counter holds its share modulo `2^64`. -/
def Counters.Departed (k : Counters) (n : Nat) : Prop :=
  ∃ d o a, d + o + a = n ∧ k.departures = (.ofNat d, .ofNat o, .ofNat a)

theorem Counters.Departed.of_departures {k k' : Counters} {n : Nat} (h : k.Departed n)
    (h' : k'.departures = k.departures) : k'.Departed n := by
  obtain ⟨d, o, a, hn, hk⟩ := h
  exact ⟨d, o, a, hn, h'.trans hk⟩

/-- Counting more departures adds to the true count what the counters add modulo `2^64`. -/
theorem Counters.Departed.bump {k k' : Counters} {n : Nat} (h : k.Departed n) {d o a : Nat}
    (h' : k'.departures = k.bump d o a) : k'.Departed (n + (d + o + a)) := by
  obtain ⟨d₀, o₀, a₀, hn, hk⟩ := h
  simp only [departures, Prod.mk.injEq] at hk
  refine ⟨d₀ + d, o₀ + o, a₀ + a, by omega, ?_⟩
  rw [h', Counters.bump, hk.1, hk.2.1, hk.2.2, UInt64.ofNat_add, UInt64.ofNat_add,
    UInt64.ofNat_add]

theorem Counters.departed_zero : ({} : Counters).Departed 0 := ⟨0, 0, 0, rfl, rfl⟩

/-- Each counter reads its share of the count, reduced modulo `2^64`. -/
theorem Counters.Departed.toNat_shares {k : Counters} {n : Nat} (h : k.Departed n) :
    ∃ d o a, d + o + a = n ∧ k.packetsDelivered.toNat = d % UInt64.size ∧
      k.overflowEvictions.toNat = o % UInt64.size ∧ k.agedEvictions.toNat = a % UInt64.size := by
  obtain ⟨d, o, a, hn, hk⟩ := h
  simp only [departures, Prod.mk.injEq] at hk
  refine ⟨d, o, a, hn, ?_, ?_, ?_⟩ <;> simp [hk.1, hk.2.1, hk.2.2, UInt64.toNat_ofNat']

/-- **The counters' sum is the true count modulo `2^64`.** -/
theorem Counters.Departed.toNat_mod {k : Counters} {n : Nat} (h : k.Departed n) :
    (k.packetsDelivered.toNat + k.overflowEvictions.toNat + k.agedEvictions.toNat) % UInt64.size =
      n % UInt64.size := by
  obtain ⟨d, o, a, rfl, hd, ho, ha⟩ := h.toNat_shares
  rw [hd, ho, ha]
  simp only [UInt64.size]
  omega

/-- **Below `2^64` departures no counter has wrapped**, and the counters' sum is the count. -/
theorem Counters.Departed.toNat_of_lt {k : Counters} {n : Nat} (h : k.Departed n)
    (hn : n < UInt64.size) :
    k.packetsDelivered.toNat + k.overflowEvictions.toNat + k.agedEvictions.toNat = n := by
  obtain ⟨d, o, a, rfl, hd, ho, ha⟩ := h.toNat_shares
  rw [hd, ho, ha]
  simp only [UInt64.size] at hn ⊢
  omega

namespace Queue

/-! ## Taking packets from the head -/

/-- **`q'` is `q` with `m` packets taken from the head**, each counted once as gone. -/
structure TakesHead (q q' : Queue) (m : Nat) : Prop where
  le : m ≤ q.packets.length
  packets : q'.packets = q.packets.drop m
  counted : ∀ n, q.counters.Departed n → q'.counters.Departed (n + m)

theorem TakesHead.of_eq {q q' : Queue} (hp : q'.packets = q.packets)
    (hd : q'.counters.departures = q.counters.departures) : TakesHead q q' 0 :=
  ⟨Nat.zero_le _, by simp [hp], fun _ hn => hn.of_departures hd⟩

/-- Taking `m` packets from the head and counting them by `bump`. -/
theorem TakesHead.of_bump {q q' : Queue} {m d o a : Nat} (hm : d + o + a = m)
    (hle : m ≤ q.packets.length) (hp : q'.packets = q.packets.drop m)
    (hd : q'.counters.departures = q.counters.bump d o a) : TakesHead q q' m :=
  ⟨hle, hp, fun _ hn => hm ▸ hn.bump hd⟩

theorem TakesHead.trans {q q' q'' : Queue} {m m' : Nat} (h : TakesHead q q' m)
    (h' : TakesHead q' q'' m') : TakesHead q q'' (m + m') := by
  refine ⟨?_, ?_, ?_⟩
  · have := h'.le; rw [h.packets, List.length_drop] at this; have := h.le; omega
  · rw [h'.packets, h.packets, List.drop_drop]
  · intro n hn
    rw [← Nat.add_assoc]
    exact h'.counted _ (h.counted n hn)

theorem TakesHead.eq_sub {q q' : Queue} {m : Nat} (h : TakesHead q q' m) :
    m = q.packets.length - q'.packets.length := by
  rw [h.packets, List.length_drop]; have := h.le; omega

@[simp] theorem gauge_packets (q : Queue) : q.gauge.packets = q.packets := rfl

/-! ## One lemma per operation -/

theorem complete_takes (q : Queue) (r : ReadRequest) (p : Queued) :
    (q.complete r p).packets = q.packets ∧
      (q.complete r p).counters.departures = q.counters.bump 1 0 0 := by
  refine ⟨rfl, ?_⟩
  simp [complete, Counters.departures, Counters.bump]

/-- **`nextPair` either pairs nothing or takes the head packet**, counting nothing yet. -/
theorem nextPair_cases (q : Queue) :
    (q.nextPair.2 = none ∧ TakesHead q q.nextPair.1 0) ∨
      ∃ r p, q.nextPair.2 = some (r, p) ∧ q.packets = p :: q.nextPair.1.packets ∧
        q.nextPair.1.counters.departures = q.counters.departures := by
  unfold nextPair
  by_cases hc : q.closing = true
  · rw [if_pos hc]
    exact .inl ⟨rfl, TakesHead.of_eq rfl rfl⟩
  · rw [if_neg hc]
    dsimp only
    cases hr : q.requests.dropWhile (·.abandoned) with
    | nil => exact .inl ⟨rfl, TakesHead.of_eq rfl rfl⟩
    | cons r rs =>
      cases hp : q.packets with
      | nil => exact .inl ⟨rfl, TakesHead.of_eq hp.symm rfl⟩
      | cons p ps => exact .inr ⟨r, p, rfl, rfl, rfl⟩

/-- Pairing the head request with the head packet and answering it takes that one packet. -/
theorem takesHead_pair {q : Queue} {r : ReadRequest} {p : Queued}
    (hp : q.packets = p :: q.nextPair.1.packets)
    (hd : q.nextPair.1.counters.departures = q.counters.departures) :
    TakesHead q (q.nextPair.1.complete r p) 1 := by
  obtain ⟨hcp, hcd⟩ := complete_takes q.nextPair.1 r p
  exact ⟨by simp [hp], by simp [hcp, hp], fun n hn => (hn.of_departures hd).bump hcd⟩

/-- **Serving readers takes packets from the head**, one per reader answered, each counted as
    delivered. Induction on the fuel. -/
theorem serviceFor_takes :
    ∀ fuel (q : Queue) n, ∃ m, TakesHead q (serviceFor fuel q n).1 m ∧
      (serviceFor fuel q n).2 = n + m := by
  intro fuel
  induction fuel with
  | zero => intro q n; exact ⟨0, TakesHead.of_eq rfl rfl, rfl⟩
  | succ s ih =>
    intro q n
    rcases nextPair_cases q with ⟨hnone, ht⟩ | ⟨r, p, hsome, hp, hd⟩
    · have hq : q.nextPair = (q.nextPair.1, none) := Prod.ext rfl hnone
      rw [serviceFor, hq]
      exact ⟨0, ht, rfl⟩
    · have hq : q.nextPair = (q.nextPair.1, some (r, p)) := Prod.ext rfl hsome
      rw [serviceFor, hq]
      obtain ⟨m, hm, hn⟩ := ih (q.nextPair.1.complete r p) (n + 1)
      exact ⟨1 + m, (takesHead_pair hp hd).trans hm, by rw [hn]; omega⟩

theorem serviceReads_takes (q : Queue) : TakesHead q q.serviceReads.1 q.serviceReads.2 := by
  obtain ⟨m, hm, hn⟩ := serviceFor_takes (q.packets.length + 1) q 0
  unfold serviceReads
  rw [hn, Nat.zero_add]
  exact hm

/-- The sweep keeps a suffix: what it drops is a prefix, of the length it reports. -/
theorem dropStale_spec (g : Bool) :
    ∀ ps : List Queued, (dropStale g ps).1 = ps.drop (dropStale g ps).2 ∧
      (dropStale g ps).2 ≤ ps.length
  | [] => ⟨rfl, Nat.le_refl 0⟩
  | p :: rest => by
    obtain ⟨ih, hle⟩ := dropStale_spec g rest
    by_cases hs : (p.generation != g) = true
    · simp only [dropStale, hs, if_true, List.drop_succ_cons, List.length_cons]
      exact ⟨ih, by omega⟩
    · simp only [dropStale, hs, Bool.false_eq_true, if_false]
      exact ⟨rfl, Nat.zero_le _⟩

theorem ageSweep_takes (q : Queue) : TakesHead q q.ageSweep.1 q.ageSweep.2 := by
  obtain ⟨hd, hle⟩ := dropStale_spec q.generation q.packets
  unfold ageSweep
  by_cases h0 : (dropStale q.generation q.packets).2 = 0
  · simp only [h0, if_true]
    exact ⟨Nat.zero_le _, by rw [hd, h0], fun _ hn => hn.of_departures rfl⟩
  · simp only [h0, if_false]
    exact TakesHead.of_bump (d := 0) (o := 0) (a := (dropStale q.generation q.packets).2)
      (by omega) hle hd (by simp [Counters.departures, Counters.bump, gauge])

theorem setMaxLength_takes {q q' : Queue} {v : Nat} (h : q.setMaxLength v = .ok q') :
    TakesHead q q' (q.packets.length - v) := by
  unfold setMaxLength at h
  cases hv : Param.queueLen.validate v with
  | error e => simp [hv, bind, Except.bind] at h
  | ok w =>
    have hw : w = v := by
      unfold Param.validate at hv
      split at hv
      · cases hv
      · cases hv; rfl
    subst hw
    simp only [hv, bind, Except.bind, pure, Except.pure, Except.ok.injEq] at h
    subst h
    exact TakesHead.of_bump (d := 0) (o := q.packets.length - w) (a := 0) (by omega)
      (Nat.sub_le _ _) rfl (by simp [Counters.departures, Counters.bump, gauge])

theorem dequeue_spec (q : Queue) :
    q.packets = q.dequeue.2.toList ++ q.dequeue.1.packets ∧
      q.dequeue.1.counters.departures = q.counters.departures := by
  unfold dequeue
  cases hp : q.packets with
  | nil => exact ⟨by simp [hp], rfl⟩
  | cons p ps => exact ⟨rfl, rfl⟩

theorem drainAll_spec (q : Queue) :
    q.drainAll.1.packets = [] ∧ q.drainAll.2 = q.packets.length ∧
      q.drainAll.1.counters.departures = q.counters.departures :=
  ⟨rfl, rfl, rfl⟩

/-! ## Arrivals

`enqueue` is cut in two halves with their own lemmas: the arrival, which may overflow, and the
service of waiting readers. -/

/-- **The first half of `enqueue`** on an open queue: the stamped packet at the tail, the head
    dropped and counted when the queue overflows. -/
def arrive (q : Queue) (p : Queued) : Queue :=
  let packets := q.packets ++ [{ p with generation := q.generation }]
  let full := packets.length > q.maxLen
  let q := gauge { q with packets := if full then packets.drop 1 else packets }
  if full then { q with counters.overflowEvictions := q.counters.overflowEvictions + 1 } else q

/-- **The second half of `enqueue`**: readers are served if any wait. -/
def serveWaiting (q : Queue) : Queue := if q.requests.isEmpty then q else q.serviceReads.1

theorem enqueue_of_open {q : Queue} (p : Queued) (hc : q.closing = false) :
    q.enqueue p = ((q.arrive p).serveWaiting,
      if (q.packets ++ [{ p with generation := q.generation }]).length > q.maxLen then .overflowed
      else .queued) := by
  unfold enqueue arrive serveWaiting
  rw [if_neg (by simp [hc])]

theorem arrive_takes (q : Queue) (p : Queued) :
    ∃ m, TakesHead { q with packets := q.packets ++ [{ p with generation := q.generation }] }
      (q.arrive p) m := by
  unfold arrive
  by_cases hfull : (q.packets ++ [{ p with generation := q.generation }]).length > q.maxLen
  · simp only [hfull, if_true]
    exact ⟨1, TakesHead.of_bump (d := 0) (o := 1) (a := 0) rfl (by simp) rfl
      (by simp [Counters.departures, Counters.bump, gauge])⟩
  · simp only [hfull, if_false]
    exact ⟨0, TakesHead.of_eq rfl rfl⟩

theorem serveWaiting_takes (q : Queue) : ∃ m, TakesHead q q.serveWaiting m := by
  unfold serveWaiting
  split
  · exact ⟨0, TakesHead.of_eq rfl rfl⟩
  · exact ⟨_, serviceReads_takes q⟩

/-- **An enqueue appends the packet if it is accepted, then takes packets from the head.** -/
theorem enqueue_takes (q : Queue) (p : Queued) :
    ∃ m, TakesHead
      { q with packets := q.packets ++
          if (q.enqueue p).2.accepted then [{ p with generation := q.generation }] else [] }
      (q.enqueue p).1 m := by
  by_cases hc : q.closing = true
  · simp only [enqueue, hc, if_true]
    exact ⟨0, TakesHead.of_eq (by simp [EnqueueStatus.accepted]) rfl⟩
  · rw [enqueue_of_open p (by simpa using hc)]
    have hacc : (if (q.packets ++ [{ p with generation := q.generation }]).length > q.maxLen then
        EnqueueStatus.overflowed else .queued).accepted = true := by
      split <;> rfl
    rw [hacc, if_pos rfl]
    obtain ⟨m, hm⟩ := arrive_takes q p
    obtain ⟨m', hm'⟩ := serveWaiting_takes (q.arrive p)
    exact ⟨m + m', hm.trans hm'⟩

theorem takeReply_takes (q : Queue) (reader : Nat) : TakesHead q (q.takeReply reader).1 0 := by
  unfold takeReply
  split <;> exact TakesHead.of_eq rfl rfl

theorem recv_takes (q : Queue) (maxLen : Nat) : ∃ m, TakesHead q (q.recv maxLen).1 m := by
  unfold recv
  dsimp only
  split
  · exact ⟨0, TakesHead.of_eq rfl rfl⟩
  · -- the request joins the FIFO, readers are served, and the reply is collected
    have hT := ((TakesHead.of_eq rfl rfl : TakesHead q
      { q with requests := q.requests ++ [{ reader := q.nextReader, maxLen }],
               nextReader := q.nextReader + 1 } 0).trans
      (serviceReads_takes _)).trans (takeReply_takes _ q.nextReader)
    split <;> next heq => rw [heq] at hT; exact ⟨_, hT⟩

theorem abandon_takes (q : Queue) (reader : Nat) : TakesHead q (q.abandon reader) 0 :=
  TakesHead.of_eq rfl rfl

theorem setRepair_takes (q : Queue) (on : Bool) : TakesHead q (q.setRepair on) 0 :=
  TakesHead.of_eq rfl rfl

theorem setSweepInterval_takes {q q' : Queue} {v : Nat} (h : q.setSweepInterval v = .ok q') :
    TakesHead q q' 0 := by
  unfold setSweepInterval at h
  cases hv : Param.queueTime.validate v with
  | error e => simp [hv, bind, Except.bind] at h
  | ok w =>
    simp only [hv, bind, Except.bind, pure, Except.pure, Except.ok.injEq] at h
    subst h
    exact TakesHead.of_eq rfl rfl

/-! ## What the operations keep

Only a sweep flips the generation, only `drainAll` closes the queue, and only the setters change
the capacity, the aging time and repair. Serving readers, arrivals, reads and the rest change the
queue's contents and counters and nothing else (`SameSetup`). -/

/-- **`q'` has the setup of `q`**: its generation, capacity, whether it is closing, its aging time
    and whether it repairs checksums. -/
structure SameSetup (q q' : Queue) : Prop where
  generation : q'.generation = q.generation
  maxLen : q'.maxLen = q.maxLen
  closing : q'.closing = q.closing
  sweepMs : q'.sweepMs = q.sweepMs
  repair : q'.repair = q.repair

theorem SameSetup.refl (q : Queue) : SameSetup q q := ⟨rfl, rfl, rfl, rfl, rfl⟩

theorem SameSetup.trans {q q' q'' : Queue} (h : SameSetup q q') (h' : SameSetup q' q'') :
    SameSetup q q'' :=
  ⟨h'.generation.trans h.generation, h'.maxLen.trans h.maxLen, h'.closing.trans h.closing,
    h'.sweepMs.trans h.sweepMs, h'.repair.trans h.repair⟩

theorem complete_sameSetup (q : Queue) (r : ReadRequest) (p : Queued) :
    SameSetup q (q.complete r p) :=
  ⟨rfl, rfl, rfl, rfl, rfl⟩

theorem nextPair_sameSetup (q : Queue) : SameSetup q q.nextPair.1 := by
  unfold nextPair
  split
  · exact .refl q
  · dsimp only
    split <;> exact ⟨rfl, rfl, rfl, rfl, rfl⟩

/-- Serving readers keeps the setup; induction on the fuel. -/
theorem serviceFor_sameSetup : ∀ fuel (q : Queue) n, SameSetup q (serviceFor fuel q n).1
  | 0, q, _ => .refl q
  | fuel + 1, q, n => by
    have hq := nextPair_sameSetup q
    rw [serviceFor]
    split
    · next q' heq => rw [heq] at hq; exact hq
    · next q' r p heq =>
      rw [heq] at hq
      exact (hq.trans (complete_sameSetup q' r p)).trans (serviceFor_sameSetup fuel _ _)

theorem serviceReads_sameSetup (q : Queue) : SameSetup q q.serviceReads.1 :=
  serviceFor_sameSetup _ q 0

theorem arrive_sameSetup (q : Queue) (p : Queued) : SameSetup q (q.arrive p) := by
  unfold arrive
  dsimp only
  split <;> exact ⟨rfl, rfl, rfl, rfl, rfl⟩

theorem serveWaiting_sameSetup (q : Queue) : SameSetup q q.serveWaiting := by
  unfold serveWaiting
  split
  · exact .refl q
  · exact serviceReads_sameSetup q

theorem enqueue_sameSetup (q : Queue) (p : Queued) : SameSetup q (q.enqueue p).1 := by
  cases hc : q.closing
  · rw [enqueue_of_open p hc]
    exact (arrive_sameSetup q p).trans (serveWaiting_sameSetup _)
  · rw [enqueue, if_pos hc]
    exact ⟨rfl, rfl, rfl, rfl, rfl⟩

theorem dequeue_sameSetup (q : Queue) : SameSetup q q.dequeue.1 := by
  unfold dequeue
  split <;> exact ⟨rfl, rfl, rfl, rfl, rfl⟩

theorem takeReply_sameSetup (q : Queue) (reader : Nat) : SameSetup q (q.takeReply reader).1 := by
  unfold takeReply
  split <;> exact ⟨rfl, rfl, rfl, rfl, rfl⟩

theorem abandon_sameSetup (q : Queue) (reader : Nat) : SameSetup q (q.abandon reader) :=
  ⟨rfl, rfl, rfl, rfl, rfl⟩

/-- A read keeps the setup: the request joins, readers are served, and the reply is collected. -/
theorem recv_sameSetup (q : Queue) (maxLen : Nat) : SameSetup q (q.recv maxLen).1 := by
  unfold recv
  dsimp only
  split
  · exact ⟨rfl, rfl, rfl, rfl, rfl⟩
  · have hs := (serviceReads_sameSetup
      { q with requests := q.requests ++ [{ reader := q.nextReader, maxLen }],
               nextReader := q.nextReader + 1 }).trans (takeReply_sameSetup _ q.nextReader)
    split <;> next heq => rw [heq] at hs; exact ⟨hs.1, hs.2, hs.3, hs.4, hs.5⟩

/-- **An accepted capacity** is set, and the oldest packets beyond it are dropped and counted as
    overflow. -/
theorem setMaxLength_eq_ok {q q' : Queue} {v : Nat} (h : q.setMaxLength v = .ok q') :
    Param.queueLen.validate v = .ok v ∧
      q' = { gauge { q with maxLen := v, packets := q.packets.drop (q.packets.length - v) } with
        counters.overflowEvictions :=
          q.counters.overflowEvictions + UInt64.ofNat (q.packets.length - v) } := by
  unfold setMaxLength at h
  cases hv : Param.queueLen.validate v with
  | error e => simp [hv, bind, Except.bind] at h
  | ok w =>
    have hw : w = v := by
      unfold Param.validate at hv
      split at hv
      · cases hv
      · cases hv; rfl
    subst hw
    simp only [hv, bind, Except.bind, pure, Except.pure, Except.ok.injEq] at h
    exact ⟨rfl, h.symm⟩

/-- **An accepted aging time** is set and nothing else changes. -/
theorem setSweepInterval_eq_ok {q q' : Queue} {v : Nat} (h : q.setSweepInterval v = .ok q') :
    q' = { q with sweepMs := v } := by
  unfold setSweepInterval at h
  cases hv : Param.queueTime.validate v with
  | error e => simp [hv, bind, Except.bind] at h
  | ok w =>
    have hw : w = v := by
      unfold Param.validate at hv
      split at hv
      · cases hv
      · cases hv; rfl
    subst hw
    simp only [hv, bind, Except.bind, pure, Except.pure, Except.ok.injEq] at h
    exact h.symm

/-! ## Runs of operations -/

/-- **An operation on the queue**, as a single-threaded caller makes it. `recv` submits a read,
    serves readers and collects its own reply; `abandon` is a reader going away. -/
inductive Op
  | enqueue (p : Queued)
  | dequeue
  | ageSweep
  | setMaxLength (v : Nat)
  | setSweepInterval (v : Nat)
  | setRepair (on : Bool)
  | drainAll
  | recv (maxLen : Nat)
  | abandon (reader : Nat)
  | serviceReads
  | takeReply (reader : Nat)

/-- **The queue after an operation**; a refused setting leaves it as it was. -/
def apply (q : Queue) : Op → Queue
  | .enqueue p => (q.enqueue p).1
  | .dequeue => q.dequeue.1
  | .ageSweep => q.ageSweep.1
  | .setMaxLength v =>
    match q.setMaxLength v with
    | .ok q' => q'
    | .error _ => q
  | .setSweepInterval v =>
    match q.setSweepInterval v with
    | .ok q' => q'
    | .error _ => q
  | .setRepair on => q.setRepair on
  | .drainAll => q.drainAll.1
  | .recv maxLen => (q.recv maxLen).1
  | .abandon reader => q.abandon reader
  | .serviceReads => q.serviceReads.1
  | .takeReply reader => (q.takeReply reader).1

/-- **What an observer of a run has seen so far.** -/
structure History where
  queue : Queue := {}
  /-- Every packet taken in, as stamped on arrival, in arrival order. -/
  accepted : List Queued := []
  /-- Every packet that left the queue, in the order it left: delivered, returned by
  `dequeue`, dropped on overflow or shrinking, aged out, or discarded by `drainAll`. -/
  removed : List Queued := []
  /-- How many `dequeue`s returned a packet. -/
  dequeued : Nat := 0
  /-- The sum of what `drainAll` returned. -/
  drained : Nat := 0

namespace History

/-- The queue became `q`, `arrived` came in at the tail, and the first `m` packets of the line
    left. -/
def record (h : History) (q : Queue) (arrived : List Queued) (m : Nat) : History :=
  { h with queue := q, accepted := h.accepted ++ arrived,
           removed := h.removed ++ (h.queue.packets ++ arrived).take m }

/-- **One operation as the observer records it.** What leaves is read off the operation's
    result where it reports it (`dequeue`, `drainAll`, `ageSweep`, `serviceReads`) and is the
    packets missing from the head otherwise. -/
def step (h : History) (op : Op) : History :=
  let q := h.queue.apply op
  match op with
  | .enqueue p =>
    let arrived :=
      if (h.queue.enqueue p).2.accepted then [{ p with generation := h.queue.generation }] else []
    h.record q arrived ((h.queue.packets ++ arrived).length - q.packets.length)
  | .dequeue =>
    let out := h.queue.dequeue.2.toList
    { h with queue := q, removed := h.removed ++ out, dequeued := h.dequeued + out.length }
  | .drainAll =>
    { h with queue := q, removed := h.removed ++ h.queue.packets,
             drained := h.drained + h.queue.drainAll.2 }
  | .ageSweep => h.record q [] h.queue.ageSweep.2
  | .serviceReads => h.record q [] h.queue.serviceReads.2
  | _ => h.record q [] (h.queue.packets.length - q.packets.length)

/-- **A run from a new queue.** -/
def run (ops : List Op) : History := ops.foldl step {}

/-- **The conservation invariant**: what left, then what waits, is what came in; and every
    packet that came in is counted once, as gone, dequeued, drained or waiting, where the packets
    gone are a true count that the counters hold modulo `2^64`. -/
structure Inv (h : History) : Prop where
  fifo : h.removed ++ h.queue.packets = h.accepted
  count : ∃ n, h.queue.counters.Departed n ∧
    h.accepted.length = n + h.dequeued + h.drained + h.queue.packets.length

/-! ## The invariant along a run -/

theorem record_inv {h : History} {q : Queue} {arrived : List Queued} {m : Nat} (hi : h.Inv)
    (hm : TakesHead { h.queue with packets := h.queue.packets ++ arrived } q m) :
    (h.record q arrived m).Inv := by
  have hle := hm.le
  simp only [List.length_append] at hle
  constructor
  · simp only [record, hm.packets, List.append_assoc, List.take_append_drop]
    rw [← List.append_assoc, hi.fifo]
  · -- the `m` packets taken are added to the true count
    obtain ⟨n, hn, hc⟩ := hi.count
    refine ⟨n + m, hm.counted n hn, ?_⟩
    simp only [record, hm.packets, List.length_append, List.length_drop]
    omega

theorem record_nil_inv {h : History} {q : Queue} {m : Nat} (hi : h.Inv)
    (hm : TakesHead h.queue q m) : (h.record q [] m).Inv :=
  record_inv hi ⟨by simpa using hm.le, by simpa using hm.packets, hm.counted⟩

theorem record_diff_inv {h : History} {q : Queue} {m : Nat} (hi : h.Inv)
    (hm : TakesHead h.queue q m) :
    (h.record q [] (h.queue.packets.length - q.packets.length)).Inv := by
  rw [← hm.eq_sub]
  exact record_nil_inv hi hm

/-- **Every operation keeps the invariant**, one case per operation. -/
theorem step_inv {h : History} (hi : h.Inv) : ∀ op, (h.step op).Inv
  | .enqueue p => by
    obtain ⟨m, hm⟩ := enqueue_takes h.queue p
    have heq := hm.eq_sub
    simp only at heq
    simp only [step, apply]
    rw [← heq]
    exact record_inv hi hm
  | .dequeue => by
    obtain ⟨hp, hd⟩ := dequeue_spec h.queue
    obtain ⟨n, hn, hc⟩ := hi.count
    have hl := congrArg List.length hp
    simp only [List.length_append] at hl
    simp only [step, apply]
    constructor
    · rw [List.append_assoc, ← hp, hi.fifo]
    · refine ⟨n, hn.of_departures hd, ?_⟩
      dsimp only
      omega
  | .drainAll => by
    obtain ⟨hp, hl, hd⟩ := drainAll_spec h.queue
    obtain ⟨n, hn, hc⟩ := hi.count
    simp only [step, apply]
    constructor
    · simp only [hp, List.append_nil, hi.fifo]
    · refine ⟨n, hn.of_departures hd, ?_⟩
      simp only [hp, hl, List.length_nil]
      omega
  | .ageSweep => record_nil_inv hi (ageSweep_takes h.queue)
  | .serviceReads => record_nil_inv hi (serviceReads_takes h.queue)
  | .setMaxLength v => by
    simp only [step, apply]
    split
    · next q hq => exact record_diff_inv hi (setMaxLength_takes hq)
    · exact record_diff_inv hi (TakesHead.of_eq rfl rfl)
  | .setSweepInterval v => by
    simp only [step, apply]
    split
    · next q hq => exact record_diff_inv hi (setSweepInterval_takes hq)
    · exact record_diff_inv hi (TakesHead.of_eq rfl rfl)
  | .setRepair on => record_diff_inv hi (setRepair_takes h.queue on)
  | .recv n => by
    obtain ⟨m, hm⟩ := recv_takes h.queue n
    exact record_diff_inv hi hm
  | .abandon reader => record_diff_inv hi (abandon_takes h.queue reader)
  | .takeReply reader => record_diff_inv hi (takeReply_takes h.queue reader)

theorem foldl_inv : ∀ (ops : List Op) {h : History}, h.Inv → (ops.foldl step h).Inv
  | [], _, hi => hi
  | op :: ops, _, hi => foldl_inv ops (step_inv hi op)

theorem initial_inv : ({} : History).Inv := ⟨rfl, 0, Counters.departed_zero, rfl⟩

/-- **The queue never loses, duplicates or reorders a packet, and its counters agree modulo
    `2^64`.** Along every run from a new queue, the packets that left, in the order they left,
    followed by those still queued, are exactly the packets taken in, in order. The number of
    packets taken in is the delivered, the overflow evictions, the aged evictions, the dequeued,
    the drained and the queued, modulo `2^64`, the width of the counters; and exactly, as long as
    fewer than `2^64` packets have come in. -/
theorem run_conserves_packets (ops : List Op) :
    let h := run ops
    let k := h.queue.counters
    h.removed ++ h.queue.packets = h.accepted ∧
      h.accepted.length % UInt64.size =
        (k.packetsDelivered.toNat + k.overflowEvictions.toNat + k.agedEvictions.toNat +
          h.dequeued + h.drained + h.queue.packets.length) % UInt64.size ∧
      (h.accepted.length < UInt64.size →
        h.accepted.length = k.packetsDelivered.toNat + k.overflowEvictions.toNat +
          k.agedEvictions.toNat + h.dequeued + h.drained + h.queue.packets.length) := by
  dsimp only
  have hi : (run ops).Inv := foldl_inv ops initial_inv
  obtain ⟨n, hn, hc⟩ := hi.count
  have hmod := hn.toNat_mod
  refine ⟨hi.fifo, ?_, fun hlt => ?_⟩
  · simp only [UInt64.size] at hmod ⊢
    omega
  · -- below `2^64` arrivals no more than `2^64` packets are gone, so no counter wrapped
    have hexact := hn.toNat_of_lt (by omega)
    omega

/-- Three arrivals at a queue of capacity one: below `2^64` arrivals the counts agree exactly. -/
theorem run_conserves_packets_single_slot :
    let h := run [.setMaxLength 1, .enqueue default, .enqueue default, .enqueue default]
    let k := h.queue.counters
    h.accepted.length < UInt64.size ∧
      h.accepted.length = k.packetsDelivered.toNat + k.overflowEvictions.toNat +
        k.agedEvictions.toNat + h.dequeued + h.drained + h.queue.packets.length := by
  dsimp only
  exact ⟨by decide, (run_conserves_packets _).2.2 (by decide)⟩

/-! ## The counters wrap

Only a congruence survives the wrap. At capacity one, every arrival after the first drops the
packet before it and counts it as overflow, so `2^64` such arrivals bring the overflow counter
back to zero. -/

/-- A run one operation longer is one more step. -/
theorem run_concat (ops : List Op) (op : Op) : run (ops ++ [op]) = (run ops).step op := by
  rw [run, run, List.foldl_append, List.foldl_cons, List.foldl_nil]

/-- **An arrival at a full queue of capacity one**, open and with no reader waiting, drops the
    packet there and counts one overflow. -/
theorem enqueue_single_slot {q : Queue} (p : Queued) (hc : q.closing = false)
    (hr : q.requests = []) (hm : q.maxLen = 1) (hl : q.packets.length = 1) :
    (q.enqueue p).2 = .overflowed ∧ (q.enqueue p).1.packets.length = 1 ∧
      (q.enqueue p).1.requests = [] ∧ (q.enqueue p).1.maxLen = 1 ∧
      (q.enqueue p).1.closing = false ∧
      (q.enqueue p).1.counters.departures = q.counters.bump 0 1 0 := by
  have hfull : (q.packets ++ [{ p with generation := q.generation }]).length > q.maxLen := by
    simp [hm, hl]
  rw [enqueue_of_open p hc, if_pos hfull]
  simp [arrive, serveWaiting, hr, hm, hl, hc, gauge, Counters.departures, Counters.bump]

theorem step_single_slot {h : History} (p : Queued) (hc : h.queue.closing = false)
    (hr : h.queue.requests = []) (hm : h.queue.maxLen = 1) (hl : h.queue.packets.length = 1) :
    (h.step (.enqueue p)).queue = (h.queue.enqueue p).1 ∧
      (h.step (.enqueue p)).accepted.length = h.accepted.length + 1 ∧
      (h.step (.enqueue p)).dequeued = h.dequeued ∧ (h.step (.enqueue p)).drained = h.drained := by
  obtain ⟨hs, -⟩ := enqueue_single_slot p hc hr hm hl
  simp [step, apply, record, hs, EnqueueStatus.accepted]

/-- The run that sets the capacity to one and then takes `k + 1` packets: one packet waits, and
    the other `k` were dropped on overflow and counted modulo `2^64`. -/
theorem run_single_slot (k : Nat) :
    let h := run (.setMaxLength 1 :: .enqueue default :: List.replicate k (.enqueue default))
    h.queue.closing = false ∧ h.queue.requests = [] ∧ h.queue.maxLen = 1 ∧
      h.queue.packets.length = 1 ∧ h.accepted.length = k + 1 ∧
      h.queue.counters.departures = (0, .ofNat k, 0) ∧ h.dequeued = 0 ∧ h.drained = 0 := by
  induction k with
  | zero => decide
  | succ k ih =>
    dsimp only at ih ⊢
    obtain ⟨hc, hr, hm, hl, ha, hd, hq, hdr⟩ := ih
    obtain ⟨hs, hc', hr', hm', hcl', hd'⟩ := enqueue_single_slot default hc hr hm hl
    obtain ⟨hq', ha', hdq', hdr'⟩ := step_single_slot default hc hr hm hl
    -- the run is the shorter one followed by one more arrival
    rw [List.replicate_succ', ← List.cons_append, ← List.cons_append, run_concat, hq', ha', hdq',
      hdr', ha, hd', Counters.bump]
    simp only [Counters.departures, Prod.mk.injEq] at hd
    refine ⟨hcl', hr', hm', hc', rfl, ?_, hq, hdr⟩
    simp [hd.1, hd.2.1, hd.2.2, UInt64.ofNat_add]

/-- **The overflow counter wraps.** A queue of capacity one that takes `2^64 + 1` packets drops
    `2^64` of them on overflow, and its overflow counter reads zero again: the counters, the
    dequeued, the drained and the queued add up to the one packet waiting, not to the `2^64 + 1`
    packets taken in. -/
theorem overflow_counter_wraps :
    let h := run (.setMaxLength 1 :: .enqueue default ::
      List.replicate UInt64.size (.enqueue default))
    let k := h.queue.counters
    h.accepted.length = UInt64.size + 1 ∧
      k.packetsDelivered.toNat + k.overflowEvictions.toNat + k.agedEvictions.toNat +
        h.dequeued + h.drained + h.queue.packets.length = 1 := by
  dsimp only
  obtain ⟨-, -, -, hl, ha, hd, hq, hdr⟩ := run_single_slot UInt64.size
  simp only [Counters.departures, Prod.mk.injEq] at hd
  refine ⟨ha, ?_⟩
  rw [hd.1, hd.2.1, hd.2.2, hq, hdr, hl]
  decide

end History

end Queue

end Diversion
