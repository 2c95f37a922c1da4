import Mathlib.Tactic.SplitIfs
import Diversion.Context
import Diversion.Proofs.Reads

/-!
# `Proofs.Context` — a handle classifies by its active program, and a refused operation changes
nothing

A handle is driven by a single caller through `Context.Op`: settings, starting and replacing the
filter, classifying captured packets, reads, readers going away or collecting their replies,
the background read worker, the sweeper's clock, and closing.

The first part shows that counters never steer the queue: a queue operation run on other counters
does the same thing, up to counters (`enqueue_withCounters`). So every operation either keeps the
handle's control and drives its queue by queue operations other than draining, or (re)installs
the filter, or closes the handle (`apply_cases`), and every fact about queue runs — the reads
invariant of `Proofs.Reads` above all — holds of a handle's queue too (`Inv`).

**Classification** (`classify_follows_active_program`): along every run from a new handle, with
`P` the program compiled by the last successful start or replace and forgotten by a successful
close (`Trace`), a captured packet is absorbed exactly when the handle is open, not in
pass-through mode, the packet was not reinjected at a priority at most the handle's, `P` accepts
it, and sniffing is off; it is queued, once, exactly when the same holds with drop mode off in
place of sniffing.

**Errors and the lifecycle** (`lifecycle_forward_and_atomic`): a refused operation leaves the
handle exactly as it was — a read is refused only before it reaches the queue, since an open
handle's queue never refuses one (`Queue.recv_not_refused`); the state moves only through a
successful close, from open to closed; at most one start succeeds; and once closed, the handle
lets every packet pass, refuses reads with a shutdown error and every control operation with a
state error, while every read waiting at the close was answered with the shutdown error.
-/

namespace Diversion

namespace Queue

/-! ## Counters do not steer the queue -/

/-- The queue with its counters replaced by `k`. -/
def withCounters (q : Queue) (k : Counters) : Queue := { q with counters := k }

/-- **The counts of the capture side**, which no queue operation touches: packets classified,
    matched, diverted and dropped. -/
structure SameCapture (k k' : Counters) : Prop where
  classified : k'.packetsClassified = k.packetsClassified
  matched : k'.packetsMatched = k.packetsMatched
  diverted : k'.packetsDiverted = k.packetsDiverted
  dropped : k'.packetsDropped = k.packetsDropped

theorem SameCapture.refl (k : Counters) : SameCapture k k := ⟨rfl, rfl, rfl, rfl⟩

theorem SameCapture.trans {k k' k'' : Counters} (h : SameCapture k k') (h' : SameCapture k' k'') :
    SameCapture k k'' :=
  ⟨h'.classified.trans h.classified, h'.matched.trans h.matched, h'.diverted.trans h.diverted,
    h'.dropped.trans h.dropped⟩

theorem complete_withCounters (q : Queue) (k : Counters) (r : ReadRequest) (p : Queued) :
    ∃ k', (q.withCounters k).complete r p = (q.complete r p).withCounters k' ∧ SameCapture k k' :=
  ⟨_, rfl, ⟨rfl, rfl, rfl, rfl⟩⟩

theorem nextPair_withCounters (q : Queue) (k : Counters) :
    ∃ k', (q.withCounters k).nextPair = (q.nextPair.1.withCounters k', q.nextPair.2) ∧
      SameCapture k k' := by
  cases hc : q.closing
  · cases hr : q.requests.dropWhile (·.abandoned) with
    | nil =>
      rw [nextPair_none (q := q.withCounters k) hc (.inl hr), nextPair_none hc (.inl hr)]
      exact ⟨k, rfl, .refl k⟩
    | cons r rs =>
      cases hp : q.packets with
      | nil =>
        rw [nextPair_none (q := q.withCounters k) hc (.inr hp), nextPair_none hc (.inr hp)]
        exact ⟨k, rfl, .refl k⟩
      | cons p ps =>
        rw [nextPair_some (q := q.withCounters k) hc hr hp, nextPair_some hc hr hp]
        exact ⟨_, rfl, ⟨rfl, rfl, rfl, rfl⟩⟩
  · have h : ∀ q' : Queue, q'.closing = true → q'.nextPair = (q', none) := by
      intro q' hc'
      unfold nextPair
      rw [if_pos hc']
    rw [h _ hc, h (q.withCounters k) hc]
    exact ⟨k, rfl, .refl k⟩

/-- **Serving readers runs the same on any counters.** Induction on the fuel. -/
theorem serviceFor_withCounters : ∀ fuel (q : Queue) (k : Counters) (n : Nat),
    ∃ k', serviceFor fuel (q.withCounters k) n =
      ((serviceFor fuel q n).1.withCounters k', (serviceFor fuel q n).2) ∧ SameCapture k k'
  | 0, _, k, _ => ⟨k, rfl, .refl k⟩
  | fuel + 1, q, k, n => by
    obtain ⟨k₁, h₁, hs₁⟩ := nextPair_withCounters q k
    rw [serviceFor, serviceFor, h₁]
    rcases q.nextPair with ⟨q', _ | ⟨r, p⟩⟩
    · exact ⟨k₁, rfl, hs₁⟩
    · obtain ⟨k₂, h₂, hs₂⟩ := complete_withCounters q' k₁ r p
      obtain ⟨k₃, h₃, hs₃⟩ := serviceFor_withCounters fuel (q'.complete r p) k₂ (n + 1)
      refine ⟨k₃, ?_, hs₁.trans (hs₂.trans hs₃)⟩
      dsimp only
      rw [h₂, h₃]

theorem serviceReads_withCounters (q : Queue) (k : Counters) :
    ∃ k', (q.withCounters k).serviceReads = (q.serviceReads.1.withCounters k', q.serviceReads.2) ∧
      SameCapture k k' :=
  serviceFor_withCounters _ q k 0

theorem serveWaiting_withCounters (q : Queue) (k : Counters) :
    ∃ k', (q.withCounters k).serveWaiting = q.serveWaiting.withCounters k' ∧ SameCapture k k' := by
  unfold serveWaiting
  by_cases hr : q.requests.isEmpty = true
  · rw [if_pos hr, if_pos (show (q.withCounters k).requests.isEmpty = true from hr)]
    exact ⟨k, rfl, .refl k⟩
  · rw [if_neg hr, if_neg (show ¬(q.withCounters k).requests.isEmpty = true from hr)]
    obtain ⟨k', h, hs⟩ := serviceReads_withCounters q k
    rw [h]
    exact ⟨k', rfl, hs⟩

theorem arrive_withCounters (q : Queue) (k : Counters) (p : Queued) :
    ∃ k', (q.withCounters k).arrive p = (q.arrive p).withCounters k' ∧ SameCapture k k' := by
  unfold arrive
  simp only [withCounters]
  by_cases hfull : (q.packets ++ [{ p with generation := q.generation }]).length > q.maxLen
  · simp only [hfull, ↓reduceIte]
    exact ⟨_, rfl, ⟨rfl, rfl, rfl, rfl⟩⟩
  · simp only [hfull, ↓reduceIte]
    exact ⟨_, rfl, ⟨rfl, rfl, rfl, rfl⟩⟩

/-- **An arrival runs the same on any counters.** -/
theorem enqueue_withCounters (q : Queue) (k : Counters) (p : Queued) :
    ∃ k', (q.withCounters k).enqueue p = ((q.enqueue p).1.withCounters k', (q.enqueue p).2) ∧
      SameCapture k k' := by
  cases hc : q.closing
  · rw [enqueue_of_open p hc, enqueue_of_open (q := q.withCounters k) p hc]
    -- the arrival, then the service of waiting readers
    obtain ⟨k₁, h₁, hs₁⟩ := arrive_withCounters q k p
    obtain ⟨k₂, h₂, hs₂⟩ := serveWaiting_withCounters (q.arrive p) k₁
    rw [h₁, h₂]
    exact ⟨k₂, rfl, hs₁.trans hs₂⟩
  · rw [enqueue, if_pos (show (q.withCounters k).closing = true from hc), enqueue, if_pos hc]
    exact ⟨_, rfl, ⟨rfl, rfl, rfl, rfl⟩⟩

/-- **Only `drainAll` closes the queue**, along any run of other operations. -/
theorem foldl_closing_of_ne : ∀ (ops : List Op), (∀ o ∈ ops, o ≠ .drainAll) → ∀ q : Queue,
    (ops.foldl apply q).closing = q.closing
  | [], _, _ => rfl
  | op :: ops, h, q => by
    rw [List.foldl_cons, foldl_closing_of_ne ops (fun o ho => h o (List.mem_cons_of_mem _ ho)),
      apply_closing_of_ne q op (h op List.mem_cons_self)]

/-- The reads invariant does not read the counters. -/
theorem ReadsInv.withCounters {q : Queue} (h : ReadsInv q) (k : Counters) :
    ReadsInv (q.withCounters k) :=
  ⟨h.apart, h.ordered, h.issued, h.answered⟩

/-- **A collected reply** was among the replies, under the reader's number. -/
theorem takeReply_found {q q' : Queue} {reader : Nat} {r : Except Error Delivered}
    (h : q.takeReply reader = (q', some r)) : (reader, r) ∈ q.replies := by
  unfold takeReply at h
  split at h
  · next n r' hx =>
    obtain rfl : r' = r := Option.some.inj (Prod.mk.inj h).2
    have hn : n = reader := by simpa using List.find?_some hx
    rw [← hn]
    exact List.mem_of_find?_eq_some hx
  · exact absurd (Prod.mk.inj h).2 (by simp)

/-- **A read of an open queue is never refused**: the new reader has no reply but those serving
    gives, and serving answers only with packets. -/
theorem recv_not_refused {q : Queue} (hc : q.closing = false) (hi : ReadsInv q) (maxLen : Nat)
    (e : Error) : (q.recv maxLen).2 ≠ .ready (.error e) := by
  unfold recv
  dsimp only
  rw [if_neg (by simpa using hc)]
  obtain ⟨-, hs⟩ := serviceReads_spec (q := { q with
      requests := q.requests ++ [{ reader := q.nextReader, maxLen }],
      nextReader := q.nextReader + 1 }) hc
  split
  · next q' r heq =>
    intro hr
    obtain rfl : r = .error e := by simpa using hr
    have hm := takeReply_found heq
    rw [hs.replies, List.mem_append] at hm
    rcases hm with hm | hm
    · -- an older reply belongs to an older reader
      exact absurd (hi.answered _ hm) (Nat.lt_irrefl _)
    · -- a reply from serving carries a packet
      obtain ⟨i, hi₁, hi₂⟩ := List.mem_iff_getElem.mp hm
      simp only [List.getElem_zipWith, answer, Prod.mk.injEq] at hi₂
      exact absurd hi₂.2 (by simp)
  · simp

end Queue

/-- **The copy of a captured packet** that a handle queues: its bytes, where it was captured, and
    the checksum repair its capture calls for. -/
def Capture.copy (p : Capture) : Queued :=
  { data := p.data, address := p.address, fixup := .forCapture p.address.direction p.offload }

namespace Context

/-! ## Operations on a handle -/

/-- **An operation on a handle**, as a single-threaded caller makes it. `dropRead` is a reader
    going away, `collect` a reader taking its reply, `serve` a step of the background read worker
    and `advance` the sweeper's clock moving on. -/
inductive Op
  | setParam (p : Param) (v : Nat)
  | startFilter (executor : Bool) (rules : Bytes)
  | replaceFilter (rules : Bytes)
  | classify (p : Capture)
  | recv (maxLen : Nat)
  | dropRead (reader : Nat)
  | collect (reader : Nat)
  | serve
  | advance (ms : Nat)
  | close

/-- **The handle after an operation**; a refused one leaves it as it was. -/
def apply (c : Context) : Op → Context
  | .setParam p v =>
    match c.setParam p v with
    | .ok c' => c'
    | .error _ => c
  | .startFilter x rules =>
    match c.startFilter x rules with
    | .ok r => r.1
    | .error _ => c
  | .replaceFilter rules =>
    match c.replaceFilter rules with
    | .ok r => r.1
    | .error _ => c
  | .classify p => (c.classify p).1
  | .recv n => (c.recv n).1
  | .dropRead reader => { c with queue := c.queue.abandon reader }
  | .collect reader => { c with queue := (c.queue.takeReply reader).1 }
  | .serve => { c with queue := c.queue.serviceReads.1 }
  | .advance ms => c.advance ms
  | .close => c.close.1

/-- **The error an operation reports**, if it is refused. -/
def failure (c : Context) : Op → Option Error
  | .setParam p v =>
    match c.setParam p v with
    | .ok _ => none
    | .error e => some e
  | .startFilter x rules =>
    match c.startFilter x rules with
    | .ok _ => none
    | .error e => some e
  | .replaceFilter rules =>
    match c.replaceFilter rules with
    | .ok _ => none
    | .error e => some e
  | .recv n =>
    match (c.recv n).2 with
    | .ready (.error e) => some e
    | _ => none
  | .close =>
    match c.close.2 with
    | .ok _ => none
    | .error e => some e
  | _ => none

/-- **A run** of operations from a handle. -/
def run (c : Context) (ops : List Op) : Context := ops.foldl apply c

/-! ## What each operation changes -/

/-- **`c'` has the control of `c`**: its state, layer, priority, flags, program, plan, and whether a
    filter was started. -/
structure SameControl (c c' : Context) : Prop where
  state : c'.state = c.state
  layer : c'.layer = c.layer
  priority : c'.priority = c.priority
  flags : c'.flags = c.flags
  program : c'.program = c.program
  plan : c'.plan = c.plan
  started : c'.started = c.started

theorem SameControl.refl (c : Context) : SameControl c c := ⟨rfl, rfl, rfl, rfl, rfl, rfl, rfl⟩

theorem SameControl.trans {c c' c'' : Context} (h : SameControl c c') (h' : SameControl c' c'') :
    SameControl c c'' :=
  ⟨h'.state.trans h.state, h'.layer.trans h.layer, h'.priority.trans h.priority,
    h'.flags.trans h.flags, h'.program.trans h.program, h'.plan.trans h.plan,
    h'.started.trans h.started⟩

/-- **`c'` runs the queue of `c` through queue operations**, up to counters, none of which closes
    it. -/
def DrivesQueue (c c' : Context) : Prop :=
  ∃ qops : List Queue.Op, (∀ o ∈ qops, o ≠ .drainAll) ∧
    ∃ k, c'.queue = (qops.foldl Queue.apply c.queue).withCounters k

theorem DrivesQueue.refl (c : Context) : DrivesQueue c c := ⟨[], by simp, c.queue.counters, rfl⟩

theorem DrivesQueue.of_apply {c c' : Context} {o : Queue.Op} (ho : o ≠ .drainAll)
    (h : c'.queue = c.queue.apply o) : DrivesQueue c c' :=
  ⟨[o], by simpa using ho, c'.queue.counters, by rw [h]; rfl⟩

/-- **An accepted setting** changes the queue by the matching queue operation, on an open handle. -/
theorem setParam_eq_ok {c c' : Context} {p : Param} {v : Nat} (h : c.setParam p v = .ok c') :
    c.state = .opened ∧ ∃ o : Queue.Op, o ≠ .drainAll ∧ c' = { c with queue := c.queue.apply o } := by
  unfold setParam ensureOpen at h
  by_cases ho : c.state = .opened
  · refine ⟨ho, ?_⟩
    simp only [ho, if_true] at h
    cases p with
    | queueLen =>
      refine ⟨.setMaxLength v, by simp, ?_⟩
      cases hq : c.queue.setMaxLength v with
      | error e => simp [hq, bind, Except.bind] at h
      | ok q' =>
        simp only [hq, bind, Except.bind, pure, Except.pure, Except.ok.injEq] at h
        simp [← h, Queue.apply, hq, ho]
    | queueTime =>
      refine ⟨.setSweepInterval v, by simp, ?_⟩
      cases hq : c.queue.setSweepInterval v with
      | error e => simp [hq, bind, Except.bind] at h
      | ok q' =>
        simp only [hq, bind, Except.bind, pure, Except.pure, Except.ok.injEq] at h
        simp [← h, Queue.apply, hq, ho]
  · simp [ho, bind, Except.bind] at h

/-- **The sweeper's clock** moves the clock and sweeps the queue, nothing else. Induction on the
    wake-ups left. -/
theorem sweepUntil_shape (target : Nat) : ∀ (fuel : Nat) (c : Context),
    SameControl c (sweepUntil target fuel c) ∧
      ∃ n, (sweepUntil target fuel c).queue =
        (List.replicate n Queue.Op.ageSweep).foldl Queue.apply c.queue
  | 0, c => ⟨.refl c, 0, rfl⟩
  | fuel + 1, c => by
    rw [sweepUntil]
    split
    · next t _ =>
      split
      · dsimp only
        split
        · exact ⟨⟨rfl, rfl, rfl, rfl, rfl, rfl, rfl⟩, 0, rfl⟩
        · have hstep : SameControl c
              { c with clock := t, queue := c.queue.ageSweep.1,
                       sweepAt := some (t + c.queue.ageSweep.1.sweepMs) } :=
            ⟨rfl, rfl, rfl, rfl, rfl, rfl, rfl⟩
          obtain ⟨hs, n, hn⟩ := sweepUntil_shape target fuel
            { c with clock := t, queue := c.queue.ageSweep.1,
                     sweepAt := some (t + c.queue.ageSweep.1.sweepMs) }
          refine ⟨hstep.trans hs, n + 1, ?_⟩
          rw [hn, List.replicate_succ, List.foldl_cons]
          rfl
      · exact ⟨.refl c, 0, rfl⟩
    · exact ⟨.refl c, 0, rfl⟩

/-- **What a read does to a handle**: refused before the queue is reached, or a queue read. -/
theorem recv_shape (c : Context) (n : Nat) :
    ((c.recv n).1 = c ∧ ∃ e, (c.recv n).2 = .ready (.error e)) ∨
      (c.state = .opened ∧ c.started = true ∧ c.recv n = ({ c with queue := (c.queue.recv n).1 },
        (c.queue.recv n).2)) := by
  unfold recv
  split
  · exact .inl ⟨rfl, _, rfl⟩
  · exact .inl ⟨rfl, _, rfl⟩
  · exact .inl ⟨rfl, _, rfl⟩
  · next hs =>
    split
    · exact .inl ⟨rfl, _, rfl⟩
    · next hst => exact .inr ⟨hs, by simpa using hst, rfl⟩

/-! ## Classification -/

/-- **A handle judges a captured packet** when it is open, not in pass-through mode, and the
    packet was not reinjected by a handle of priority at most its own. -/
def Judges (c : Context) (p : Capture) : Prop :=
  c.state = .opened ∧ c.flags.passthru = false ∧
    p.injectedPriority.any (fun i => decide (i ≤ c.priority)) = false

/-- **A handle matches a captured packet**: it judges it and its program accepts it. -/
def Matches (c : Context) (p : Capture) : Prop :=
  c.Judges p ∧ c.program.any (·.accepts p.data p.address) = true

instance (c : Context) (p : Capture) : Decidable (c.Matches p) := by
  unfold Matches Judges; infer_instance

/-- **Diverting keeps the control** of the handle; only its queue changes. -/
theorem divert_sameControl (c : Context) (p : Capture) : SameControl c (c.divert p) := by
  unfold divert
  dsimp only
  split <;> exact ⟨rfl, rfl, rfl, rfl, rfl, rfl, rfl⟩

/-- **A packet the handle does not match passes**, counted as classified only. -/
theorem classify_of_not_matches {c : Context} {p : Capture} (h : ¬c.Matches p) :
    c.classify p =
      (c.count fun k => { k with packetsClassified := k.packetsClassified + 1 }, .permit) := by
  unfold classify
  dsimp only
  -- one split per gate: state or pass-through, reinjection, no program, not accepted
  split
  · rfl
  · next h₁ =>
    split
    · rfl
    · next h₂ =>
      split
      · rfl
      · next prog hp =>
        split
        · rfl
        · next h₃ =>
          -- every gate passed and the program accepts: the packet was matched after all
          refine absurd ⟨⟨?_, ?_, ?_⟩, ?_⟩ h
          · exact Decidable.byContradiction fun hs => h₁ (.inl hs)
          · simpa [count] using fun hpt => h₁ (.inr hpt)
          · exact Bool.eq_false_iff.mpr h₂
          · show c.program.any _ = true
            rw [show c.program = some prog from hp]
            simpa using h₃

/-- **A matched packet** is counted, then dropped or diverted; sniffing lets it pass. -/
theorem classify_of_matches {c : Context} {p : Capture} (h : c.Matches p) :
    c.classify p =
      (let c₁ := (c.count fun k => { k with packetsClassified := k.packetsClassified + 1 }).count
          fun k => { k with packetsMatched := k.packetsMatched + 1 }
       if c.flags.drop then c₁.count fun k => { k with packetsDropped := k.packetsDropped + 1 }
       else c₁.divert p,
       if c.flags.sniff then .permit else .absorb) := by
  obtain ⟨⟨hs, hpt, hi⟩, ha⟩ := h
  obtain ⟨prog, hp, ha⟩ := (Option.any_eq_true _ _).mp ha
  unfold classify
  dsimp only
  rw [if_neg (by simp [count, hs, hpt]), if_neg (by rw [Bool.not_eq_true]; exact hi)]
  split
  · next hn => simp [count, hp] at hn
  · next prog' hp' =>
    obtain rfl : prog' = prog := by simp only [count, hp, Option.some.injEq] at hp'; exact hp'.symm
    rw [if_neg (by simp [ha])]
    split
    · next hd =>
      rw [if_pos (show c.flags.drop = true from hd)]
      rfl
    · next hd =>
      -- the verdict reads the flags of the handle after diverting, which are the same
      rw [if_neg (show ¬c.flags.drop = true from hd), (divert_sameControl _ p).flags]
      rfl

/-- **Diverting on an open queue** takes the copy in, whole, and counts it. -/
theorem divert_of_open (c : Context) (p : Capture) (hc : c.queue.closing = false) :
    (c.queue.enqueue p.copy).2.accepted = true ∧
      (c.divert p).queue = (c.queue.enqueue p.copy).1.withCounters
        { (c.queue.enqueue p.copy).1.counters with
          packetsDiverted := (c.queue.enqueue p.copy).1.counters.packetsDiverted + 1 } := by
  have hacc : (c.queue.enqueue p.copy).2.accepted = true := by
    rw [Queue.enqueue_of_open _ hc]
    split <;> rfl
  refine ⟨hacc, ?_⟩
  unfold divert
  simp only [Capture.copy] at hacc ⊢
  simp only [hacc, if_true, count]
  rfl

/-- **Diverting from a handle whose counts were bumped** on an open queue: the copy is taken in as
    on the queue before, and the capture counts are the bumped ones plus the diverted packet. -/
theorem divert_of_counted {c c₁ : Context} (p : Capture) (k₀ : Counters)
    (h : c₁ = { c with queue := c.queue.withCounters k₀ }) (hc : c.queue.closing = false) :
    (c.queue.enqueue p.copy).2.accepted = true ∧
      ∃ k, (c₁.divert p).queue = (c.queue.enqueue p.copy).1.withCounters k ∧
        k.packetsClassified = k₀.packetsClassified ∧ k.packetsMatched = k₀.packetsMatched ∧
        k.packetsDropped = k₀.packetsDropped ∧ k.packetsDiverted = k₀.packetsDiverted + 1 := by
  subst h
  obtain ⟨hacc, hq⟩ := divert_of_open { c with queue := c.queue.withCounters k₀ } p hc
  -- the bumped queue is the queue on other counters, which enqueues alike
  obtain ⟨k, he, hk⟩ := Queue.enqueue_withCounters c.queue k₀ p.copy
  have he' : ({ c with queue := c.queue.withCounters k₀ } : Context).queue.enqueue p.copy =
      ((c.queue.enqueue p.copy).1.withCounters k, (c.queue.enqueue p.copy).2) := he
  rw [he'] at hacc hq
  exact ⟨hacc, _, hq, hk.classified, hk.matched, hk.dropped, congrArg (· + 1) hk.diverted⟩

/-- **Classification keeps the control** of the handle. -/
theorem classify_sameControl (c : Context) (p : Capture) : SameControl c (c.classify p).1 := by
  by_cases hm : c.Matches p
  · rw [classify_of_matches hm]
    dsimp only
    split
    · exact ⟨rfl, rfl, rfl, rfl, rfl, rfl, rfl⟩
    · refine SameControl.trans ?_ (divert_sameControl _ p)
      exact ⟨rfl, rfl, rfl, rfl, rfl, rfl, rfl⟩
  · rw [classify_of_not_matches hm]
    exact ⟨rfl, rfl, rfl, rfl, rfl, rfl, rfl⟩

/-- **The verdict**: a packet is absorbed exactly when matched outside sniff mode. -/
theorem classify_absorb_iff (c : Context) (p : Capture) :
    (c.classify p).2 = .absorb ↔ c.Matches p ∧ c.flags.sniff = false := by
  by_cases hm : c.Matches p
  · rw [classify_of_matches hm]
    cases c.flags.sniff <;> simp [hm]
  · rw [classify_of_not_matches hm]
    simp [hm]

/-- **A matched packet in drop mode** is counted as dropped and queued nowhere. -/
theorem classify_of_drop {c : Context} {p : Capture} (hm : c.Matches p) (hd : c.flags.drop = true) :
    (c.classify p).1.queue = c.queue.withCounters
      { c.queue.counters with
        packetsClassified := c.queue.counters.packetsClassified + 1,
        packetsMatched := c.queue.counters.packetsMatched + 1,
        packetsDropped := c.queue.counters.packetsDropped + 1 } := by
  rw [classify_of_matches hm]
  simp only [hd, if_true]
  rfl

/-- **A matched packet outside drop mode** is queued, once, and counted as diverted. -/
theorem classify_of_divert {c : Context} {p : Capture} (hm : c.Matches p)
    (hd : c.flags.drop = false) (hc : c.queue.closing = false) :
    (c.queue.enqueue p.copy).2.accepted = true ∧
      ∃ k, (c.classify p).1.queue = (c.queue.enqueue p.copy).1.withCounters k ∧
        k.packetsClassified = c.queue.counters.packetsClassified + 1 ∧
        k.packetsMatched = c.queue.counters.packetsMatched + 1 ∧
        k.packetsDropped = c.queue.counters.packetsDropped ∧
        k.packetsDiverted = c.queue.counters.packetsDiverted + 1 := by
  rw [classify_of_matches hm]
  simp only [hd, Bool.false_eq_true, if_false]
  exact divert_of_counted p _ rfl hc

/-- Diverting from a handle whose counts were bumped leaves the queue as enqueueing the copy does,
    up to counters. -/
theorem divert_queue (c : Context) (p : Capture) (k₀ : Counters) :
    ∃ k, (({ c with queue := c.queue.withCounters k₀ } : Context).divert p).queue =
      (c.queue.enqueue p.copy).1.withCounters k := by
  obtain ⟨k, he, -⟩ := Queue.enqueue_withCounters c.queue k₀ p.copy
  have he' : ({ c with queue := c.queue.withCounters k₀ } : Context).queue.enqueue p.copy =
      ((c.queue.enqueue p.copy).1.withCounters k, (c.queue.enqueue p.copy).2) := he
  unfold divert
  simp only [Capture.copy] at he' ⊢
  rw [he']
  split <;> exact ⟨_, rfl⟩

/-- **Classification drives the queue** by enqueueing the copy, or not at all. -/
theorem classify_drives (c : Context) (p : Capture) : DrivesQueue c (c.classify p).1 := by
  by_cases hm : c.Matches p
  · rw [classify_of_matches hm]
    dsimp only
    split
    · exact ⟨[], by simp, _, rfl⟩
    · -- the counted queue enqueues as the queue does, up to counters
      obtain ⟨k, hk⟩ := divert_queue c p _
      exact ⟨[.enqueue p.copy], by simp, k, hk⟩
  · rw [classify_of_not_matches hm]
    exact ⟨[], by simp, _, rfl⟩

/-! ## Starting, replacing, closing -/

/-- **A successful start**: the handle was open and not started, and the compiled program is
    installed, the filter marked started and the sweeper's first wake-up set. -/
theorem startFilter_eq_ok {c : Context} {x : Bool} {rules : Bytes} {r : Context × HookPlan}
    (h : c.startFilter x rules = .ok r) :
    c.state = .opened ∧ c.started = false ∧ ∃ prog, compile rules = .ok prog ∧
      r.1 = { (c.install prog).1 with started := true, sweepAt := some (c.clock + c.queue.sweepMs) } := by
  unfold startFilter ensureOpen at h
  by_cases hs : c.state = .opened
  · -- every check that refuses closes its case
    cases hst : c.started <;> cases x <;> cases hc : compile rules <;>
      simp [hs, hst, hc, bind, Except.bind, throw, throwThe, MonadExcept.throw, Except.mapError,
        pure, Except.pure] at h
    exact ⟨hs, rfl, _, rfl, by rw [← h]; rfl⟩
  · simp [hs, bind, Except.bind] at h

/-- **A successful replace**: the handle was open and started, and the compiled program is
    installed. -/
theorem replaceFilter_eq_ok {c : Context} {rules : Bytes} {r : Context × HookPlan}
    (h : c.replaceFilter rules = .ok r) :
    c.state = .opened ∧ c.started = true ∧ ∃ prog, compile rules = .ok prog ∧ r = c.install prog := by
  unfold replaceFilter ensureOpen at h
  by_cases hs : c.state = .opened
  · cases hst : c.started <;> cases hc : compile rules <;>
      simp [hs, hst, hc, bind, Except.bind, throw, throwThe, MonadExcept.throw, Except.mapError,
        pure, Except.pure] at h
    exact ⟨hs, rfl, _, rfl, h.symm⟩
  · simp [hs, bind, Except.bind] at h

/-- **Closing an open handle** drains its queue, stops the filter and forgets the program. -/
theorem close_of_opened {c : Context} (h : c.state = .opened) :
    c.close = ({ c with state := .closed, started := false, sweepAt := none, program := none,
                        queue := c.queue.drainAll.1 }, .ok ()) := by
  unfold close
  rw [if_neg (by simp [h])]

/-- **Closing a handle that is not open** is refused, and changes nothing. -/
theorem close_of_not_opened {c : Context} (h : c.state ≠ .opened) :
    c.close = (c, .error (.state (.cannotClose c.state))) := by
  unfold close
  rw [if_pos h]

/-- A read keeps the control of the handle. -/
theorem recv_sameControl (c : Context) (n : Nat) : SameControl c (c.recv n).1 := by
  rcases recv_shape c n with ⟨h, -⟩ | ⟨-, -, h⟩
  · rw [h]; exact .refl c
  · rw [h]; exact ⟨rfl, rfl, rfl, rfl, rfl, rfl, rfl⟩

/-- **Moving the clock** keeps the control and sweeps the queue some number of times. -/
theorem advance_shape (c : Context) (ms : Nat) :
    SameControl c (c.advance ms) ∧
      ∃ n, (c.advance ms).queue = (List.replicate n Queue.Op.ageSweep).foldl Queue.apply c.queue := by
  obtain ⟨hs, n, hn⟩ := sweepUntil_shape (c.clock + ms) (ms + 1) c
  exact ⟨⟨hs.state, hs.layer, hs.priority, hs.flags, hs.program, hs.plan, hs.started⟩, n, hn⟩

/-! ## The active program -/

/-- **The program an operation leaves active** when it succeeds: the one a start or a replace
    compiled, none after a close, the one before otherwise. -/
def Op.installs : Op → Option Program → Option Program
  | .startFilter _ rules, _ => (compile rules).toOption
  | .replaceFilter rules, _ => (compile rules).toOption
  | .close, _ => none
  | _, active => active

/-- **The handle's program follows the operations**: a successful one installs what it
    installs, a refused one nothing. One case per operation. -/
theorem apply_program (c : Context) : ∀ op : Op,
    (c.apply op).program = if (c.failure op).isNone then op.installs c.program else c.program
  | .setParam p v => by
    cases h : c.setParam p v with
    | error e => simp [apply, failure, h]
    | ok c' =>
      obtain ⟨-, o, -, rfl⟩ := setParam_eq_ok h
      simp [apply, failure, h, Op.installs]
  | .startFilter x rules => by
    cases h : c.startFilter x rules with
    | error e => simp [apply, failure, h]
    | ok r =>
      obtain ⟨-, -, prog, hc, hr⟩ := startFilter_eq_ok h
      simp [apply, failure, h, Op.installs, hr, hc, install, Except.toOption]
  | .replaceFilter rules => by
    cases h : c.replaceFilter rules with
    | error e => simp [apply, failure, h]
    | ok r =>
      obtain ⟨-, -, prog, hc, rfl⟩ := replaceFilter_eq_ok h
      simp [apply, failure, h, Op.installs, hc, install, Except.toOption]
  | .classify p => by simp [apply, failure, Op.installs, (classify_sameControl c p).program]
  | .recv n => by simp [apply, Op.installs, (recv_sameControl c n).program]
  | .dropRead _ => by simp [apply, failure, Op.installs]
  | .collect _ => by simp [apply, failure, Op.installs]
  | .serve => by simp [apply, failure, Op.installs]
  | .advance ms => by simp [apply, failure, Op.installs, (advance_shape c ms).1.program]
  | .close => by
    by_cases hs : c.state = .opened
    · simp [apply, failure, Op.installs, close_of_opened hs]
    · simp [apply, failure, close_of_not_opened hs]

/-! ## What each operation does -/

/-- **`c'` is `c` with its filter (re)installed**: the state, the settings and the queue are kept,
    and a started filter stays started. -/
structure Refilter (c c' : Context) : Prop where
  state : c'.state = c.state
  layer : c'.layer = c.layer
  priority : c'.priority = c.priority
  flags : c'.flags = c.flags
  queue : c'.queue = c.queue
  started : c.started = true → c'.started = true

/-- A handle returned as it was keeps its control and drives its queue by nothing. -/
theorem kept_of_eq {c c' : Context} (h : c' = c) : SameControl c c' ∧ DrivesQueue c c' := by
  rw [h]
  exact ⟨.refl c, .refl c⟩

/-- **Every operation has one of three shapes**: it keeps the control and drives the queue by queue
    operations; it (re)installs the filter; or it closes an open handle. One case per operation. -/
theorem apply_cases (c : Context) : ∀ op : Op,
    (SameControl c (c.apply op) ∧ DrivesQueue c (c.apply op)) ∨ Refilter c (c.apply op) ∨
      (op = .close ∧ c.state = .opened ∧
        c.apply op = { c with state := .closed, started := false, sweepAt := none, program := none,
                              queue := c.queue.drainAll.1 })
  | .setParam p v => by
    cases h : c.setParam p v with
    | error e => exact .inl (kept_of_eq (by simp only [apply, h]))
    | ok c' =>
      obtain ⟨-, o, ho, rfl⟩ := setParam_eq_ok h
      have ha : c.apply (.setParam p v) = { c with queue := c.queue.apply o } := by simp only [apply, h]
      exact .inl (ha ▸ ⟨⟨rfl, rfl, rfl, rfl, rfl, rfl, rfl⟩, .of_apply ho rfl⟩)
  | .startFilter x rules => by
    cases h : c.startFilter x rules with
    | error e => exact .inl (kept_of_eq (by simp only [apply, h]))
    | ok r =>
      obtain ⟨-, -, prog, -, hr⟩ := startFilter_eq_ok h
      have ha : c.apply (.startFilter x rules) = r.1 := by simp only [apply, h]
      exact .inr (.inl (ha ▸ hr ▸ ⟨rfl, rfl, rfl, rfl, rfl, fun _ => rfl⟩))
  | .replaceFilter rules => by
    cases h : c.replaceFilter rules with
    | error e => exact .inl (kept_of_eq (by simp only [apply, h]))
    | ok r =>
      obtain ⟨-, -, prog, -, rfl⟩ := replaceFilter_eq_ok h
      have ha : c.apply (.replaceFilter rules) = (c.install prog).1 := by simp only [apply, h]
      exact .inr (.inl (ha ▸ ⟨rfl, rfl, rfl, rfl, rfl, id⟩))
  | .classify p => .inl ⟨classify_sameControl c p, classify_drives c p⟩
  | .recv n => by
    rcases recv_shape c n with ⟨h, -⟩ | ⟨-, -, h⟩
    · exact .inl (kept_of_eq (by simp only [apply, h]))
    · refine .inl ⟨recv_sameControl c n, .of_apply (o := .recv n) (by simp) ?_⟩
      simp only [apply, h]
      rfl
  | .dropRead r => .inl ⟨⟨rfl, rfl, rfl, rfl, rfl, rfl, rfl⟩, .of_apply (o := .abandon r) (by simp) rfl⟩
  | .collect r => .inl ⟨⟨rfl, rfl, rfl, rfl, rfl, rfl, rfl⟩, .of_apply (o := .takeReply r) (by simp) rfl⟩
  | .serve => .inl ⟨⟨rfl, rfl, rfl, rfl, rfl, rfl, rfl⟩, .of_apply (o := .serviceReads) (by simp) rfl⟩
  | .advance ms => by
    obtain ⟨hs, n, hn⟩ := advance_shape c ms
    refine .inl ⟨hs, List.replicate n .ageSweep, fun o ho => ?_, (c.advance ms).queue.counters, ?_⟩
    · rw [List.eq_of_mem_replicate ho]
      simp
    · show (c.advance ms).queue = _
      rw [hn]
      rfl
  | .close => by
    by_cases hs : c.state = .opened
    · exact .inr (.inr ⟨rfl, hs, by simp only [apply, close_of_opened hs]⟩)
    · exact .inl (kept_of_eq (by simp only [apply, close_of_not_opened hs]))

/-- **The lifecycle only moves forward**: an operation keeps the state, or it is a successful close
    of an open handle, which closes it. -/
theorem apply_state (c : Context) (op : Op) :
    (c.apply op).state = c.state ∨
      (op = .close ∧ c.failure .close = none ∧ c.state = .opened ∧ (c.apply op).state = .closed) := by
  rcases apply_cases c op with ⟨hs, -⟩ | h | ⟨rfl, hs, h⟩
  · exact .inl hs.state
  · exact .inl h.state
  · refine .inr ⟨rfl, ?_, hs, by rw [h]⟩
    simp [failure, close_of_opened hs]

/-- **The settings of a handle never change**: its priority and its flags. -/
theorem apply_setting (c : Context) (op : Op) :
    (c.apply op).priority = c.priority ∧ (c.apply op).flags = c.flags := by
  rcases apply_cases c op with ⟨hs, -⟩ | h | ⟨-, -, h⟩
  · exact ⟨hs.priority, hs.flags⟩
  · exact ⟨h.priority, h.flags⟩
  · rw [h]; exact ⟨rfl, rfl⟩

theorem run_setting : ∀ (ops : List Op) (c : Context),
    (run c ops).priority = c.priority ∧ (run c ops).flags = c.flags
  | [], _ => ⟨rfl, rfl⟩
  | op :: ops, c => by
    obtain ⟨h₁, h₂⟩ := run_setting ops (c.apply op)
    obtain ⟨h₃, h₄⟩ := apply_setting c op
    exact ⟨h₁.trans h₃, h₂.trans h₄⟩

/-- A closed handle stays closed. -/
theorem run_closed : ∀ (ops : List Op) {c : Context}, c.state = .closed → (run c ops).state = .closed
  | [], _, h => h
  | op :: ops, c, h => by
    refine run_closed ops ?_
    rcases apply_state c op with h' | ⟨-, -, h', -⟩
    · rw [h', h]
    · rw [h] at h'; cases h'

/-! ## The handle invariant -/

/-- **The handle invariant**: the handle is open or closed, an open handle's queue is open, and
    the queue keeps its reads in order. -/
structure Inv (c : Context) : Prop where
  lifecycle : c.state = .opened ∨ c.state = .closed
  queueOpen : c.state = .opened → c.queue.closing = false
  reads : Queue.ReadsInv c.queue

theorem Inv.of_drives {c c' : Context} (hi : c.Inv) (hs : SameControl c c')
    (hd : DrivesQueue c c') : c'.Inv := by
  obtain ⟨qops, hne, k, hq⟩ := hd
  refine ⟨hs.state ▸ hi.lifecycle, fun h => ?_, ?_⟩
  · -- queue operations other than draining never close the queue
    rw [hq]
    show (qops.foldl Queue.apply c.queue).closing = false
    rw [Queue.foldl_closing_of_ne qops hne]
    exact hi.queueOpen (hs.state ▸ h)
  · rw [hq]
    exact (Queue.foldl_readsInv qops hi.reads).withCounters k

theorem Inv.of_refilter {c c' : Context} (hi : c.Inv) (h : Refilter c c') : c'.Inv := by
  refine ⟨h.state ▸ hi.lifecycle, fun hs => ?_, h.queue ▸ hi.reads⟩
  rw [h.queue]
  exact hi.queueOpen (h.state ▸ hs)

/-- **Every operation keeps the handle invariant.** -/
theorem Inv.apply {c : Context} (hi : c.Inv) (op : Op) : (c.apply op).Inv := by
  rcases apply_cases c op with ⟨hs, hd⟩ | h | ⟨-, -, h⟩
  · exact hi.of_drives hs hd
  · exact hi.of_refilter h
  · rw [h]
    exact ⟨.inr rfl, fun h => (nomatch h), Queue.drainAll_readsInv hi.reads⟩

theorem Inv.run {c : Context} (hi : c.Inv) : ∀ ops : List Op, (run c ops).Inv
  | [] => hi
  | op :: ops => (hi.apply op).run ops

/-- **A new handle** is open, with its queue repairing checksums unless told not to. -/
theorem new_eq_ok {layer : Layer} {priority : Int} {flags : Flags} {c : Context}
    (h : new layer priority flags = .ok c) :
    c = { layer, priority, flags, queue := ({} : Queue).setRepair !flags.noChecksum } := by
  unfold new checkPriority at h
  split at h
  · simp [bind, Except.bind] at h
  · simp only [bind, Except.bind, pure, Except.pure, Except.ok.injEq] at h
    exact h.symm

theorem new_inv {layer : Layer} {priority : Int} {flags : Flags} {c : Context}
    (h : new layer priority flags = .ok c) : c.Inv := by
  rw [new_eq_ok h]
  exact ⟨.inl rfl, fun _ => rfl, ⟨Queue.initial_readsInv.apart, Queue.initial_readsInv.ordered,
    Queue.initial_readsInv.issued, Queue.initial_readsInv.answered⟩⟩

/-! ## Refused operations -/

/-- **A refused operation changes nothing.** Settings, starts and replaces are refused before they
    change anything; a read is refused only before reaching the queue, since an open handle's queue
    never refuses one; a close only when the handle is not open. -/
theorem apply_of_failure {c : Context} (hi : c.Inv) :
    ∀ (op : Op) (e : Error), c.failure op = some e → c.apply op = c
  | .setParam p v, e, h => by
    cases hp : c.setParam p v with
    | error => simp only [apply, hp]
    | ok => simp [failure, hp] at h
  | .startFilter x rules, e, h => by
    cases hp : c.startFilter x rules with
    | error => simp only [apply, hp]
    | ok => simp [failure, hp] at h
  | .replaceFilter rules, e, h => by
    cases hp : c.replaceFilter rules with
    | error => simp only [apply, hp]
    | ok => simp [failure, hp] at h
  | .recv n, e, h => by
    rcases recv_shape c n with ⟨hr, -⟩ | ⟨hs, -, hr⟩
    · simp only [apply, hr]
    · exfalso
      simp only [failure, hr] at h
      split at h
      · next e' heq => exact Queue.recv_not_refused (hi.queueOpen hs) hi.reads n e' heq
      · exact absurd h (by simp)
  | .close, e, h => by
    by_cases hs : c.state = .opened
    · simp [failure, close_of_opened hs] at h
    · simp only [apply, close_of_not_opened hs]
  | .classify _, _, h | .dropRead _, _, h | .collect _, _, h | .serve, _, h | .advance _, _, h => by
    simp [failure] at h

/-! ## At most one start -/

/-- Whether an operation is a start. -/
def Op.isStart : Op → Bool
  | .startFilter _ _ => true
  | _ => false

/-- **How many starts succeed** along a run. -/
def starts (c : Context) : List Op → Nat
  | [] => 0
  | op :: ops => (if op.isStart && (c.failure op).isNone then 1 else 0) + starts (c.apply op) ops

/-- A handle that can start no more: started already, or no longer open. -/
def Spent (c : Context) : Prop := c.started = true ∨ c.state ≠ .opened

/-- **A spent handle stays spent**: only a close clears the started mark, and it closes. -/
theorem Spent.apply {c : Context} (h : c.Spent) (op : Op) : (c.apply op).Spent := by
  rcases apply_cases c op with ⟨hs, -⟩ | h' | ⟨-, -, h'⟩
  · unfold Spent
    rw [hs.started, hs.state]
    exact h
  · rcases h with h | h
    · exact .inl (h'.started h)
    · exact .inr (h'.state ▸ h)
  · rw [h']
    exact .inr (by simp)

/-- A spent handle refuses every start. -/
theorem Spent.no_start {c : Context} (h : c.Spent) (x : Bool) (rules : Bytes) :
    (c.failure (.startFilter x rules)).isNone = false := by
  cases hs : c.startFilter x rules with
  | error e => simp [failure, hs]
  | ok r =>
    obtain ⟨ho, hst, -⟩ := startFilter_eq_ok hs
    rcases h with h | h
    · rw [hst] at h; cases h
    · exact absurd ho h

/-- A successful start spends the handle. -/
theorem spent_of_start {c : Context} {x : Bool} {rules : Bytes}
    (h : (c.failure (.startFilter x rules)).isNone = true) : (c.apply (.startFilter x rules)).Spent := by
  cases hs : c.startFilter x rules with
  | error e => simp [failure, hs] at h
  | ok r =>
    obtain ⟨-, -, prog, -, hr⟩ := startFilter_eq_ok hs
    refine .inl ?_
    simp only [apply, hs, hr]

theorem starts_of_spent : ∀ (ops : List Op) {c : Context}, c.Spent → starts c ops = 0
  | [], _, _ => rfl
  | op :: ops, c, h => by
    rw [starts, starts_of_spent ops (h.apply op)]
    cases op with
    | startFilter x rules => simp [Op.isStart, h.no_start x rules]
    | _ => simp [Op.isStart]

/-- **At most one start succeeds**, from any handle. -/
theorem starts_le_one : ∀ (c : Context) (ops : List Op), starts c ops ≤ 1
  | _, [] => Nat.zero_le _
  | c, op :: ops => by
    rw [starts]
    by_cases h : (op.isStart && (c.failure op).isNone) = true
    · -- the start succeeded: the handle is spent from here on
      obtain ⟨x, rules, rfl⟩ : ∃ x rules, op = .startFilter x rules := by
        cases op <;> simp_all [Op.isStart]
      have h₀ := starts_of_spent ops (spent_of_start (by simpa [Op.isStart] using h))
      rw [if_pos h]
      omega
    · rw [if_neg h, Nat.zero_add]
      exact starts_le_one _ ops

/-! ## A closed handle -/

/-- **A closed handle** lets every packet pass and queues none, refuses reads with the shutdown
    error and every control operation with a state error. -/
theorem closed_refuses {c : Context} (h : c.state = .closed) :
    (∀ p, (c.classify p).2 = .permit ∧ ∃ k, (c.classify p).1.queue = c.queue.withCounters k) ∧
      (∀ n, (c.recv n).2 = .ready (.error .shuttingDown)) ∧
      (∀ prm v, c.setParam prm v = .error (.state (.notOpen .closed))) ∧
      (∀ x rules, c.startFilter x rules = .error (.state (.notOpen .closed))) ∧
      (∀ rules, c.replaceFilter rules = .error (.state (.notOpen .closed))) ∧
      c.close.2 = .error (.state (.cannotClose .closed)) := by
  have hm : ∀ p, ¬c.Matches p := fun p hm => by rw [hm.1.1] at h; cases h
  refine ⟨fun p => ?_, fun n => ?_, fun prm v => ?_, fun x rules => ?_, fun rules => ?_, ?_⟩
  · rw [classify_of_not_matches (hm p)]
    exact ⟨rfl, _, rfl⟩
  · unfold recv
    rw [h]
  · simp [setParam, ensureOpen, h, bind, Except.bind]
  · simp [startFilter, ensureOpen, h, bind, Except.bind]
  · simp [replaceFilter, ensureOpen, h, bind, Except.bind]
  · rw [close_of_not_opened (by rw [h]; simp), h]

/-! ## The active program -/

/-- **A handle and the program an observer of its run calls active**: the one compiled by the
    last successful start or replace, none before the first and none after a successful close. -/
structure Trace where
  handle : Context
  active : Option Program := none

/-- One operation, as the observer records it. -/
def Trace.step (t : Trace) (op : Op) : Trace :=
  { handle := t.handle.apply op,
    active := if (t.handle.failure op).isNone then op.installs t.active else t.active }

/-- **A run observed** from a handle. -/
def Trace.run (c : Context) (ops : List Op) : Trace := ops.foldl Trace.step { handle := c }

theorem Trace.foldl_handle : ∀ (ops : List Op) (t : Trace),
    (ops.foldl Trace.step t).handle = Context.run t.handle ops
  | [], _ => rfl
  | op :: ops, t => Trace.foldl_handle ops (t.step op)

/-- **The handle's program is the active one**, along every run that starts with none. Induction on
    the run; each step is `apply_program`. -/
theorem Trace.foldl_program : ∀ (ops : List Op) (t : Trace), t.handle.program = t.active →
    (ops.foldl Trace.step t).handle.program = (ops.foldl Trace.step t).active
  | [], _, h => h
  | op :: ops, t, h => by
    refine Trace.foldl_program ops (t.step op) ?_
    simp only [Trace.step, apply_program, h]

/-! ## Classification along a run -/

/-- **The matching condition, read out**: open, not in pass-through mode, not reinjected at a
    priority at most the handle's, and accepted by the handle's program. -/
theorem matches_iff (c : Context) (p : Capture) :
    c.Matches p ↔ c.state = .opened ∧ c.flags.passthru = false ∧
      (¬∃ i, p.injectedPriority = some i ∧ i ≤ c.priority) ∧
      ∃ prog, c.program = some prog ∧ prog.accepts p.data p.address = true := by
  unfold Matches Judges
  rw [Option.any_eq_true]
  cases p.injectedPriority <;> simp [and_assoc]

/-- **What classification does** on a handle whose queue is open while the handle is: the packet
    is absorbed exactly when matched outside sniff mode, one copy is queued exactly when matched
    outside drop mode and nothing otherwise, and the capture side is counted. -/
theorem classify_spec (c : Context) (p : Capture) (hc : c.state = .opened → c.queue.closing = false) :
    ((c.classify p).2 = .absorb ↔ c.Matches p ∧ c.flags.sniff = false) ∧
      (c.Matches p ∧ c.flags.drop = false → (c.queue.enqueue p.copy).2.accepted = true ∧
        ∃ k, (c.classify p).1.queue = (c.queue.enqueue p.copy).1.withCounters k) ∧
      (¬(c.Matches p ∧ c.flags.drop = false) → ∃ k, (c.classify p).1.queue = c.queue.withCounters k) ∧
      (c.classify p).1.queue.counters.packetsClassified = c.queue.counters.packetsClassified + 1 ∧
      (c.Matches p →
        (c.classify p).1.queue.counters.packetsMatched = c.queue.counters.packetsMatched + 1 ∧
        (c.classify p).1.queue.counters.packetsDropped =
          c.queue.counters.packetsDropped + c.flags.drop.toUInt64 ∧
        (c.classify p).1.queue.counters.packetsDiverted =
          c.queue.counters.packetsDiverted + (!c.flags.drop).toUInt64) ∧
      (¬c.Matches p →
        (c.classify p).1.queue.counters.packetsMatched = c.queue.counters.packetsMatched ∧
        (c.classify p).1.queue.counters.packetsDropped = c.queue.counters.packetsDropped ∧
        (c.classify p).1.queue.counters.packetsDiverted = c.queue.counters.packetsDiverted) := by
  refine ⟨classify_absorb_iff c p, ?_⟩
  by_cases hm : c.Matches p
  · cases hd : c.flags.drop
    · -- diverted: the copy is queued, once
      obtain ⟨hacc, k, hq, h₁, h₂, h₃, h₄⟩ := classify_of_divert hm hd (hc hm.1.1)
      rw [hq]
      exact ⟨fun _ => ⟨hacc, k, rfl⟩, fun h => absurd ⟨hm, rfl⟩ h, h₁,
        fun _ => ⟨h₂, h₃.trans (UInt64.add_zero _).symm, h₄⟩, fun h => absurd hm h⟩
    · -- dropped: nothing is queued
      rw [classify_of_drop hm hd]
      exact ⟨fun h => absurd h.2 (by simp), fun _ => ⟨_, rfl⟩, rfl,
        fun _ => ⟨rfl, rfl, (UInt64.add_zero _).symm⟩, fun h => absurd hm h⟩
  · rw [classify_of_not_matches hm]
    exact ⟨fun h => absurd h.1 hm, fun _ => ⟨_, rfl⟩, rfl, fun h => absurd h hm,
      fun _ => ⟨rfl, rfl, rfl⟩⟩

/-- **Classification follows the active program.** Along every run from a new handle, with the
    active program the one compiled by the last successful start or replace (none before the
    first, none after a successful close): a captured packet is absorbed exactly when the handle is
    open, not in pass-through mode, the packet was not reinjected at a priority at most the
    handle's, the active program accepts it, and sniffing is off. One copy of it, with its address
    and the checksum repair its capture calls for, is queued exactly when the same holds with drop
    mode off in place of sniffing, and nothing is queued otherwise. Every call is counted as
    classified, and a matched packet as matched and as dropped or diverted. -/
theorem classify_follows_active_program {layer : Layer} {priority : Int} {flags : Flags}
    {c₀ : Context} (hnew : new layer priority flags = .ok c₀) (ops : List Op) (p : Capture) :
    let t := Trace.run c₀ ops
    let c := t.handle
    let copy : Queued :=
      { data := p.data, address := p.address, fixup := .forCapture p.address.direction p.offload }
    let matched := c.state = .opened ∧ flags.passthru = false ∧
      (¬∃ i, p.injectedPriority = some i ∧ i ≤ priority) ∧
      ∃ prog, t.active = some prog ∧ prog.accepts p.data p.address = true
    let k := c.queue.counters
    let k' := (c.classify p).1.queue.counters
    ((c.classify p).2 = .absorb ↔ matched ∧ flags.sniff = false) ∧
      (matched ∧ flags.drop = false → (c.queue.enqueue copy).2.accepted = true ∧
        ∃ k₁, (c.classify p).1.queue = (c.queue.enqueue copy).1.withCounters k₁) ∧
      (¬(matched ∧ flags.drop = false) → ∃ k₁, (c.classify p).1.queue = c.queue.withCounters k₁) ∧
      k'.packetsClassified = k.packetsClassified + 1 ∧
      (matched → k'.packetsMatched = k.packetsMatched + 1 ∧
        k'.packetsDropped = k.packetsDropped + flags.drop.toUInt64 ∧
        k'.packetsDiverted = k.packetsDiverted + (!flags.drop).toUInt64) ∧
      (¬matched → k'.packetsMatched = k.packetsMatched ∧ k'.packetsDropped = k.packetsDropped ∧
        k'.packetsDiverted = k.packetsDiverted) := by
  intro t c copy matched k k'
  have hc : c = run c₀ ops := Trace.foldl_handle ops _
  have hi : c.Inv := hc ▸ (new_inv hnew).run ops
  -- the settings are those the handle was opened with, and the program is the active one
  have hset : c.priority = priority ∧ c.flags = flags := by
    rw [hc, (run_setting ops c₀).1, (run_setting ops c₀).2, new_eq_ok hnew]
    exact ⟨rfl, rfl⟩
  have hprog : c.program = t.active := Trace.foldl_program ops _ (by rw [new_eq_ok hnew])
  have hm : c.Matches p = matched := propext (by rw [matches_iff, hset.1, hset.2, hprog])
  have spec := classify_spec c p hi.queueOpen
  rw [hm, hset.2] at spec
  exact spec

/-- A network-layer handle, observed along one read. -/
theorem classify_follows_active_program_network :
    let ops : List Op := [.recv 1500]
    let p : Capture := { data := [0x45], address := { direction := .outbound } }
    ∃ c₀, new .network 0 {} = .ok c₀ ∧
      let flags : Flags := {}
      let priority : Int := 0
      let t := Trace.run c₀ ops
      let c := t.handle
      let copy : Queued :=
        { data := p.data, address := p.address, fixup := .forCapture p.address.direction p.offload }
      let matched := c.state = .opened ∧ flags.passthru = false ∧
        (¬∃ i, p.injectedPriority = some i ∧ i ≤ priority) ∧
        ∃ prog, t.active = some prog ∧ prog.accepts p.data p.address = true
      let k := c.queue.counters
      let k' := (c.classify p).1.queue.counters
      ((c.classify p).2 = .absorb ↔ matched ∧ flags.sniff = false) ∧
        (matched ∧ flags.drop = false → (c.queue.enqueue copy).2.accepted = true ∧
          ∃ k₁, (c.classify p).1.queue = (c.queue.enqueue copy).1.withCounters k₁) ∧
        (¬(matched ∧ flags.drop = false) → ∃ k₁, (c.classify p).1.queue = c.queue.withCounters k₁) ∧
        k'.packetsClassified = k.packetsClassified + 1 ∧
        (matched → k'.packetsMatched = k.packetsMatched + 1 ∧
          k'.packetsDropped = k.packetsDropped + flags.drop.toUInt64 ∧
          k'.packetsDiverted = k.packetsDiverted + (!flags.drop).toUInt64) ∧
        (¬matched → k'.packetsMatched = k.packetsMatched ∧ k'.packetsDropped = k.packetsDropped ∧
          k'.packetsDiverted = k.packetsDiverted) :=
  ⟨_, rfl, classify_follows_active_program rfl _ _⟩

/-! ## The lifecycle -/

/-- **The lifecycle moves forward and refused operations change nothing.** Along every run from a
    new handle: the handle is open or closed, and an operation keeps the state unless it is a
    successful close of an open handle, which closes it (the closing state lives only inside
    `close`); a refused operation leaves the handle exactly as it was; at most one start succeeds;
    and after a successful close, every read waiting at the close was answered with the shutdown
    error, and from then on the handle lets every packet pass and queues none, refuses reads with
    the shutdown error and every start, replace, setting and close with a state error. -/
theorem lifecycle_forward_and_atomic {layer : Layer} {priority : Int} {flags : Flags}
    {c₀ : Context} (hnew : new layer priority flags = .ok c₀) :
    c₀.state = .opened ∧
      (∀ ops op,
        let c := run c₀ ops
        (c.state = .opened ∨ c.state = .closed) ∧
          ((c.apply op).state = c.state ∨
            (op = .close ∧ c.failure .close = none ∧ c.state = .opened ∧
              (c.apply op).state = .closed))) ∧
      (∀ ops op e, (run c₀ ops).failure op = some e → (run c₀ ops).apply op = run c₀ ops) ∧
      (∀ ops, starts c₀ ops ≤ 1) ∧
      ∀ ops₁ ops₂, (run c₀ ops₁).failure .close = none →
        let c := run c₀ ops₁
        let c' := run c₀ (ops₁ ++ .close :: ops₂)
        c.close.1.queue.replies =
            c.queue.replies ++ c.queue.liveRequests.map (fun r => (r.reader, .error .shuttingDown)) ∧
          c.close.1.queue.requests = [] ∧ c'.state = .closed ∧
          (∀ p, (c'.classify p).2 = .permit ∧
            ∃ k, (c'.classify p).1.queue = c'.queue.withCounters k) ∧
          (∀ n, (c'.recv n).2 = .ready (.error .shuttingDown)) ∧
          (∀ prm v, c'.setParam prm v = .error (.state (.notOpen .closed))) ∧
          (∀ x rules, c'.startFilter x rules = .error (.state (.notOpen .closed))) ∧
          (∀ rules, c'.replaceFilter rules = .error (.state (.notOpen .closed))) ∧
          c'.close.2 = .error (.state (.cannotClose .closed)) := by
  have hi := new_inv hnew
  refine ⟨by rw [new_eq_ok hnew], fun ops op => ⟨(hi.run ops).lifecycle, apply_state _ op⟩,
    fun ops op e h => apply_of_failure (hi.run ops) op e h, fun ops => starts_le_one c₀ ops, ?_⟩
  intro ops₁ ops₂ hclose c c'
  -- the close succeeded, so the handle was open
  have hs : c.state = .opened := by
    rcases (hi.run ops₁).lifecycle with h | h
    · exact h
    · have hn : (run c₀ ops₁).state ≠ .opened := by rw [h]; simp
      simp [failure, close_of_not_opened hn] at hclose
  have hrun : c' = run (c.apply .close) ops₂ := by
    simp only [c', c, run, List.foldl_append, List.foldl_cons]
  have hc' : c'.state = .closed := by
    rw [hrun]
    exact run_closed ops₂ (by simp [apply, close_of_opened hs])
  rw [close_of_opened hs]
  exact ⟨(Queue.drainAll_answers c.queue).1, (Queue.drainAll_answers c.queue).2.1, hc',
    closed_refuses hc'⟩

/-- A network-layer handle at priority zero. -/
theorem lifecycle_forward_and_atomic_network :
    ∃ c₀, new .network 0 {} = .ok c₀ ∧
      c₀.state = .opened ∧
        (∀ ops op,
          let c := run c₀ ops
          (c.state = .opened ∨ c.state = .closed) ∧
            ((c.apply op).state = c.state ∨
              (op = .close ∧ c.failure .close = none ∧ c.state = .opened ∧
                (c.apply op).state = .closed))) ∧
        (∀ ops op e, (run c₀ ops).failure op = some e → (run c₀ ops).apply op = run c₀ ops) ∧
        (∀ ops, starts c₀ ops ≤ 1) ∧
        ∀ ops₁ ops₂, (run c₀ ops₁).failure .close = none →
          let c := run c₀ ops₁
          let c' := run c₀ (ops₁ ++ .close :: ops₂)
          c.close.1.queue.replies =
              c.queue.replies ++ c.queue.liveRequests.map (fun r => (r.reader, .error .shuttingDown)) ∧
            c.close.1.queue.requests = [] ∧ c'.state = .closed ∧
            (∀ p, (c'.classify p).2 = .permit ∧
              ∃ k, (c'.classify p).1.queue = c'.queue.withCounters k) ∧
            (∀ n, (c'.recv n).2 = .ready (.error .shuttingDown)) ∧
            (∀ prm v, c'.setParam prm v = .error (.state (.notOpen .closed))) ∧
            (∀ x rules, c'.startFilter x rules = .error (.state (.notOpen .closed))) ∧
            (∀ rules, c'.replaceFilter rules = .error (.state (.notOpen .closed))) ∧
            c'.close.2 = .error (.state (.cannotClose .closed)) :=
  ⟨_, rfl, @lifecycle_forward_and_atomic .network 0 {} _ rfl⟩

end Context

end Diversion
