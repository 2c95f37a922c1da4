import Mathlib.Data.Nat.Bits
import Mathlib.Tactic.Set
import Diversion.Proofs.Queue

/-!
# `Proofs.Aging` — a packet is aged out by the second sweep after it arrives

A sweep evicts the packets at the head stamped with a generation other than the current one, and
then flips the generation (`ageSweep_spec`). That this gives every packet a life of one to two
sweep periods rests on an order of the stamps that no single operation states: the queue is always
a block of packets stamped with the previous generation followed by a block stamped with the
current one.

An observer of a run (`Aging`) counts the sweeps and notes, for each waiting packet, how many
sweeps had run when it arrived. Its invariant `Aging.Inv` says that a packet's stamp is the parity
of that count, that the counts rise along the queue, and that every waiting packet arrived at most
one sweep ago. Arrivals at the tail and removals at the head keep it (`apply_packets`,
`Aging.keep_inv`), and so does a sweep, which takes exactly the packets that arrived before the
last one (`Aging.sweep_inv`). The main statement `Aging.run_evicts_on_second_sweep` reads the
lifetime off the invariant: the next sweep evicts a waiting packet exactly when one sweep has
already run since it arrived.
-/

namespace Diversion

namespace Queue

/-! ## Lists cut where a predicate first fails -/

theorem drop_length_takeWhile {α : Type} (p : α → Bool) :
    ∀ l : List α, l.drop (l.takeWhile p).length = l.dropWhile p
  | [] => rfl
  | a :: l => by
    by_cases h : p a
    · simp [h, drop_length_takeWhile p l]
    · simp [h]

theorem takeWhile_congr_mem {α : Type} {p p' : α → Bool} :
    ∀ {l : List α}, (∀ x ∈ l, p x = p' x) → l.takeWhile p = l.takeWhile p'
  | [], _ => rfl
  | a :: l, h => by
    have hl : l.takeWhile p = l.takeWhile p' := takeWhile_congr_mem fun x hx => h x (by simp [hx])
    simp only [List.takeWhile_cons, h a (by simp), hl]

/-- In a list that rises, an entry lies in the run of entries below `s` at its head exactly when it
    is below `s`. -/
theorem lt_length_takeWhile_iff {s : Nat} :
    ∀ {l : List Nat}, l.Pairwise (· ≤ ·) → ∀ {i : Nat} (hi : i < l.length),
      i < (l.takeWhile (· < s)).length ↔ l[i] < s
  | [], _, _, hi => absurd hi (Nat.not_lt_zero _)
  | x :: xs, hs, i, hi => by
    obtain ⟨hx, hxs⟩ := List.pairwise_cons.mp hs
    by_cases hlt : x < s
    · rw [List.takeWhile_cons_of_pos (by simpa using hlt), List.length_cons]
      cases i with
      | zero => simpa using hlt
      | succ j =>
        have := lt_length_takeWhile_iff (s := s) hxs (i := j) (by simpa using hi)
        simp only [List.getElem_cons_succ]
        omega
    · rw [List.takeWhile_cons_of_neg (by simpa using hlt)]
      -- every entry is at least the head, which is not below `s`
      have hge : s ≤ (x :: xs)[i] := by
        cases i with
        | zero => simpa using hlt
        | succ j => exact Nat.le_trans (Nat.not_lt.mp hlt) (hx _ (List.getElem_mem _))
      simp only [List.length_nil, Nat.not_lt_zero, false_iff, Nat.not_lt]
      exact hge

/-- In a list that rises, what is left after the entries below `s` is at least `s`. -/
theorem le_of_mem_dropWhile {s b : Nat} :
    ∀ {l : List Nat}, l.Pairwise (· ≤ ·) → b ∈ l.dropWhile (· < s) → s ≤ b
  | [], _, hb => by simp at hb
  | x :: xs, hs, hb => by
    obtain ⟨hx, hxs⟩ := List.pairwise_cons.mp hs
    by_cases hlt : x < s
    · rw [List.dropWhile_cons_of_pos (by simpa using hlt)] at hb
      exact le_of_mem_dropWhile hxs hb
    · rw [List.dropWhile_cons_of_neg (by simpa using hlt)] at hb
      rcases List.mem_cons.mp hb with rfl | hb
      · exact Nat.not_lt.mp hlt
      · exact Nat.le_trans (Nat.not_lt.mp hlt) (hx b hb)

/-! ## The sweep -/

theorem dropStale_eq (g : Bool) : ∀ ps : List Queued,
    dropStale g ps = (ps.dropWhile (·.generation != g), (ps.takeWhile (·.generation != g)).length)
  | [] => rfl
  | p :: rest => by
    by_cases hs : (p.generation != g) = true
    · simp [dropStale, hs, dropStale_eq g rest]
    · simp [dropStale, hs]

/-- **An aging sweep** takes the longest run of head packets stamped with the other generation,
    returns how many and adds them to the aged evictions, and flips the generation once. -/
theorem ageSweep_spec (q : Queue) :
    let n := (q.packets.takeWhile (·.generation != q.generation)).length
    q.ageSweep.2 = n ∧ q.ageSweep.1.packets = q.packets.drop n ∧
      q.ageSweep.1.counters.agedEvictions = q.counters.agedEvictions + UInt64.ofNat n ∧
      q.ageSweep.1.generation = !q.generation := by
  dsimp only
  unfold ageSweep
  rw [dropStale_eq, ← drop_length_takeWhile]
  dsimp only
  split
  · next h0 => exact ⟨h0.symm, rfl, by rw [h0]; simp, rfl⟩
  · exact ⟨rfl, rfl, rfl, rfl⟩

/-! ## What the other operations do to the stamps -/

/-- The number of sweeps an operation makes. -/
def Op.sweeps : Op → Nat
  | .ageSweep => 1
  | _ => 0

theorem Op.sweeps_of_ne {op : Op} (h : op ≠ .ageSweep) : op.sweeps = 0 := by
  cases op <;> first | rfl | exact absurd rfl h

/-- **Only a sweep flips the generation.** -/
theorem apply_generation (q : Queue) : ∀ op : Op, op ≠ .ageSweep →
    (q.apply op).generation = q.generation
  | .enqueue p, _ => (enqueue_sameSetup q p).generation
  | .dequeue, _ => (dequeue_sameSetup q).generation
  | .ageSweep, h => absurd rfl h
  | .setMaxLength v, _ => by
    simp only [apply]
    split
    · next q' hq => obtain ⟨-, rfl⟩ := setMaxLength_eq_ok hq; rfl
    · rfl
  | .setSweepInterval v, _ => by
    simp only [apply]
    split
    · next q' hq => rw [setSweepInterval_eq_ok hq]
    · rfl
  | .setRepair _, _ => rfl
  | .drainAll, _ => rfl
  | .recv n, _ => (recv_sameSetup q n).generation
  | .abandon r, _ => rfl
  | .serviceReads, _ => (serviceReads_sameSetup q).generation
  | .takeReply r, _ => (takeReply_sameSetup q r).generation

/-- **The packets an operation takes in** at the tail, stamped: one for an accepted `enqueue`,
    none otherwise. -/
def arrivals (q : Queue) : Op → List Queued
  | .enqueue p => if (q.enqueue p).2.accepted then [{ p with generation := q.generation }] else []
  | _ => []

theorem generation_of_mem_arrivals {q : Queue} {op : Op} {p : Queued} (hp : p ∈ q.arrivals op) :
    p.generation = q.generation := by
  cases op with
  | enqueue x =>
    simp only [arrivals] at hp
    split at hp
    · simp only [List.mem_singleton] at hp
      rw [hp]
    · simp at hp
  | _ => simp [arrivals] at hp

theorem packets_of_takesHead {q q' : Queue} {m : Nat} (h : TakesHead q q' m) :
    q'.packets = (q.packets ++ []).drop m := by
  rw [List.append_nil]
  exact h.packets

/-- **Every operation takes its arrivals in at the tail and removes packets at the head only.** -/
theorem apply_packets (q : Queue) :
    ∀ op, ∃ m, (q.apply op).packets = (q.packets ++ q.arrivals op).drop m
  | .enqueue p => by
    obtain ⟨m, hm⟩ := enqueue_takes q p
    exact ⟨m, hm.packets⟩
  | .dequeue => by
    obtain ⟨hp, -⟩ := dequeue_spec q
    refine ⟨q.dequeue.2.toList.length, ?_⟩
    simp only [apply, arrivals, List.append_nil]
    conv => rhs; rw [hp]
    rw [List.drop_left]
  | .ageSweep => ⟨_, packets_of_takesHead (ageSweep_takes q)⟩
  | .setMaxLength v => by
    simp only [apply]
    split
    · next q' hq => exact ⟨_, packets_of_takesHead (setMaxLength_takes hq)⟩
    · exact ⟨0, by simp [arrivals]⟩
  | .setSweepInterval v => by
    simp only [apply]
    split
    · next q' hq => exact ⟨_, packets_of_takesHead (setSweepInterval_takes hq)⟩
    · exact ⟨0, by simp [arrivals]⟩
  | .setRepair on => ⟨_, packets_of_takesHead (setRepair_takes q on)⟩
  | .drainAll => ⟨q.packets.length, by simp [apply, arrivals, (drainAll_spec q).1]⟩
  | .recv n => by
    obtain ⟨m, hm⟩ := recv_takes q n
    exact ⟨m, packets_of_takesHead hm⟩
  | .abandon r => ⟨_, packets_of_takesHead (abandon_takes q r)⟩
  | .serviceReads => ⟨_, packets_of_takesHead (serviceReads_takes q)⟩
  | .takeReply r => ⟨_, packets_of_takesHead (takeReply_takes q r)⟩

/-! ## The observer -/

/-- **A run as an observer of aging sees it**: the queue, the number of sweeps so far, and for
    each waiting packet, in queue order, the number of sweeps that had run when it arrived. -/
structure Aging where
  queue : Queue := {}
  sweeps : Nat := 0
  births : List Nat := []

namespace Aging

/-- **One operation as the observer records it.** An arrival is noted with the current count;
    the packets missing at the head have left, and their notes go with them. -/
def step (a : Aging) (op : Op) : Aging :=
  let q := a.queue.apply op
  let line := a.births ++ (a.queue.arrivals op).map fun _ => a.sweeps
  { queue := q, sweeps := a.sweeps + op.sweeps,
    births := line.drop (line.length - q.packets.length) }

/-- **A run from a new queue.** -/
def run (ops : List Op) : Aging := ops.foldl step {}

/-- **The aging invariant.** -/
structure Inv (a : Aging) : Prop where
  /-- A packet's stamp is the parity of the number of sweeps before it arrived. -/
  stamps : a.queue.packets.map Queued.generation = a.births.map Nat.bodd
  /-- The generation is the parity of the number of sweeps. -/
  generation : a.queue.generation = a.sweeps.bodd
  /-- Packets wait in the order they arrived. -/
  sorted : a.births.Pairwise (· ≤ ·)
  /-- Every waiting packet arrived after the sweep before last. -/
  recent : ∀ b ∈ a.births, b ≤ a.sweeps ∧ a.sweeps ≤ b + 1

theorem Inv.length {a : Aging} (hi : a.Inv) : a.births.length = a.queue.packets.length := by
  simpa using (congrArg List.length hi.stamps).symm

theorem initial_inv : ({} : Aging).Inv :=
  ⟨rfl, rfl, List.Pairwise.nil, by simp⟩

/-- Cutting `m` from the head of a line cuts the notes of the same packets. -/
theorem drop_sub_length {l : List Nat} {ps ps' : List Queued} {m : Nat}
    (hl : l.length = ps.length) (hm : ps' = ps.drop m) :
    l.drop (l.length - ps'.length) = l.drop m := by
  rw [hm, List.length_drop, hl]
  by_cases h : m ≤ ps.length
  · rw [Nat.sub_sub_self h]
  · rw [List.drop_eq_nil_of_le (by omega), List.drop_eq_nil_of_le (by omega)]

/-- **An operation other than a sweep keeps the invariant**: the arrivals carry the current
    generation and the current count, and the head leaves with its notes. -/
theorem keep_inv {a : Aging} (hi : a.Inv) {op : Op} (hs : op ≠ .ageSweep) : (a.step op).Inv := by
  obtain ⟨m, hm⟩ := apply_packets a.queue op
  have hg := apply_generation a.queue op hs
  set arr := a.queue.arrivals op
  have hstamp : arr.map Queued.generation = (arr.map fun _ => a.sweeps).map Nat.bodd := by
    rw [List.map_map]
    exact List.map_congr_left fun p hp => (generation_of_mem_arrivals hp).trans hi.generation
  have hlen : (a.births ++ arr.map fun _ => a.sweeps).length = (a.queue.packets ++ arr).length := by
    simp [hi.length]
  have hbirths : (a.step op).births = (a.births ++ arr.map fun _ => a.sweeps).drop m :=
    drop_sub_length hlen hm
  have hmem : ∀ b ∈ (a.step op).births, b ∈ a.births ∨ b = a.sweeps := by
    intro b hb
    rw [hbirths] at hb
    rcases List.mem_append.mp (List.mem_of_mem_drop hb) with hb | hb
    · exact .inl hb
    · obtain ⟨-, -, rfl⟩ := List.mem_map.mp hb
      exact .inr rfl
  constructor
  · rw [hbirths, show (a.step op).queue = a.queue.apply op from rfl, hm, List.map_drop,
      List.map_drop, List.map_append, List.map_append, hi.stamps, hstamp]
  · show (a.queue.apply op).generation = (a.sweeps + op.sweeps).bodd
    rw [hg, Op.sweeps_of_ne hs, Nat.add_zero, hi.generation]
  · rw [hbirths]
    refine List.Pairwise.sublist (List.drop_sublist _ _) (List.pairwise_append.mpr ⟨hi.sorted, ?_, ?_⟩)
    · rw [List.pairwise_map]
      exact List.pairwise_of_forall fun _ _ => Nat.le_refl _
    · intro b hb c hc
      obtain ⟨-, -, rfl⟩ := List.mem_map.mp hc
      exact (hi.recent b hb).1
  · intro b hb
    show b ≤ a.sweeps + op.sweeps ∧ a.sweeps + op.sweeps ≤ b + 1
    rw [Op.sweeps_of_ne hs, Nat.add_zero]
    rcases hmem b hb with hb | rfl
    · exact hi.recent b hb
    · omega

/-- **Under the invariant, the stale packets at the head are those that arrived before the last
    sweep.** -/
theorem Inv.stale_count {a : Aging} (hi : a.Inv) :
    (a.queue.packets.takeWhile (·.generation != a.queue.generation)).length =
      (a.births.takeWhile (· < a.sweeps)).length := by
  have hmap : (a.queue.packets.takeWhile (·.generation != a.queue.generation)).length =
      ((a.queue.packets.map Queued.generation).takeWhile (· != a.queue.generation)).length := by
    rw [List.takeWhile_map, List.length_map]
    rfl
  rw [hmap, hi.stamps, List.takeWhile_map, List.length_map, hi.generation]
  congr 1
  apply takeWhile_congr_mem
  intro b hb
  obtain ⟨hle, hge⟩ := hi.recent b hb
  -- a packet is stale exactly when a sweep ran after it arrived, that is one sweep
  by_cases h : b = a.sweeps
  · subst h
    simp
  · have hs : a.sweeps = b + 1 := by omega
    simp [hs]

/-- **A sweep keeps the invariant**: it takes the packets that arrived before the last sweep, and
    every packet left arrived after it. -/
theorem sweep_inv {a : Aging} (hi : a.Inv) : (a.step .ageSweep).Inv := by
  obtain ⟨hn, hp, -, hg⟩ := ageSweep_spec a.queue
  have hcount := hi.stale_count
  set n := (a.births.takeWhile (· < a.sweeps)).length
  have hq : (a.step .ageSweep).queue.packets = a.queue.packets.drop n := by
    rw [← hcount]
    exact hp
  have hbirths : (a.step .ageSweep).births = a.births.dropWhile (· < a.sweeps) := by
    show (a.births ++ []).drop ((a.births ++ []).length - (a.step .ageSweep).queue.packets.length) = _
    rw [List.append_nil, drop_sub_length hi.length hq, drop_length_takeWhile]
  have hsweeps : (a.step .ageSweep).sweeps = a.sweeps + 1 := rfl
  have hleft : ∀ b ∈ (a.step .ageSweep).births, b = a.sweeps := by
    intro b hb
    rw [hbirths] at hb
    have := le_of_mem_dropWhile hi.sorted hb
    have := (hi.recent b ((List.dropWhile_sublist _).subset hb)).1
    omega
  constructor
  · rw [hq, hbirths, ← drop_length_takeWhile, List.map_drop, List.map_drop, hi.stamps]
  · rw [hsweeps, show (a.step .ageSweep).queue.generation = !a.queue.generation from hg,
      hi.generation, Nat.bodd_add]
    simp
  · rw [hbirths]
    exact hi.sorted.sublist (List.dropWhile_sublist _)
  · intro b hb
    rw [hleft b hb, hsweeps]
    omega

theorem step_inv {a : Aging} (hi : a.Inv) (op : Op) : (a.step op).Inv := by
  by_cases hs : op = .ageSweep
  · subst hs
    exact sweep_inv hi
  · exact keep_inv hi hs

theorem foldl_inv : ∀ (ops : List Op) {a : Aging}, a.Inv → (ops.foldl step a).Inv
  | [], _, hi => hi
  | op :: ops, _, hi => foldl_inv ops (step_inv hi op)

theorem run_inv (ops : List Op) : (run ops).Inv := foldl_inv ops initial_inv

/-- **The queue is a stale block followed by a fresh block**: the packets that arrived before
    the last sweep carry the other generation, those after it the current one. -/
theorem Inv.blocks {a : Aging} (hi : a.Inv) : ∃ k l, a.queue.packets.map Queued.generation =
    List.replicate k (!a.queue.generation) ++ List.replicate l a.queue.generation := by
  set s := a.sweeps
  have hsplit : a.births.map Nat.bodd =
      (a.births.takeWhile (· < s)).map Nat.bodd ++ (a.births.dropWhile (· < s)).map Nat.bodd := by
    rw [← List.map_append, List.takeWhile_append_dropWhile]
  -- those that arrived before the last sweep arrived right before it
  have hstale : (a.births.takeWhile (· < s)).map Nat.bodd =
      List.replicate (a.births.takeWhile (· < s)).length (!s.bodd) := by
    rw [List.eq_replicate_iff]
    refine ⟨List.length_map _, fun x hx => ?_⟩
    obtain ⟨b, hb, rfl⟩ := List.mem_map.mp hx
    have hlt : b < s := by simpa using List.all_eq_true.mp List.all_takeWhile b hb
    have hge := (hi.recent b ((List.takeWhile_sublist _).subset hb)).2
    rw [show s = b + 1 by omega, Nat.bodd_add]
    simp
  -- the others arrived after it
  have hfresh : (a.births.dropWhile (· < s)).map Nat.bodd =
      List.replicate (a.births.dropWhile (· < s)).length s.bodd := by
    rw [List.eq_replicate_iff]
    refine ⟨List.length_map _, fun x hx => ?_⟩
    obtain ⟨b, hb, rfl⟩ := List.mem_map.mp hx
    have := le_of_mem_dropWhile hi.sorted hb
    have := (hi.recent b ((List.dropWhile_sublist _).subset hb)).1
    rw [show b = s by omega]
  refine ⟨(a.births.takeWhile (· < s)).length, (a.births.dropWhile (· < s)).length, ?_⟩
  rw [hi.stamps, hsplit, hstale, hfresh, hi.generation]

/-- **Aging evicts a packet at the second sweep after it arrives, and not before.** Every sweep
    takes the longest run of head packets stamped with the other generation, returns and counts
    how many, and flips the generation. Along every run from a new queue, the queue is a block of
    packets stamped with the other generation followed by a block stamped with the current one;
    every waiting packet arrived after the sweep before last; and the next sweep evicts a waiting
    packet exactly when a sweep has already run since it arrived — so the first sweep after its
    arrival never takes it, and the second always does. -/
theorem run_evicts_on_second_sweep :
    (∀ q : Queue,
      let n := (q.packets.takeWhile (·.generation != q.generation)).length
      q.ageSweep.2 = n ∧ q.ageSweep.1.packets = q.packets.drop n ∧
        q.ageSweep.1.counters.agedEvictions = q.counters.agedEvictions + UInt64.ofNat n ∧
        q.ageSweep.1.generation = !q.generation) ∧
    ∀ ops : List Op,
      let a := run ops
      (∃ k l, a.queue.packets.map Queued.generation =
          List.replicate k (!a.queue.generation) ++ List.replicate l a.queue.generation) ∧
      a.births.length = a.queue.packets.length ∧
      ∀ i (hi : i < a.births.length), a.births[i] ≤ a.sweeps ∧ a.sweeps ≤ a.births[i] + 1 ∧
        (i < a.queue.ageSweep.2 ↔ a.births[i] < a.sweeps) := by
  refine ⟨ageSweep_spec, fun ops => ?_⟩
  have hi := run_inv ops
  refine ⟨hi.blocks, hi.length, fun i hlt => ?_⟩
  have hr := hi.recent _ (List.getElem_mem hlt)
  refine ⟨hr.1, hr.2, ?_⟩
  rw [(ageSweep_spec (run ops).queue).1, hi.stale_count]
  exact lt_length_takeWhile_iff hi.sorted hlt

end Aging

end Queue

end Diversion
