import Mathlib.Tactic.Set
import Mathlib.Tactic.SplitIfs
import Diversion.Filter.Reach
import Diversion.Hook
import Diversion.Proofs.Eval

/-!
# `Proofs.Reach` — the analysis never misses a packet the filter accepts

The analysis and the interpreter are two independent algorithms: `reachable` fills a table from
the last node back, letting every node not on the queried field go either way, and `walk`
follows one path from node 0. Soundness relates them in two steps.

* **The table is a fixpoint.** On a forward program, entry `i` of the finished table is the
  answer of node `i` computed from the finished table itself (`Reach.table_fixpoint`): the
  entries node `i` reads lie after it, and they are final when it is filled (`Reach.cell_congr`).
* **The walk stays inside the table.** When the queried field has the pinned value in the packet,
  every node the walk passes takes a branch the table allows, so a walk that accepts from node
  `i` makes entry `i` true (`reachable_of_walk`, by induction on the fuel).

The fixpoint also pins the table down: on a forward program `reachable` is the recursive answer
`Reach.answer`, which follows the targets from a node and terminates because they point forward
(`reachable_eq_answer`, by induction along that recursion; `reachable_eq_recursive` for compiled
programs).

`analyze` then sees every accepted packet's direction and IP version (`analyze_of_evaluate`),
and the hook plan attaches the hook that packet passes (`accepted_packet_is_hooked`). The
converse fails by design: the analysis treats unrelated fields as free, so it may report a
direction no packet can take.
-/

namespace Diversion

namespace Reach

/-! ## The backward pass as a fold -/

/-- **What node `n` answers** given the answers `reach` of the nodes after it. -/
def cell (proto : Protocol) (f : Field) (v : Nat) (reach : Array Bool) (n : Node) : Bool :=
  if n.protocol = proto ∧ n.field = f then
    resolve reach (n.next (n.test.compare (Operand.ofWord v) n.arg))
  else resolve reach n.onMatch || resolve reach n.onMismatch

/-- One step of the pass: node `x.1`, at index `x.2`, writes its answer. -/
def fill (proto : Protocol) (f : Field) (v : Nat) (x : Node × Nat) (reach : Array Bool) :
    Array Bool :=
  reach.setIfInBounds x.2 (cell proto f v reach x.1)

/-- **The table after the pass has filled the nodes from `k` on**; entries before `k` are still
    `false`. -/
def suffix (p : Program) (proto : Protocol) (f : Field) (v : Nat) (k : Nat) : Array Bool :=
  ((p.nodes.drop k).zipIdx k).foldr (fill proto f v) (Array.replicate p.length false)

theorem table_eq_suffix (p : Program) (proto : Protocol) (f : Field) (v : Nat) :
    table p proto f v = suffix p proto f v 0 := rfl

/-- Filling from `k` is filling from `k + 1`, then writing node `k`. -/
theorem suffix_succ (p : Program) (proto : Protocol) (f : Field) (v : Nat) {k : Nat}
    (hk : k < p.nodes.length) :
    suffix p proto f v k =
      (suffix p proto f v (k + 1)).setIfInBounds k
        (cell proto f v (suffix p proto f v (k + 1)) p.nodes[k]) := by
  simp only [suffix, List.drop_eq_getElem_cons hk, List.zipIdx_cons, List.foldr_cons, fill]

theorem size_foldr_fill (proto : Protocol) (f : Field) (v : Nat) (init : Array Bool) :
    ∀ l : List (Node × Nat), (l.foldr (fill proto f v) init).size = init.size
  | [] => rfl
  | x :: l => by simp [fill, size_foldr_fill proto f v init l]

theorem suffix_size (p : Program) (proto : Protocol) (f : Field) (v k : Nat) :
    (suffix p proto f v k).size = p.nodes.length := by
  simp [suffix, size_foldr_fill, Program.length]

/-! ## A node's answer depends only on the entries after it -/

theorem resolve_congr {R R' : Array Bool} {len i : Nat} {t : Target}
    (ht : Program.ForwardTarget len i t) (h : ∀ m, i < m → R[m]? = R'[m]?) :
    resolve R t = resolve R' t := by
  cases t with
  | accept => rfl
  | reject => rfl
  | node j => simp only [resolve, Array.getD_eq_getD_getElem?, h j ht.1]

theorem cell_congr {R R' : Array Bool} {len i : Nat} {n : Node} (proto : Protocol) (f : Field)
    (v : Nat) (hm : Program.ForwardTarget len i n.onMatch)
    (hmm : Program.ForwardTarget len i n.onMismatch) (h : ∀ m, i < m → R[m]? = R'[m]?) :
    cell proto f v R n = cell proto f v R' n := by
  have hnext : ∀ b, resolve R (n.next b) = resolve R' (n.next b) := by
    intro b
    cases b
    · exact resolve_congr hmm h
    · exact resolve_congr hm h
  simp only [cell, hnext, resolve_congr hm h, resolve_congr hmm h]

/-- **Every filled entry is its node's answer over the table as it stands.** Induction on the
    number of nodes left to fill: writing node `k` changes no entry a later node reads, and node
    `k` reads only later entries. -/
theorem suffix_fixpoint {p : Program} (hfw : p.Forward) (proto : Protocol) (f : Field) (v : Nat) :
    ∀ d k, p.nodes.length - k = d → ∀ j, k ≤ j → (hj : j < p.nodes.length) →
      (suffix p proto f v k)[j]? = some (cell proto f v (suffix p proto f v k) p.nodes[j]) := by
  intro d
  induction d with
  | zero => intro k hd j hkj hj; omega
  | succ d ih =>
    intro k hd j hkj hj
    have hk : k < p.nodes.length := by omega
    set S := suffix p proto f v (k + 1) with hS
    have hsize : S.size = p.nodes.length := suffix_size p proto f v (k + 1)
    rw [suffix_succ p proto f v hk, ← hS]
    have hagree : ∀ m, k < m →
        S[m]? = (S.setIfInBounds k (cell proto f v S p.nodes[k]))[m]? := by
      intro m hm
      rw [Array.getElem?_setIfInBounds_ne (by omega)]
    rcases Nat.eq_or_lt_of_le hkj with rfl | hlt
    · obtain ⟨hm, hmm⟩ := hfw k hk
      rw [Array.getElem?_setIfInBounds_self_of_lt (by omega)]
      exact congrArg some (cell_congr proto f v hm hmm hagree)
    · obtain ⟨hm, hmm⟩ := hfw j hj
      rw [Array.getElem?_setIfInBounds_ne (by omega), ih (k + 1) (by omega) j hlt hj,
        cell_congr proto f v hm hmm (fun m hm' => hagree m (by omega))]

/-- **The finished table is a fixpoint of the node answers.** -/
theorem table_fixpoint {p : Program} (hfw : p.Forward) (proto : Protocol) (f : Field) (v : Nat)
    {i : Nat} (hi : i < p.nodes.length) :
    (table p proto f v)[i]? = some (cell proto f v (table p proto f v) p.nodes[i]) :=
  suffix_fixpoint hfw proto f v _ 0 rfl i (Nat.zero_le i) hi

/-- A node whose field holds the pinned value takes the branch the table follows; any other node
    takes one of the two branches the table joins. -/
theorem cell_of_next {n : Node} {v : PacketView} {a : Address} {f : Field} {val : Nat}
    {R : Array Bool} (proto : Protocol) (hpin : extract f v a = some (.ofWord val))
    (h : resolve R (n.next (n.satisfied v a)) = true) : cell proto f val R n = true := by
  unfold cell
  split
  · next hpf =>
    have hs : n.satisfied v a = n.test.compare (.ofWord val) n.arg := by
      simp [Node.satisfied, hpf.2, hpin]
    rwa [← hs]
  · cases hs : n.satisfied v a <;> simp_all [Node.next]

end Reach

/-! ## The table is the recursive answer -/

/-- The nodes a walk from `t` can still pass in a program of `len` nodes. -/
def Target.rank (len : Nat) : Target → Nat
  | .node i => len - i
  | _ => 0

/-- A forward target of node `i` has fewer nodes left to pass than node `i`. -/
theorem Program.ForwardTarget.rank_lt {len i : Nat} {t : Target}
    (ht : Program.ForwardTarget len i t) (hi : i < len) : t.rank len < len - i := by
  cases t with
  | node j => simp only [Target.rank]; have := ht.1; omega
  | accept => simp only [Target.rank]; omega
  | reject => simp only [Target.rank]; omega

theorem Node.next_forward {len i : Nat} {n : Node} (b : Bool)
    (hm : Program.ForwardTarget len i n.onMatch) (hmm : Program.ForwardTarget len i n.onMismatch) :
    Program.ForwardTarget len i (n.next b) := by
  cases b
  · exact hmm
  · exact hm

namespace Reach

/-- **The recursive answer** of a forward program: ACCEPT answers `true`, REJECT and a missing
    node `false`; a node on the queried field continues where the comparison with `v` sends it,
    and any other node may continue at either target. It terminates because every target of a
    forward program lies after its node. -/
def answer (p : Program) (hfw : p.Forward) (proto : Protocol) (f : Field) (v : Nat) :
    Target → Bool
  | .accept => true
  | .reject => false
  | .node i =>
    if hi : i < p.nodes.length then
      let n := p.nodes[i]
      if n.protocol = proto ∧ n.field = f then
        answer p hfw proto f v (n.next (n.test.compare (Operand.ofWord v) n.arg))
      else answer p hfw proto f v n.onMatch || answer p hfw proto f v n.onMismatch
    else false
termination_by t => t.rank p.nodes.length
decreasing_by
  all_goals
    obtain ⟨hm, hmm⟩ := hfw i hi
    show Target.rank _ _ < p.nodes.length - i
  · exact (Node.next_forward _ hm hmm).rank_lt hi
  · exact hm.rank_lt hi
  · exact hmm.rank_lt hi

end Reach

/-- A node past the end cannot accept. -/
theorem reachable_node_of_le {p : Program} {i : Nat} (hi : p.nodes.length ≤ i)
    (proto : Protocol) (f : Field) (v : Nat) : reachable p (.node i) proto f v = false := by
  have hsize : (Reach.table p proto f v).size = p.nodes.length := by
    rw [Reach.table_eq_suffix, Reach.suffix_size]
  simp [reachable, Reach.resolve, Array.getD_eq_getD_getElem?, hsize, hi]

/-- **A node of a forward program answers from its targets' answers**, as the table computes it. -/
theorem reachable_node {p : Program} (hfw : p.Forward) {i : Nat} (hi : i < p.nodes.length)
    (proto : Protocol) (f : Field) (v : Nat) :
    reachable p (.node i) proto f v =
      if p.nodes[i].protocol = proto ∧ p.nodes[i].field = f then
        reachable p (p.nodes[i].next (p.nodes[i].test.compare (Operand.ofWord v) p.nodes[i].arg))
          proto f v
      else
        reachable p p.nodes[i].onMatch proto f v || reachable p p.nodes[i].onMismatch proto f v := by
  -- entry `i` of the table is node `i`'s answer over the table, which reads its targets' entries
  calc reachable p (.node i) proto f v = (Reach.table p proto f v)[i]?.getD false := by
        simp only [reachable, Reach.resolve, Array.getD_eq_getD_getElem?]
    _ = Reach.cell proto f v (Reach.table p proto f v) p.nodes[i] := by
        rw [Reach.table_fixpoint hfw proto f v hi, Option.getD_some]
    _ = _ := rfl

/-- **On a forward program the backward pass is the recursive answer**, from every target. The
    induction follows the recursion of `Reach.answer`. -/
theorem reachable_eq_answer {p : Program} (hfw : p.Forward) (proto : Protocol) (f : Field)
    (v : Nat) (t : Target) : reachable p t proto f v = Reach.answer p hfw proto f v t := by
  fun_induction Reach.answer p hfw proto f v t with
  | case1 => rfl
  | case2 => rfl
  | case3 i hi n hpin ih => rw [reachable_node hfw hi, if_pos hpin, ih]
  | case4 i hi n hpin ih₁ ih₂ => rw [reachable_node hfw hi, if_neg hpin, ih₁, ih₂]
  | case5 i hi => exact reachable_node_of_le (by omega) proto f v

/-- **The backward pass is the recursive definition.** On every compiled program, from every
    target, for every header, field and value, `reachable` answers what `Reach.answer` answers:
    ACCEPT `true`, REJECT and missing nodes `false`, a node on the queried field the answer of the
    branch its comparison with `v` takes, and any other node the `||` of its two branches. -/
theorem reachable_eq_recursive {rs : List RuleRecord} {p : Program}
    (hc : compileRecords rs = .ok p) (t : Target) (proto : Protocol) (f : Field) (v : Nat) :
    reachable p t proto f v = Reach.answer p (compileRecords_forward hc).1 proto f v t :=
  reachable_eq_answer _ proto f v t

/-- The statement on the filter `inbound ? REJECT : (tcp.Syn ? @2 : @2)`, `@2` being
    `outbound ? ACCEPT : REJECT`, for the direction flag held at 0. -/
theorem reachable_eq_recursive_either_branch :
    let rs : List RuleRecord :=
      [{ field := 1, test := 0, onMatch := 258, onMismatch := 1, arg := ⟨1, 0, 0, 0⟩ },
       { field := 47, test := 0, onMatch := 2, onMismatch := 2, arg := ⟨1, 0, 0, 0⟩ },
       { field := 2, test := 0, onMatch := 257, onMismatch := 258, arg := ⟨1, 0, 0, 0⟩ }]
    let p : Program :=
      ⟨[⟨.inbound, .eq, ⟨1, 0, 0, 0⟩, .reject, .node 1⟩,
        ⟨.tcpSyn, .eq, ⟨1, 0, 0, 0⟩, .node 2, .node 2⟩,
        ⟨.outbound, .eq, ⟨1, 0, 0, 0⟩, .accept, .reject⟩]⟩
    ∃ hc : compileRecords rs = .ok p,
      reachable p (.node 0) .none .inbound 0 = true ∧
      reachable p (.node 0) .none .inbound 0 =
        Reach.answer p (compileRecords_forward hc).1 .none .inbound 0 (.node 0) := by
  intro rs p
  have hc : compileRecords rs = .ok p := by decide
  exact ⟨hc, by decide, reachable_eq_recursive hc _ _ _ _⟩

/-! ## Soundness of reachability -/

/-- **A walk that accepts from node `i` is seen by the table**, when the packet's field `f` has
    the queried value. Induction on the fuel, one node per step. -/
theorem reachable_of_walk {p : Program} (hfw : p.Forward) {v : PacketView} {a : Address}
    {f : Field} {val : Nat} (proto : Protocol) (hpin : extract f v a = some (.ofWord val)) :
    ∀ fuel i, p.walk v a fuel i = true → reachable p (.node i) proto f val = true := by
  intro fuel
  induction fuel with
  | zero => intro i h; simp [Program.walk] at h
  | succ s ih =>
    intro i h
    rw [Program.walk_succ] at h
    cases hn : p.node? i with
    | none => simp [hn] at h
    | some n =>
      simp only [hn] at h
      obtain ⟨hi, hni⟩ := List.getElem?_eq_some_iff.mp hn
      -- the branch the walk took leads to ACCEPT in the table
      have hnext : Reach.resolve (Reach.table p proto f val) (n.next (n.satisfied v a)) = true := by
        cases ht : n.next (n.satisfied v a) with
        | accept => rfl
        | reject => simp [ht, Program.walkFrom] at h
        | node j => rw [ht] at h; exact ih j h
      have hcell := Reach.cell_of_next proto hpin hnext
      simp only [reachable, Reach.resolve, Array.getD_eq_getD_getElem?,
        Reach.table_fixpoint hfw proto f val hi, hni, hcell, Option.getD_some]

/-- **Reachability over-approximates acceptance from every start.** For a compiled program, a start
    target `t` and a packet whose field `f` has the value `val`: if the walk from `t` accepts, with
    any fuel, then `reachable` answers `true` from `t` for `f` at `val`. So an answer of `false`
    rules out every packet with that value, from that start. -/
theorem reachable_of_accepting_walk {rs : List RuleRecord} {p : Program}
    (hc : compileRecords rs = .ok p) (t : Target) (f : Field) (val : Nat) (v : PacketView)
    (a : Address) (hpin : extract f v a = some (.ofWord val)) (fuel : Nat)
    (hacc : p.walkFrom v a fuel t = true) : reachable p t f.protocol f val = true := by
  cases t with
  | accept => rfl
  | reject => simp [Program.walkFrom] at hacc
  | node k => exact reachable_of_walk (compileRecords_forward hc).1 f.protocol hpin fuel k hacc

/-- The statement from node 1 of the filter `ip && tcp.DstPort == 80`, for an inbound TCP SYN to
    port 80. -/
theorem reachable_of_accepting_walk_port :
    let rs : List RuleRecord :=
      [{ field := 5, test := 0, onMatch := 1, onMismatch := 258, arg := ⟨1, 0, 0, 0⟩ },
       { field := 39, test := 0, onMatch := 257, onMismatch := 258, arg := ⟨80, 0, 0, 0⟩ }]
    let p : Program :=
      ⟨[⟨.ip, .eq, ⟨1, 0, 0, 0⟩, .node 1, .reject⟩,
        ⟨.tcpDstPort, .eq, ⟨80, 0, 0, 0⟩, .accept, .reject⟩]⟩
    let v := PacketView.ofBytes
      [0x45, 0x00, 0x00, 0x28, 0x00, 0x00, 0x40, 0x00, 0x40, 0x06, 0x00, 0x00, 10, 0, 0, 1,
       10, 0, 0, 2, 0x04, 0xd2, 0x00, 0x50, 0, 0, 0, 0, 0, 0, 0, 0, 0x50, 0x02, 0xff, 0xff,
       0, 0, 0, 0]
    let a : Address := { direction := .inbound }
    compileRecords rs = .ok p ∧ extract .tcpDstPort v a = some (.ofWord 80) ∧
      p.walkFrom v a Program.stepBound (.node 1) = true ∧
      reachable p (.node 1) Field.tcpDstPort.protocol .tcpDstPort 80 = true := by
  intro rs p v a
  have hc : compileRecords rs = .ok p := by decide
  have hpin : extract .tcpDstPort v a = some (.ofWord 80) := by decide
  have hacc : p.walkFrom v a Program.stepBound (.node 1) = true := by decide
  exact ⟨hc, hpin, hacc, reachable_of_accepting_walk hc _ _ _ _ _ hpin _ hacc⟩

/-- **`analyze` sees the direction and IP version of every accepted packet.** An IP version is
    seen when the other version's header is absent, as `analyze` pins the other flag to 0. -/
theorem analyze_of_evaluate {p : Program} (hfw : p.Forward) {v : PacketView} {a : Address}
    (hacc : p.evaluate v a = true) :
    (a.direction = .inbound → (analyze p).inbound = true) ∧
      (a.direction = .outbound → (analyze p).outbound = true) ∧
      (v.ipv4.isSome → v.ipv6 = none → (analyze p).ipv4 = true) ∧
      (v.ipv6.isSome → v.ipv4 = none → (analyze p).ipv6 = true) := by
  have hroot : ∀ f val, extract f v a = some (.ofWord val) → reachableFromRoot p f val = true :=
    fun f val hpin => reachable_of_walk hfw f.protocol hpin _ 0 hacc
  have hzero : reachableFromRoot p .zero 0 = true := hroot .zero 0 rfl
  unfold analyze
  rw [if_neg (by simp [hzero])]
  refine ⟨fun hd => ?_, fun hd => ?_, fun h4 h6 => ?_, fun h6 h4 => ?_⟩
  · simp [hroot .inbound 1 (by simp [extract, Operand.ofBool, hd]),
      hroot .outbound 0 (by simp [extract, Operand.ofBool, hd])]
  · simp [hroot .outbound 1 (by simp [extract, Operand.ofBool, hd]),
      hroot .inbound 0 (by simp [extract, Operand.ofBool, hd])]
  · simp [hroot .ip 1 (by simp [extract, Operand.ofBool, h4]),
      hroot .ipv6 0 (by simp [extract, Operand.ofBool, h6])]
  · simp [hroot .ipv6 1 (by simp [extract, Operand.ofBool, h6]),
      hroot .ip 0 (by simp [extract, Operand.ofBool, h4])]

/-! ## Packets read from a buffer carry one IP version -/

theorem PacketView.withTransport_ipv4 (v : PacketView) (proto : Nat) (rest : Bytes) :
    (v.withTransport proto rest).ipv4 = v.ipv4 := by
  unfold withTransport; split_ifs <;> rfl

theorem PacketView.withTransport_ipv6 (v : PacketView) (proto : Nat) (rest : Bytes) :
    (v.withTransport proto rest).ipv6 = v.ipv6 := by
  unfold withTransport; split_ifs <;> rfl

theorem PacketView.ofBytes_ip_exclusive (b : Bytes) :
    (ofBytes b).ipv4 = none ∨ (ofBytes b).ipv6 = none := by
  unfold ofBytes
  cases b with
  | nil => exact .inl rfl
  | cons b0 rest =>
    simp only
    split_ifs
    · cases Ipv4Header.read? (b0 :: rest) <;> simp [withTransport_ipv6]
    · cases Ipv6Header.read? (b0 :: rest) <;> simp [withTransport_ipv4]
    · exact .inl rfl

/-! ## Hooks -/

/-- **The network-layer hook a packet passes**, by direction and IP version (`true` for IPv6). -/
def Hook.atNetwork : Direction → Bool → Hook
  | .inbound, false => .inboundIpv4
  | .outbound, false => .outboundIpv4
  | .inbound, true => .inboundIpv6
  | .outbound, true => .outboundIpv6

/-- The forward-layer hook a packet of an IP version passes. -/
def Hook.atForward (ipv6 : Bool) : Hook := if ipv6 then .forwardIpv6 else .forwardIpv4

theorem HookPlan.derive_network_contains {an : Analysis} {d : Direction} {ipv6 : Bool}
    (hin : d = .inbound → an.inbound = true) (hout : d = .outbound → an.outbound = true)
    (h4 : ipv6 = false → an.ipv4 = true) (h6 : ipv6 = true → an.ipv6 = true) (priority : Int) :
    (derive .network an priority).contains (Hook.atNetwork d ipv6) = true := by
  cases d <;> cases ipv6 <;> simp_all [derive, contains, Hook.atNetwork]

theorem HookPlan.derive_forward_contains {an : Analysis} {ipv6 : Bool}
    (h4 : ipv6 = false → an.ipv4 = true) (h6 : ipv6 = true → an.ipv6 = true) (priority : Int) :
    (derive .networkForward an priority).contains (Hook.atForward ipv6) = true := by
  cases ipv6 <;> simp_all [derive, contains, Hook.atForward]

/-- **Hook narrowing never loses a packet the filter accepts.** For a compiled program and an
    accepted buffer: the analysis allows the packet's direction and IP version, and at every
    priority both plans attach the hook the packet passes. -/
theorem accepted_packet_is_hooked {rs : List RuleRecord} {p : Program}
    (hc : compileRecords rs = .ok p) (b : Bytes) (a : Address) (hacc : p.accepts b a = true) :
    let an := analyze p
    let v := PacketView.ofBytes b
    (a.direction = .inbound → an.inbound = true) ∧ (a.direction = .outbound → an.outbound = true) ∧
      (v.ipv4.isSome → an.ipv4 = true) ∧ (v.ipv6.isSome → an.ipv6 = true) ∧
      ∀ priority,
        (v.ipv4.isSome → (HookPlan.derive .network an priority).contains
            (Hook.atNetwork a.direction false) = true ∧
          (HookPlan.derive .networkForward an priority).contains (Hook.atForward false) = true) ∧
        (v.ipv6.isSome → (HookPlan.derive .network an priority).contains
            (Hook.atNetwork a.direction true) = true ∧
          (HookPlan.derive .networkForward an priority).contains (Hook.atForward true) = true) := by
  intro an v
  obtain ⟨hin, hout, h4, h6⟩ := analyze_of_evaluate (compileRecords_forward hc).1 hacc
  have hv4 : v.ipv4.isSome → an.ipv4 = true := fun h =>
    h4 h ((PacketView.ofBytes_ip_exclusive b).resolve_left (Option.isSome_iff_ne_none.mp h))
  have hv6 : v.ipv6.isSome → an.ipv6 = true := fun h =>
    h6 h ((PacketView.ofBytes_ip_exclusive b).resolve_right (Option.isSome_iff_ne_none.mp h))
  refine ⟨hin, hout, hv4, hv6, fun priority => ⟨fun h => ⟨?_, ?_⟩, fun h => ⟨?_, ?_⟩⟩⟩
  · exact HookPlan.derive_network_contains hin hout (fun _ => hv4 h) (by simp) priority
  · exact HookPlan.derive_forward_contains (fun _ => hv4 h) (by simp) priority
  · exact HookPlan.derive_network_contains hin hout (by simp) (fun _ => hv6 h) priority
  · exact HookPlan.derive_forward_contains (by simp) (fun _ => hv6 h) priority

/-- The statement at an inbound IPv4 TCP SYN to port 80 and the filter `ip && tcp.DstPort == 80`. -/
theorem accepted_packet_is_hooked_http :
    let rs : List RuleRecord :=
      [{ field := 5, test := 0, onMatch := 1, onMismatch := 258, arg := ⟨1, 0, 0, 0⟩ },
       { field := 39, test := 0, onMatch := 257, onMismatch := 258, arg := ⟨80, 0, 0, 0⟩ }]
    let p : Program :=
      ⟨[⟨.ip, .eq, ⟨1, 0, 0, 0⟩, .node 1, .reject⟩,
        ⟨.tcpDstPort, .eq, ⟨80, 0, 0, 0⟩, .accept, .reject⟩]⟩
    let b : Bytes :=
      [0x45, 0x00, 0x00, 0x28, 0x00, 0x00, 0x40, 0x00, 0x40, 0x06, 0x00, 0x00, 10, 0, 0, 1,
       10, 0, 0, 2, 0x04, 0xd2, 0x00, 0x50, 0, 0, 0, 0, 0, 0, 0, 0, 0x50, 0x02, 0xff, 0xff,
       0, 0, 0, 0]
    let a : Address := { direction := .inbound }
    compileRecords rs = .ok p ∧ p.accepts b a = true ∧
      let an := analyze p
      let v := PacketView.ofBytes b
      (a.direction = .inbound → an.inbound = true) ∧ (a.direction = .outbound → an.outbound = true) ∧
        (v.ipv4.isSome → an.ipv4 = true) ∧ (v.ipv6.isSome → an.ipv6 = true) ∧
        ∀ priority,
          (v.ipv4.isSome → (HookPlan.derive .network an priority).contains
              (Hook.atNetwork a.direction false) = true ∧
            (HookPlan.derive .networkForward an priority).contains (Hook.atForward false) = true) ∧
          (v.ipv6.isSome → (HookPlan.derive .network an priority).contains
              (Hook.atNetwork a.direction true) = true ∧
            (HookPlan.derive .networkForward an priority).contains (Hook.atForward true) = true) := by
  intro rs p b a
  have hc : compileRecords rs = .ok p := by decide
  have hacc : p.accepts b a = true := by decide
  exact ⟨hc, hacc, accepted_packet_is_hooked hc b a hacc⟩

end Diversion
