import Diversion.Filter.Eval
import Diversion.Proofs.Compile

/-!
# `Proofs.Eval` — the interpreter walk is the gated forward semantics

The semantics a rule list is meant to have is stated on its own, as the relation
`Program.GatedEval`: ACCEPT yields `true`, REJECT `false`, and node `i` continues where its
comparison sends it, the comparison taken only when the node's **gate** is open — its field
needs no header, or the header is present. The walk `Program.walk` never looks at a node's
header; it relies on `extract` having no value for a field of an absent header. The two agree
field by field (`extract_eq_none_iff`, one case per field), so one node step is the same in
both (`Node.satisfied_eq`).

On a forward program the relation has exactly one derivation from every node
(`gatedEval_total`, `gatedEval_deterministic`), its length bounded by the number of nodes left,
and the walk with any fuel at least that length follows it (`walkFrom_of_gatedEval`). The main
statement `evaluate_eq_gated` puts these together for compiled programs: evaluation is the
gated semantics from node 0, reached in at most `p.length ≤ 255` steps, so the walk's step
bound of 257 never cuts it short and it never meets a missing node.
-/

namespace Diversion

/-! ## Gates and values -/

/-- **Whether header `pr` is present** in a view. No header is named `none`. -/
def PacketView.carries (v : PacketView) : Protocol → Bool
  | .none => false
  | .ipv4 => v.ipv4.isSome
  | .ipv6 => v.ipv6.isSome
  | .icmp => v.icmp.isSome
  | .icmpv6 => v.icmpv6.isSome
  | .tcp => v.tcp.isSome
  | .udp => v.udp.isSome

/-- **A field has no value exactly when it needs a header the packet lacks.** -/
theorem extract_eq_none_iff (f : Field) (v : PacketView) (a : Address) :
    extract f v a = none ↔ f.protocol ≠ .none ∧ v.carries f.protocol = false := by
  cases f <;> simp [extract, Field.protocol, Field.info, PacketView.carries,
    PacketView.tcpPayloadLen, PacketView.udpPayloadLen]

namespace Node

/-- **The gate of a node**: open when its field needs no header or the header is present. -/
def gate (n : Node) (v : PacketView) : Bool := n.protocol == .none || v.carries n.protocol

/-- The value a node compares; it matters only when the gate is open, and then it is the
    field's value. -/
def value (n : Node) (v : PacketView) (a : Address) : Operand := (extract n.field v a).getD .zero

/-- **Where the gated semantics continues** after node `n`. -/
def gatedNext (n : Node) (v : PacketView) (a : Address) : Target :=
  n.next (n.gate v && n.test.compare (n.value v a) n.arg)

/-- **A node matches in the walk exactly when its gate is open and the comparison holds.** -/
theorem satisfied_eq (n : Node) (v : PacketView) (a : Address) :
    n.satisfied v a = (n.gate v && n.test.compare (n.value v a) n.arg) := by
  unfold satisfied value gate protocol
  cases h : extract n.field v a with
  | none =>
    obtain ⟨hp, hc⟩ := (extract_eq_none_iff n.field v a).mp h
    simp [hp, hc]
  | some x =>
    -- a value means the header is there, so the gate is open
    have hg : (n.field.protocol == .none || v.carries n.field.protocol) = true := by
      have := mt (extract_eq_none_iff n.field v a).mpr (by simp [h])
      cases hc : v.carries n.field.protocol <;> simp_all
    simp [hg]

end Node

namespace Program

/-! ## The gated semantics -/

/-- **Gated forward semantics**: from `t`, evaluation passes `k` nodes and yields `b`. -/
inductive GatedEval (p : Program) (v : PacketView) (a : Address) : Target → Nat → Bool → Prop
  | accept : GatedEval p v a .accept 0 true
  | reject : GatedEval p v a .reject 0 false
  | node {i : Nat} {n : Node} {k : Nat} {b : Bool} :
      p.nodes[i]? = some n → GatedEval p v a (n.gatedNext v a) k b →
      GatedEval p v a (.node i) (k + 1) b

/-- The walk continued at a target: an end answers at once, a node is walked with `fuel`. -/
def walkFrom (p : Program) (v : PacketView) (a : Address) (fuel : Nat) : Target → Bool
  | .accept => true
  | .reject => false
  | .node j => p.walk v a fuel j

/-- One step of the walk: read the node, then continue where it sends the walk. -/
theorem walk_succ (p : Program) (v : PacketView) (a : Address) (s i : Nat) :
    p.walk v a (s + 1) i =
      match p.node? i with
      | none => false
      | some n => p.walkFrom v a s (n.next (n.satisfied v a)) := by
  simp only [walk]
  cases p.node? i with
  | none => rfl
  | some n => cases n.next (n.satisfied v a) <;> rfl

/-- **The walk follows a derivation**: with fuel at least its length, it reads only nodes that
    exist and returns the derivation's answer. -/
theorem walkFrom_of_gatedEval {p : Program} {v : PacketView} {a : Address} {t : Target}
    {k : Nat} {b : Bool} (h : p.GatedEval v a t k b) :
    ∀ fuel, k ≤ fuel → p.walkFrom v a fuel t = b := by
  induction h with
  | accept => intro _ _; rfl
  | reject => intro _ _; rfl
  | @node i n k b hn _ ih =>
    intro fuel hk
    obtain ⟨s, rfl⟩ : ∃ s, fuel = s + 1 := ⟨fuel - 1, by omega⟩
    have hnode : p.node? i = some n := hn
    show p.walk v a (s + 1) i = b
    rw [walk_succ, hnode]
    show p.walkFrom v a s (n.next (n.satisfied v a)) = b
    rw [Node.satisfied_eq]
    exact ih s (by omega)

/-- **At most one answer**, reached in one number of steps. -/
theorem gatedEval_deterministic {p : Program} {v : PacketView} {a : Address} {t : Target}
    {k k' : Nat} {b b' : Bool} (h : p.GatedEval v a t k b) (h' : p.GatedEval v a t k' b') :
    k = k' ∧ b = b' := by
  induction h generalizing k' b' with
  | accept => cases h'; exact ⟨rfl, rfl⟩
  | reject => cases h'; exact ⟨rfl, rfl⟩
  | node hn _ ih =>
    cases h' with
    | node hn' hrest =>
      cases hn.symm.trans hn'
      obtain ⟨rfl, rfl⟩ := ih hrest
      exact ⟨rfl, rfl⟩

/-- **On a forward program every node has an answer**, within the number of nodes from it to the
    end: each step moves strictly forward. -/
theorem gatedEval_total {p : Program} (hfw : p.Forward) (v : PacketView) (a : Address) (i : Nat)
    (hi : i < p.nodes.length) :
    ∃ k b, 0 < k ∧ k ≤ p.nodes.length - i ∧ p.GatedEval v a (.node i) k b := by
  have hn : p.nodes[i]? = some p.nodes[i] := List.getElem?_eq_getElem hi
  have hfwd : ForwardTarget p.nodes.length i (p.nodes[i].gatedNext v a) := by
    obtain ⟨hm, hmm⟩ := hfw i hi
    unfold Node.gatedNext Node.next
    split
    · exact hm
    · exact hmm
  cases ht : p.nodes[i].gatedNext v a with
  | accept => exact ⟨1, true, by omega, by omega, .node hn (ht ▸ .accept)⟩
  | reject => exact ⟨1, false, by omega, by omega, .node hn (ht ▸ .reject)⟩
  | node j =>
    rw [ht] at hfwd
    obtain ⟨hij, hj⟩ := hfwd
    obtain ⟨k, b, _, hk, hg⟩ := gatedEval_total hfw v a j hj
    exact ⟨k + 1, b, by omega, by omega, .node hn (ht ▸ hg)⟩
termination_by p.nodes.length - i

/-! ## Evaluation of compiled programs -/

/-- **Evaluation is the gated forward semantics.** For a compiled program, from node 0 the gated
    semantics has one answer, reached after `k ≤ p.length ≤ 255` nodes, and it is the answer of
    `evaluate`; the walk gives it with any fuel from `k` on, so the 257-step bound never decides
    the result. -/
theorem evaluate_eq_gated {rs : List RuleRecord} {p : Program} (hc : compileRecords rs = .ok p)
    (v : PacketView) (a : Address) :
    p.length ≤ 255 ∧ ∃ k, k ≤ p.length ∧ p.GatedEval v a (.node 0) k (p.evaluate v a) ∧
      (∀ k' b, p.GatedEval v a (.node 0) k' b → k' = k ∧ b = p.evaluate v a) ∧
      ∀ fuel, k ≤ fuel → p.walk v a fuel 0 = p.evaluate v a := by
  obtain ⟨hfw, hlo, hhi⟩ := compileRecords_forward hc
  obtain ⟨k, b, -, hk, hg⟩ := gatedEval_total hfw v a 0 (by simp only [Program.length] at hlo; omega)
  have hwalk := walkFrom_of_gatedEval hg
  have hb : p.evaluate v a = b := hwalk stepBound (by simp [stepBound, Program.length] at *; omega)
  refine ⟨hhi, k, by simpa [Program.length] using hk, hb ▸ hg, fun k' b' h' => ?_, fun fuel hf => ?_⟩
  · obtain ⟨rfl, rfl⟩ := gatedEval_deterministic hg h'
    exact ⟨rfl, hb.symm⟩
  · rw [hb]
    exact hwalk fuel hf

/-- The statement at a two-rule program (IPv4, then TCP port 443) and a packet seen inbound. -/
theorem evaluate_eq_gated_port_rule :
    let rs : List RuleRecord :=
      [{ field := 5, test := 0, onMatch := 1, onMismatch := 258, arg := ⟨1, 0, 0, 0⟩ },
       { field := 39, test := 0, onMatch := 257, onMismatch := 258, arg := ⟨443, 0, 0, 0⟩ }]
    let p : Program :=
      ⟨[⟨.ip, .eq, ⟨1, 0, 0, 0⟩, .node 1, .reject⟩,
        ⟨.tcpDstPort, .eq, ⟨443, 0, 0, 0⟩, .accept, .reject⟩]⟩
    let v := PacketView.ofBytes []
    let a : Address := { direction := .inbound }
    compileRecords rs = .ok p ∧
      (p.length ≤ 255 ∧ ∃ k, k ≤ p.length ∧ p.GatedEval v a (.node 0) k (p.evaluate v a) ∧
        (∀ k' b, p.GatedEval v a (.node 0) k' b → k' = k ∧ b = p.evaluate v a) ∧
        ∀ fuel, k ≤ fuel → p.walk v a fuel 0 = p.evaluate v a) := by
  intro rs p v a
  have hc : compileRecords rs = .ok p := by decide
  exact ⟨hc, evaluate_eq_gated hc v a⟩

end Program

end Diversion
