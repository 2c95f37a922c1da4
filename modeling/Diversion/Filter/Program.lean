import Diversion.Rule.Field
import Diversion.Rule.Test
import Diversion.Rule.Target
import Diversion.Rule.Record

/-!
# `Diversion.Filter.Program` — compiled decision programs

A program is a list of nodes. Each node compares one field with its argument and continues at
one of two targets. In a program the compiler accepts, every node target lies strictly after
its node and inside the list (`Program.Forward`), so every walk through it ends.

## Contents
- `Node`, `Node.next`, `Node.text`, `Node.toRecord`.
- `Program`, `Program.node?`, `Program.toRecords`, `Program.text`.
- `Program.Forward`: the shape every compiled program has.
-/

namespace Diversion

/-- **A compiled rule.** -/
structure Node where
  field : Field
  test : Test
  arg : Operand
  onMatch : Target
  onMismatch : Target
  deriving DecidableEq, Repr, Inhabited

namespace Node

/-- The header the node's field needs. -/
def protocol (n : Node) : Protocol := n.field.protocol

/-- **Where evaluation continues** after the comparison came out `matched`. -/
def next (n : Node) (matched : Bool) : Target := if matched then n.onMatch else n.onMismatch

/-- The argument as program text: hex words for a wide field, else word 0 in decimal. -/
def argText (n : Node) : String :=
  if n.field.wide then n.arg.hexText else toString n.arg.w0.toNat

/-- **Program text of a node**, e.g. `tcp.DstPort == 443 ? ACCEPT : REJECT`. -/
def text (n : Node) : String :=
  n.field.display ++ " " ++ n.test.symbol ++ " " ++ n.argText ++ " ? " ++
    n.onMatch.display ++ " : " ++ n.onMismatch.display

/-- The wire record the node was compiled from. -/
def toRecord (n : Node) : RuleRecord where
  field := UInt8.ofNat n.field.code
  test := UInt8.ofNat n.test.code
  onMatch := UInt16.ofNat n.onMatch.toRaw
  onMismatch := UInt16.ofNat n.onMismatch.toRaw
  arg := n.arg

end Node

/-- **A compiled decision program.** -/
structure Program where
  nodes : List Node
  deriving DecidableEq, Repr, Inhabited

namespace Program

/-- Number of nodes. -/
def length (p : Program) : Nat := p.nodes.length

/-- The node at `i`, if there is one. -/
def node? (p : Program) (i : Nat) : Option Node := p.nodes[i]?

/-- The records the program was compiled from. -/
def toRecords (p : Program) : List RuleRecord := p.nodes.map Node.toRecord

/-- `s` followed by spaces up to `width` characters. -/
def padRight (s : String) (width : Nat) : String :=
  s ++ String.ofList (List.replicate (width - s.length) ' ')

/-- One line of program text: `@` and the index left-aligned in three columns. -/
def line (i : Nat) (n : Node) : String :=
  "@" ++ padRight (toString i) 3 ++ " " ++ n.text ++ "\n"

/-- **Program text**: one line per node. -/
def text (p : Program) : String :=
  String.join (p.nodes.zipIdx.map fun (n, i) => line i n)

/-- A target is admissible after node `i` of a list of `len` nodes: it ends evaluation or
names a node strictly after `i`. -/
def ForwardTarget (len i : Nat) : Target → Prop
  | .node j => i < j ∧ j < len
  | _ => True

/-- **Every target points strictly forward inside the program.** -/
def Forward (p : Program) : Prop :=
  ∀ i (h : i < p.nodes.length),
    ForwardTarget p.nodes.length i p.nodes[i].onMatch ∧
    ForwardTarget p.nodes.length i p.nodes[i].onMismatch

end Program

end Diversion
