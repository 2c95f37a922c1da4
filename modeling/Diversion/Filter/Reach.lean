import Diversion.Filter.Eval

/-!
# `Diversion.Filter.Reach` — what a program can accept

`reachable p start proto f v` asks: can evaluation from `start` end in ACCEPT for some packet
whose field `f` (of header `proto`) has value `v`? Nodes on that field take the branch the
comparison with `v` selects; nodes on any other field may go either way, as their values are
unconstrained. One backward pass over the nodes answers it, since every target lies after
its node.

`analyze` runs four such queries to learn which directions and IP versions a program can
accept; a program that accepts nothing gets all four `false`.

## Contents
- `Reach.table`, `reachable`.
- `Analysis`, `Analysis.text`, `analyze`.
-/

namespace Diversion

namespace Reach

/-- Whether `t` leads to ACCEPT, given the answers for the nodes after the current one. -/
def resolve (reach : Array Bool) : Target → Bool
  | .accept => true
  | .reject => false
  | .node j => reach.getD j false

/-- **The answer for every node**, computed from the last node back: entry `i` tells whether
evaluation from node `i` can end in ACCEPT. -/
def table (p : Program) (proto : Protocol) (f : Field) (v : Nat) : Array Bool :=
  p.nodes.zipIdx.foldr
    (fun (n, i) reach =>
      let accepts :=
        if n.protocol = proto ∧ n.field = f then
          resolve reach (n.next (n.test.compare (Operand.ofWord v) n.arg))
        else resolve reach n.onMatch || resolve reach n.onMismatch
      reach.setIfInBounds i accepts)
    (Array.replicate p.length false)

end Reach

/-- **Can evaluation from `start` accept** a packet whose field `f` has value `v`? -/
def reachable (p : Program) (start : Target) (proto : Protocol) (f : Field) (v : Nat) : Bool :=
  Reach.resolve (Reach.table p proto f v) start

/-- Reachability from the first node, for a field of its own header. -/
def reachableFromRoot (p : Program) (f : Field) (v : Nat) : Bool :=
  reachable p (.node 0) f.protocol f v

/-- **What a program can accept**: which directions and which IP versions. -/
structure Analysis where
  inbound : Bool := false
  outbound : Bool := false
  ipv4 : Bool := false
  ipv6 : Bool := false
  deriving DecidableEq, Repr, Inhabited

/-- Text of an analysis, e.g. `inbound=true outbound=false ipv4=true ipv6=true`. -/
def Analysis.text (a : Analysis) : String :=
  s!"inbound={a.inbound} outbound={a.outbound} ipv4={a.ipv4} ipv6={a.ipv6}"

/-- **Analysing a program**: a direction (or version) is possible when the program can accept
with its flag set and the opposite flag clear. -/
def analyze (p : Program) : Analysis :=
  if !reachableFromRoot p .zero 0 then {}
  else
    let pinned (f other : Field) := reachableFromRoot p f 1 && reachableFromRoot p other 0
    { inbound := pinned .inbound .outbound
      outbound := pinned .outbound .inbound
      ipv4 := pinned .ip .ipv6
      ipv6 := pinned .ipv6 .ip }

end Diversion
