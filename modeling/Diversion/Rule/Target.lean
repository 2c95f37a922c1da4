/-!
# `Diversion.Rule.Target` — where a rule continues

A rule's two continuations are 16-bit values on the wire: 257 ends evaluation accepting, 258
ends it rejecting, and any other value names the node to continue at. Whether a node index is
admissible (strictly forward, inside the list) is the compiler's check, not the decoder's.
-/

namespace Diversion

/-- **A continuation**: accept, reject, or continue at a node. -/
inductive Target
  | accept
  | reject
  | node (index : Nat)
  deriving DecidableEq, Repr, Inhabited

namespace Target

/-- The wire value that accepts. -/
def acceptRaw : Nat := 257

/-- The wire value that rejects. -/
def rejectRaw : Nat := 258

/-- **Decoding a wire value**: the two sentinels, otherwise a node index. -/
def ofRaw (raw : Nat) : Target :=
  if raw = acceptRaw then accept else if raw = rejectRaw then reject else node raw

/-- The wire value of a continuation. -/
def toRaw : Target → Nat
  | accept => acceptRaw
  | reject => rejectRaw
  | node i => i

/-- Text in programs: `ACCEPT`, `REJECT` or `@N`. -/
def display : Target → String
  | accept => "ACCEPT"
  | reject => "REJECT"
  | node i => s!"@{i}"

theorem toRaw_ofRaw (raw : Nat) : (ofRaw raw).toRaw = raw := by
  unfold ofRaw
  split
  · simp_all [toRaw]
  · split <;> simp_all [toRaw]

end Target

end Diversion
