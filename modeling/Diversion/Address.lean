/-!
# `Diversion.Address` — where a packet was seen

A captured packet travels in one direction and arrives on an interface and sub-interface. The
filter can test all three, and a delivered packet carries them back to the reader.
-/

namespace Diversion

/-- **The direction a packet travels.** -/
inductive Direction
  | outbound
  | inbound
  deriving DecidableEq, Repr, Inhabited

namespace Direction

/-- The direction's name. -/
def name : Direction → String
  | outbound => "outbound"
  | inbound => "inbound"

/-- The direction named `s`. -/
def ofName? : String → Option Direction
  | "outbound" => some outbound
  | "inbound" => some inbound
  | _ => none

/-- Whether the packet leaves the host. -/
def isOutbound (d : Direction) : Bool := d == outbound

end Direction

/-- **Where a packet was captured**: direction and interface ids. -/
structure Address where
  direction : Direction
  ifIdx : Nat := 0
  subIfIdx : Nat := 0
  deriving DecidableEq, Repr, Inhabited

/-- Text of an address, e.g. `inbound if=7.0`. -/
def Address.text (a : Address) : String :=
  s!"{a.direction.name} if={a.ifIdx}.{a.subIfIdx}"

end Diversion
