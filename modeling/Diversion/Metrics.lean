/-!
# `Diversion.Metrics` — counters and a size histogram

Counters are 64-bit words, and adding to one wraps modulo `2^64`: they are `UInt64`, whose `+` is
that addition. The queue length is a gauge, set to the length rather than added to. A histogram
sorts each observed value into the first bucket whose boundary is at least the value, in the
order the boundaries were given, or into the overflow; it also keeps the count and the sum, all
wrapping counters, and reports their quotient as a double.

## Contents
- `Histogram`, `Histogram.observe`, `Histogram.average`.
- `Counters`: the counters of a diversion handle.
-/

namespace Diversion

/-- **A histogram** over fixed boundaries. -/
structure Histogram where
  boundaries : List Nat
  buckets : List UInt64
  overflow : UInt64 := 0
  sum : UInt64 := 0
  count : UInt64 := 0
  deriving DecidableEq, Repr, Inhabited

namespace Histogram

/-- An empty histogram over `boundaries`. -/
def empty (boundaries : List Nat) : Histogram :=
  { boundaries, buckets := boundaries.map fun _ => 0 }

/-- Boundaries for packet sizes. -/
def packetSizeBounds : List Nat := [64, 128, 256, 512, 1024, 1500, 9000]

/-- The histogram of packet sizes. -/
def packetSizes : Histogram := empty packetSizeBounds

/-- **Observing a value.** -/
def observe (h : Histogram) (v : Nat) : Histogram :=
  let h := { h with sum := h.sum + UInt64.ofNat v, count := h.count + 1 }
  match h.boundaries.findIdx? (v ≤ ·) with
  | some i => { h with buckets := h.buckets.modify i (· + 1) }
  | none => { h with overflow := h.overflow + 1 }

/-- **The mean** as a double: sum over count, `0.0` with no observations. -/
def average (h : Histogram) : Float :=
  if h.count = 0 then 0.0 else h.sum.toFloat / h.count.toFloat

/-- Boundaries paired with their bucket counts. -/
def counts (h : Histogram) : List (Nat × UInt64) := h.boundaries.zip h.buckets

end Histogram

/-- **The counters of a diversion handle.** -/
structure Counters where
  packetsClassified : UInt64 := 0
  packetsMatched : UInt64 := 0
  packetsDiverted : UInt64 := 0
  packetsDropped : UInt64 := 0
  overflowEvictions : UInt64 := 0
  agedEvictions : UInt64 := 0
  shutdownRejections : UInt64 := 0
  /-- A gauge: the queue's length as last set, which a 64-bit word holds exactly. -/
  queueLength : Nat := 0
  packetsDelivered : UInt64 := 0
  bytesDelivered : UInt64 := 0
  checksumRepairs : UInt64 := 0
  deliveredSizes : Histogram := Histogram.packetSizes
  deriving DecidableEq, Repr, Inhabited

end Diversion
