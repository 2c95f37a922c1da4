import Diversion.Settings
import Diversion.Checksum
import Diversion.Metrics

/-!
# `Diversion.Queue` — the diversion queue

Diverted packets wait in a bounded FIFO until a reader takes them. A full queue drops its
oldest packet to make room. Readers wait in a FIFO of read requests; whenever both a packet and
a request wait, the oldest packet goes to the oldest request, with its checksums repaired if
the packet asks for it and repair is on, cut to the length the reader accepts. A reader that
went away leaves its request behind until it reaches the front of the request FIFO, where it
is skipped.

**Aging** uses two generations: a packet is stamped with the queue's generation when it
arrives, and a sweep evicts the packets at the head stamped with the other generation, then
flips the generation. So a packet survives one sweep and is evicted by the second.

Closing the queue (`drainAll`) discards the packets, fails every waiting reader, and refuses
packets and reads from then on.

Readers are tokens handed out by `recv`; their replies wait in `replies` until collected
with `takeReply`.

## Contents
- `Queued`, `Delivered`, `ReadRequest`, `ReadOutcome`, `EnqueueStatus`.
- `Queue`: `setMaxLength`, `setSweepInterval`, `enqueue`, `dequeue`, `ageSweep`, `drainAll`.
- Reads: `recv`, `serviceReads`, `takeReply`, `abandon`.
-/

namespace Diversion

/-- **A packet waiting in the queue.** -/
structure Queued where
  data : Bytes
  address : Address
  fixup : ChecksumFixup := {}
  generation : Bool := false
  deriving DecidableEq, Repr, Inhabited

/-- **A packet handed to a reader**: possibly cut, with its length before cutting. -/
structure Delivered where
  data : Bytes
  address : Address
  fullLen : Nat
  deriving DecidableEq, Repr, Inhabited

/-- Whether the reader got less than the whole packet. -/
def Delivered.truncated (d : Delivered) : Bool := d.data.length < d.fullLen

/-- **A reader waiting for a packet**, and the longest delivery it takes. -/
structure ReadRequest where
  reader : Nat
  maxLen : Nat
  /-- The reader went away. -/
  abandoned : Bool := false
  deriving DecidableEq, Repr, Inhabited

/-- **How a read went**: answered at once, or waiting as the given reader. -/
inductive ReadOutcome
  | ready (r : Except Error Delivered)
  | waiting (reader : Nat)

/-- **What became of an arriving packet.** -/
inductive EnqueueStatus
  | queued
  /-- Queued, and the oldest packet dropped to make room. -/
  | overflowed
  /-- Refused: the queue is closed. -/
  | shuttingDown
  deriving DecidableEq, Repr, Inhabited

/-- Whether the packet was taken in. -/
def EnqueueStatus.accepted (s : EnqueueStatus) : Bool := s != .shuttingDown

/-- **The diversion queue.** -/
structure Queue where
  packets : List Queued := []
  requests : List ReadRequest := []
  replies : List (Nat × Except Error Delivered) := []
  generation : Bool := false
  maxLen : Nat := Param.queueLen.default
  closing : Bool := false
  sweepMs : Nat := Param.queueTime.default
  repair : Bool := true
  counters : Counters := {}
  nextReader : Nat := 0
  deriving Inhabited

namespace Queue

/-- Record the queue length in the counters. -/
def gauge (q : Queue) : Queue := { q with counters.queueLength := q.packets.length }

/-- **Setting the capacity**: the oldest packets beyond it are dropped. -/
def setMaxLength (q : Queue) (v : Nat) : Except Error Queue := do
  let v ← Param.queueLen.validate v
  let excess := q.packets.length - v
  let q := gauge { q with maxLen := v, packets := q.packets.drop excess }
  pure { q with counters.overflowEvictions := q.counters.overflowEvictions + UInt64.ofNat excess }

/-- **Setting the aging time** in milliseconds. -/
def setSweepInterval (q : Queue) (v : Nat) : Except Error Queue := do
  let v ← Param.queueTime.validate v
  pure { q with sweepMs := v }

/-- A queue with the given capacity and aging time. -/
def withLimits (maxLen sweepMs : Nat) : Except Error Queue := do
  let q ← ({} : Queue).setMaxLength maxLen
  q.setSweepInterval sweepMs

/-- Turn checksum repair on delivery on or off. -/
def setRepair (q : Queue) (on : Bool) : Queue := { q with repair := on }

/-- Number of read requests, abandoned ones included. -/
def pendingReads (q : Queue) : Nat := q.requests.length

/-- **Handing a packet to a request.** -/
def complete (q : Queue) (r : ReadRequest) (p : Queued) : Queue :=
  let (data, repaired) :=
    if q.repair && p.fixup.any then
      let (d, report) := Checksum.repair p.data p.fixup
      (d, report.any)
    else (p.data, false)
  let len := min data.length r.maxLen
  let d : Delivered := { data := data.take len, address := p.address, fullLen := data.length }
  let c := q.counters
  { q with
    replies := q.replies ++ [(r.reader, .ok d)]
    counters := { c with
      checksumRepairs := c.checksumRepairs + (if repaired then 1 else 0)
      packetsDelivered := c.packetsDelivered + 1
      bytesDelivered := c.bytesDelivered + UInt64.ofNat len
      deliveredSizes := c.deliveredSizes.observe data.length } }

/-- **The next packet and request to pair**: abandoned requests at the front are skipped
(and removed) first. -/
def nextPair (q : Queue) : Queue × Option (ReadRequest × Queued) :=
  if q.closing then (q, none)
  else
    let q := { q with requests := q.requests.dropWhile (·.abandoned) }
    match q.requests, q.packets with
    | r :: rs, p :: ps => (gauge { q with requests := rs, packets := ps }, some (r, p))
    | _, _ => (q, none)

/-- Pair packets with requests, at most `fuel` times. -/
def serviceFor : Nat → Queue → Nat → Queue × Nat
  | 0, q, n => (q, n)
  | fuel + 1, q, n =>
    match q.nextPair with
    | (q, none) => (q, n)
    | (q, some (r, p)) => serviceFor fuel (q.complete r p) (n + 1)

/-- **Serving waiting readers**; the number of packets delivered. -/
def serviceReads (q : Queue) : Queue × Nat := serviceFor (q.packets.length + 1) q 0

/-- **An arriving packet**, stamped with the current generation. -/
def enqueue (q : Queue) (p : Queued) : Queue × EnqueueStatus :=
  if q.closing then
    ({ q with counters.shutdownRejections := q.counters.shutdownRejections + 1 }, .shuttingDown)
  else
    let packets := q.packets ++ [{ p with generation := q.generation }]
    let full := packets.length > q.maxLen
    let q := gauge { q with packets := if full then packets.drop 1 else packets }
    let q := if full then { q with counters.overflowEvictions := q.counters.overflowEvictions + 1 }
      else q
    let q := if q.requests.isEmpty then q else (q.serviceReads).1
    (q, if full then .overflowed else .queued)

/-- **Taking the oldest packet** without a reader. -/
def dequeue (q : Queue) : Queue × Option Queued :=
  match q.packets with
  | p :: ps => (gauge { q with packets := ps }, some p)
  | [] => (gauge q, none)

/-- The packets left after dropping those at the head not of generation `current`, and how
many were dropped. -/
def dropStale (current : Bool) : List Queued → List Queued × Nat
  | p :: rest =>
    if p.generation != current then
      let (left, n) := dropStale current rest
      (left, n + 1)
    else (p :: rest, 0)
  | [] => ([], 0)

/-- **An aging sweep**: evict the stale head packets, flip the generation; the number
evicted. -/
def ageSweep (q : Queue) : Queue × Nat :=
  let (left, n) := dropStale q.generation q.packets
  let q := { q with packets := left, generation := !q.generation }
  if n = 0 then (q, 0)
  else (gauge { q with counters.agedEvictions := q.counters.agedEvictions + UInt64.ofNat n }, n)

/-- **Closing the queue**: packets discarded (their number returned), waiting readers failed. -/
def drainAll (q : Queue) : Queue × Nat :=
  let failed := (q.requests.filter (!·.abandoned)).map fun r => (r.reader, .error .shuttingDown)
  ({ q with closing := true, packets := [], requests := [], replies := q.replies ++ failed,
            counters.queueLength := 0 }, q.packets.length)

/-- **Collecting a reader's reply**, if it has one. -/
def takeReply (q : Queue) (reader : Nat) : Queue × Option (Except Error Delivered) :=
  match q.replies.find? (·.1 == reader) with
  | some (_, r) => ({ q with replies := q.replies.filter (·.1 != reader) }, some r)
  | none => (q, none)

/-- **A read**: refused when closed; else the request joins the FIFO, readers are served, and
the read is answered at once or left waiting. -/
def recv (q : Queue) (maxLen : Nat) : Queue × ReadOutcome :=
  let reader := q.nextReader
  let q := { q with nextReader := reader + 1 }
  if q.closing then (q, .ready (.error .shuttingDown))
  else
    let q := { q with requests := q.requests ++ [({ reader, maxLen } : ReadRequest)] }
    let (q, _) := q.serviceReads
    match q.takeReply reader with
    | (q, some r) => (q, .ready r)
    | (q, none) => (q, .waiting reader)

/-- **A reader going away**: its request stays, marked, until skipped. -/
def abandon (q : Queue) (reader : Nat) : Queue :=
  { q with
    requests := q.requests.map fun r => if r.reader = reader then { r with abandoned := true } else r
    replies := q.replies.filter (·.1 != reader) }

end Queue

end Diversion
