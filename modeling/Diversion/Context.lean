import Diversion.Queue
import Diversion.Hook
import Diversion.Config
import Diversion.Filter.Compile

/-!
# `Diversion.Context` — a diversion handle

A handle is opened at a layer with a priority and flags, owns a queue, and runs a filter.
Starting the filter compiles it, derives where to attach it from its analysis, and starts
the queue's aging sweeper: the sweeper sleeps for the queue's aging time (read when the sleep
begins) and then sweeps. Time here is a virtual clock in milliseconds that only `advance`
moves.

**Classifying** a captured packet decides whether it passes (`permit`) or is taken
(`absorb`). Packets that are not ours to judge pass: when the handle is not open, in
pass-through mode, when the packet was reinjected by a handle of priority at least as high,
or when no filter runs. A packet the filter accepts is counted as matched, and then dropped
(drop mode) or queued for readers; in sniff mode the packet itself still passes.

Closing fails waiting readers and discards queued packets, stops the sweeper, and forgets the
filter, but keeps the last plan for inspection.

## Contents
- `Capture`, `Verdict`.
- `Context`: `new`, `ofConfig`, `setParam`, `startFilter`, `replaceFilter`, `classify`,
  `recv`, `close`, `release`, `advance`.
-/

namespace Diversion

/-- **A captured packet** as the stack hands it over. -/
structure Capture where
  data : Bytes
  address : Address
  offload : ChecksumOffload := {}
  /-- Priority of the handle that reinjected the packet, if one did. -/
  injectedPriority : Option Int := none
  deriving DecidableEq, Repr, Inhabited

/-- **What happens to a classified packet.** -/
inductive Verdict
  | permit
  | absorb
  deriving DecidableEq, Repr, Inhabited

/-- **A diversion handle.** -/
structure Context where
  state : Lifecycle := .opened
  layer : Layer
  priority : Int
  flags : Flags
  program : Option Program := none
  plan : Option HookPlan := none
  /-- The queue's background tasks run (a filter was started and the handle not closed). -/
  started : Bool := false
  queue : Queue
  clock : Nat := 0
  /-- When the sweeper next wakes, while it runs. -/
  sweepAt : Option Nat := none
  deriving Inhabited

namespace Context

/-- Why the queue's background tasks cannot start without an executor. -/
def noExecutorReason : String :=
  "no tokio runtime for queue tasks: there is no reactor running, must be called from the context of a Tokio 1.x runtime"

/-- **Opening a handle**; the priority is checked. -/
def new (layer : Layer) (priority : Int) (flags : Flags) : Except Error Context := do
  let priority ← checkPriority priority
  pure { layer, priority, flags, queue := ({} : Queue).setRepair !flags.noChecksum }

/-- Refuse unless the handle is open. -/
def ensureOpen (c : Context) : Except Error Unit :=
  if c.state = .opened then .ok () else .error (.state (.notOpen c.state))

/-- **Setting a queue parameter** of an open handle. -/
def setParam (c : Context) (p : Param) (v : Nat) : Except Error Context := do
  c.ensureOpen
  let q ← match p with
    | .queueLen => c.queue.setMaxLength v
    | .queueTime => c.queue.setSweepInterval v
  pure { c with queue := q }

/-- **Opening a handle from settings**: checked, then opened, then the queue configured. -/
def ofConfig (cfg : Config) : Except Error Context := do
  cfg.validate
  let c ← new cfg.layer cfg.priority cfg.flags
  let c ← c.setParam .queueLen cfg.queueLen
  c.setParam .queueTime cfg.queueTimeMs

/-- The current value of a queue parameter. -/
def param (c : Context) : Param → Nat
  | .queueLen => c.queue.maxLen
  | .queueTime => c.queue.sweepMs

/-- **Installing a program**: analysed (nothing in pass-through mode), planned, kept. -/
def install (c : Context) (p : Program) : Context × HookPlan :=
  let a := if c.flags.passthru then {} else analyze p
  let plan := HookPlan.derive c.layer a c.priority
  ({ c with program := some p, plan := some plan }, plan)

/-- **Starting the filter**: open, not yet started, an executor at hand, rules that compile;
the sweeper's first sleep begins now. -/
def startFilter (c : Context) (executor : Bool) (rules : Bytes) : Except Error (Context × HookPlan) := do
  c.ensureOpen
  if c.started then throw .alreadyStarted
  if !executor then throw (.runtime noExecutorReason)
  let p ← (compile rules).mapError .filter
  let (c, plan) := c.install p
  pure ({ c with started := true, sweepAt := some (c.clock + c.queue.sweepMs) }, plan)

/-- **Replacing the filter** of a started handle. -/
def replaceFilter (c : Context) (rules : Bytes) : Except Error (Context × HookPlan) := do
  c.ensureOpen
  if !c.started then throw (.state .noFilter)
  let p ← (compile rules).mapError .filter
  pure (c.install p)

/-- Update the counters. -/
def count (c : Context) (f : Counters → Counters) : Context :=
  { c with queue := { c.queue with counters := f c.queue.counters } }

/-- **Queueing a matched packet** for readers. -/
def divert (c : Context) (p : Capture) : Context :=
  let fixup := ChecksumFixup.forCapture p.address.direction p.offload
  let (q, status) := c.queue.enqueue { data := p.data, address := p.address, fixup }
  let c := { c with queue := q }
  if status.accepted then c.count fun k => { k with packetsDiverted := k.packetsDiverted + 1 }
  else c

/-- **Classifying a captured packet.** -/
def classify (c : Context) (p : Capture) : Context × Verdict :=
  let c := c.count fun k => { k with packetsClassified := k.packetsClassified + 1 }
  if c.state ≠ .opened ∨ c.flags.passthru then (c, .permit)
  else if p.injectedPriority.any (fun i => decide (i ≤ c.priority)) then (c, .permit)
  else match c.program with
    | none => (c, .permit)
    | some prog =>
      if !prog.accepts p.data p.address then (c, .permit)
      else
        let c := c.count fun k => { k with packetsMatched := k.packetsMatched + 1 }
        let c := if c.flags.drop then c.count fun k => { k with packetsDropped := k.packetsDropped + 1 }
          else c.divert p
        (c, if c.flags.sniff then .permit else .absorb)

/-- **A read** from the handle's queue; refused unless the handle is open with a filter. -/
def recv (c : Context) (maxLen : Nat) : Context × ReadOutcome :=
  match c.state with
  | .closing | .closed => (c, .ready (.error .shuttingDown))
  | .opening => (c, .ready (.error (.state (.notOpen .opening))))
  | .opened =>
    if !c.started then (c, .ready (.error (.state .noFilter)))
    else
      let (q, r) := c.queue.recv maxLen
      ({ c with queue := q }, r)

/-- **Closing the handle.** -/
def close (c : Context) : Context × Except Error Unit :=
  if c.state ≠ .opened then (c, .error (.state (.cannotClose c.state)))
  else
    let (q, _) := c.queue.drainAll
    ({ c with state := .closed, started := false, sweepAt := none, program := none, queue := q },
      .ok ())

/-- **Letting go of the handle** without closing it: its queue is drained. -/
def release (c : Context) : Context :=
  if c.queue.closing then c else { c with queue := (c.queue.drainAll).1 }

/-- Fire the sweeper's wake-ups due at or before `target`, at most `fuel` of them. A sweeper
that wakes to a closed queue stops. -/
def sweepUntil (target : Nat) : Nat → Context → Context
  | 0, c => c
  | fuel + 1, c =>
    match c.sweepAt with
    | some t =>
      if t ≤ target then
        let c := { c with clock := t }
        if c.queue.closing then { c with sweepAt := none }
        else
          let (q, _) := c.queue.ageSweep
          sweepUntil target fuel { c with queue := q, sweepAt := some (t + q.sweepMs) }
      else c
    | none => c

/-- **Moving the clock** forward by `ms` milliseconds. Each wake-up is at least 128 ms after
the one before, so `ms + 1` of them bound the work. -/
def advance (c : Context) (ms : Nat) : Context :=
  let target := c.clock + ms
  { sweepUntil target (ms + 1) c with clock := target }

end Context

end Diversion
