import Diversion.Error
import Diversion.Address

/-!
# `Diversion.Settings` — the knobs of a diversion handle

A handle is opened at a **layer** (plain network traffic, or forwarded traffic), with a
**priority** in `[-1000, 1000]` and a set of **flags** drawn from four known bits. Its queue has
two **parameters**, a length and an aging time, each with bounds and a default. Each value is
checked where it enters, and the check's refusal is an `Error.param`.

Packets captured on the way out may carry checksums the network card was meant to fill in; a
**fix-up** says which checksums to recompute before a reader sees the packet.

## Contents
- `Layer`, `Layer.ofCode`; `Flags`, `Flags.ofBits`; `checkPriority`; `Param.validate`.
- `ChecksumOffload`, `ChecksumFixup`, `ChecksumFixup.forCapture`.
-/

namespace Diversion

/-- **Where in the stack packets are diverted.** -/
inductive Layer
  | network
  | networkForward
  deriving DecidableEq, Repr, Inhabited

namespace Layer

/-- The layer's name in reports. -/
def name : Layer → String
  | network => "Network"
  | networkForward => "NetworkForward"

/-- The layer's key in settings files. -/
def key : Layer → String
  | network => "network"
  | networkForward => "network_forward"

/-- The layer's number. -/
def code : Layer → Nat
  | network => 0
  | networkForward => 1

/-- **The layer numbered `n`**, refusing any other number. -/
def ofCode (n : Nat) : Except Error Layer :=
  if n = 0 then .ok network
  else if n = 1 then .ok networkForward
  else .error (.param (.unknownLayer n))

/-- The layer with key `s`. -/
def ofKey? (s : String) : Option Layer :=
  if s = "network" then some network
  else if s = "network_forward" then some networkForward
  else none

end Layer

/-- **Open flags**, as a bit set. -/
structure Flags where
  bits : Nat := 0
  deriving DecidableEq, Repr, Inhabited

namespace Flags

/-- Copy packets to the reader but let the packets themselves pass. -/
def sniffBit : Nat := 0x1
/-- Drop matching packets without a reader. -/
def dropBit : Nat := 0x2
/-- Pass packets through without repairing checksums. -/
def passthruBit : Nat := 0x10
/-- Leave checksums as captured. -/
def noChecksumBit : Nat := 0x400

/-- All known bits. -/
def known : Nat := sniffBit ||| dropBit ||| noChecksumBit ||| passthruBit

/-- **Flags from a bit word**, refusing bits outside the known four. -/
def ofBits (bits : Nat) : Except Error Flags :=
  if bits &&& (18446744073709551615 - known) ≠ 0 then .error (.param (.unknownFlags bits))
  else .ok ⟨bits⟩

/-- Whether bit `b` is set. -/
def has (f : Flags) (b : Nat) : Bool := f.bits &&& b = b

def sniff (f : Flags) : Bool := f.has sniffBit
def drop (f : Flags) : Bool := f.has dropBit
def noChecksum (f : Flags) : Bool := f.has noChecksumBit
def passthru (f : Flags) : Bool := f.has passthruBit

end Flags

/-- Lowest priority. -/
def priorityMin : Int := -1000
/-- Highest priority. -/
def priorityMax : Int := 1000

/-- **A priority inside `[-1000, 1000]`**, or the refusal. -/
def checkPriority (p : Int) : Except Error Int :=
  if p < priorityMin ∨ p > priorityMax then .error (.param (.priority p)) else .ok p

/-- **A parameter value inside its bounds**, or the refusal. -/
def Param.validate (p : Param) (v : Nat) : Except Error Nat :=
  if v < p.lo ∨ v > p.hi then .error (.param (.outOfBounds p v)) else .ok v

/-- Checksums the network card computes on the way out. -/
structure ChecksumOffload where
  tcp : Bool := false
  udp : Bool := false
  deriving DecidableEq, Repr, Inhabited

/-- **Checksums to recompute** before delivery. -/
structure ChecksumFixup where
  ip : Bool := false
  tcp : Bool := false
  udp : Bool := false
  deriving DecidableEq, Repr, Inhabited

namespace ChecksumFixup

/-- Whether anything is to be recomputed. -/
def any (f : ChecksumFixup) : Bool := f.ip || f.tcp || f.udp

/-- **The fix-up for a captured packet**: an outbound packet has not been through the card,
so its IPv4 header checksum and the offloaded transport checksums are unset; an inbound packet
is as it arrived. -/
def forCapture (d : Direction) (o : ChecksumOffload) : ChecksumFixup :=
  match d with
  | .outbound => { ip := true, tcp := o.tcp, udp := o.udp }
  | .inbound => {}

end ChecksumFixup

end Diversion
