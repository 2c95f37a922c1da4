import Diversion.Address
import Diversion.Filter.Program
import Diversion.Packet.View

/-!
# `Diversion.Filter.Eval` — running a program on a packet

A field's value comes from the address (direction, interface ids), from which headers are
present, or from a header; a field of an absent header has no value, and its node takes the
mismatch branch. Comparisons are on 128-bit numbers. Evaluation starts at node 0 and follows
targets until one ends it; a walk that reaches a missing node, or runs past 257 steps, rejects.
In a compiled program every target points forward, so the step bound is never the reason.

## Contents
- `extract`: a field's value.
- `Test.compare`: a comparison of two operands.
- `Program.evaluate`, `Program.accepts`.
-/

namespace Diversion

/-- `1` for true, `0` for false, as a narrow operand. -/
def Operand.ofBool (b : Bool) : Operand := .ofWord (if b then 1 else 0)

/-- **The value of a field** for a packet seen at an address; `none` if the field's header is
absent. -/
def extract (f : Field) (v : PacketView) (a : Address) : Option Operand :=
  let w := Operand.ofWord
  let flag := Operand.ofBool
  match f with
  | .zero => some (w 0)
  | .inbound => some (flag (a.direction == .inbound))
  | .outbound => some (flag (a.direction == .outbound))
  | .ifIdx => some (w a.ifIdx)
  | .subIfIdx => some (w a.subIfIdx)
  | .ip => some (flag v.ipv4.isSome)
  | .ipv6 => some (flag v.ipv6.isSome)
  | .icmp => some (flag v.icmp.isSome)
  | .icmpv6 => some (flag v.icmpv6.isSome)
  | .tcp => some (flag v.tcp.isSome)
  | .udp => some (flag v.udp.isSome)
  | .ipHdrLength => v.ipv4.map fun h => w h.hdrLength
  | .ipTos => v.ipv4.map fun h => w h.tos
  | .ipLength => v.ipv4.map fun h => w h.length
  | .ipId => v.ipv4.map fun h => w h.id
  | .ipDf => v.ipv4.map fun h => flag h.df
  | .ipMf => v.ipv4.map fun h => flag h.mf
  | .ipFragOff => v.ipv4.map fun h => w h.fragOff
  | .ipTtl => v.ipv4.map fun h => w h.ttl
  | .ipProtocol => v.ipv4.map fun h => w h.protocol
  | .ipChecksum => v.ipv4.map fun h => w h.checksum
  | .ipSrcAddr => v.ipv4.map fun h => w h.srcAddr
  | .ipDstAddr => v.ipv4.map fun h => w h.dstAddr
  | .ipv6TrafficClass => v.ipv6.map fun h => w h.trafficClass
  | .ipv6FlowLabel => v.ipv6.map fun h => w h.flowLabel
  | .ipv6Length => v.ipv6.map fun h => w h.length
  | .ipv6NextHdr => v.ipv6.map fun h => w h.nextHdr
  | .ipv6HopLimit => v.ipv6.map fun h => w h.hopLimit
  | .ipv6SrcAddr => v.ipv6.map fun h => h.srcAddr
  | .ipv6DstAddr => v.ipv6.map fun h => h.dstAddr
  | .icmpType => v.icmp.map fun h => w h.type
  | .icmpCode => v.icmp.map fun h => w h.code
  | .icmpChecksum => v.icmp.map fun h => w h.checksum
  | .icmpBody => v.icmp.map fun h => w h.body
  | .icmpv6Type => v.icmpv6.map fun h => w h.type
  | .icmpv6Code => v.icmpv6.map fun h => w h.code
  | .icmpv6Checksum => v.icmpv6.map fun h => w h.checksum
  | .icmpv6Body => v.icmpv6.map fun h => w h.body
  | .tcpSrcPort => v.tcp.map fun h => w h.srcPort
  | .tcpDstPort => v.tcp.map fun h => w h.dstPort
  | .tcpSeqNum => v.tcp.map fun h => w h.seqNum
  | .tcpAckNum => v.tcp.map fun h => w h.ackNum
  | .tcpHdrLength => v.tcp.map fun h => w h.hdrLength
  | .tcpUrg => v.tcp.map fun h => flag h.urg
  | .tcpAck => v.tcp.map fun h => flag h.ack
  | .tcpPsh => v.tcp.map fun h => flag h.psh
  | .tcpRst => v.tcp.map fun h => flag h.rst
  | .tcpSyn => v.tcp.map fun h => flag h.syn
  | .tcpFin => v.tcp.map fun h => flag h.fin
  | .tcpWindow => v.tcp.map fun h => w h.window
  | .tcpChecksum => v.tcp.map fun h => w h.checksum
  | .tcpUrgPtr => v.tcp.map fun h => w h.urgPtr
  | .tcpPayloadLength => v.tcpPayloadLen.map w
  | .udpSrcPort => v.udp.map fun h => w h.srcPort
  | .udpDstPort => v.udp.map fun h => w h.dstPort
  | .udpLength => v.udp.map fun h => w h.length
  | .udpChecksum => v.udp.map fun h => w h.checksum
  | .udpPayloadLength => v.udpPayloadLen.map w

/-- **Comparing two operands** as 128-bit numbers. -/
def Test.compare (t : Test) (value arg : Operand) : Bool := t.holds value.toNat arg.toNat

/-- Whether node `n` matches: its field has a value and the comparison holds. -/
def Node.satisfied (n : Node) (v : PacketView) (a : Address) : Bool :=
  match extract n.field v a with
  | some value => n.test.compare value n.arg
  | none => false

namespace Program

/-- Steps a walk may take before it is cut off. -/
def stepBound : Nat := 257

/-- **Walking from node `i`** with `steps` steps left. -/
def walk (p : Program) (v : PacketView) (a : Address) : Nat → Nat → Bool
  | 0, _ => false
  | steps + 1, i =>
    match p.node? i with
    | none => false
    | some n =>
      match n.next (n.satisfied v a) with
      | .accept => true
      | .reject => false
      | .node j => p.walk v a steps j

/-- **Whether a program accepts a parsed packet** seen at an address. -/
def evaluate (p : Program) (v : PacketView) (a : Address) : Bool := p.walk v a stepBound 0

/-- **Whether a program accepts a packet buffer.** -/
def accepts (p : Program) (b : Bytes) (a : Address) : Bool := p.evaluate (.ofBytes b) a

end Program

end Diversion
