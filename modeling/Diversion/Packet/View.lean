import Diversion.Bytes
import Diversion.Rule.Operand

/-!
# `Diversion.Packet.View` — the headers recognised in a packet buffer

The reader looks at the first byte's high nibble: 4 reads an IPv4 header, 6 an IPv6 header,
anything else nothing. An IP header is recognised only if the buffer is exactly as long as the
header says. After it, by the IP protocol number: ICMP (IPv4 only), ICMPv6 (IPv6 only), TCP or
UDP, each only if its fixed part fits in the rest of the buffer. Every read is guarded by a
length check made before it, so no read falls past the end.

## Contents
- `Ipv4Header`, `Ipv6Header`, `IcmpHeader`, `TcpHeader`, `UdpHeader` with their readers.
- `PacketView`, `PacketView.ofBytes`, and the payload lengths.
-/

namespace Diversion

open Bytes

/-- **An IPv4 header.** -/
structure Ipv4Header where
  hdrLength : Nat
  tos : Nat
  length : Nat
  id : Nat
  df : Bool
  mf : Bool
  fragOff : Nat
  ttl : Nat
  protocol : Nat
  checksum : Nat
  srcAddr : Nat
  dstAddr : Nat
  deriving DecidableEq, Repr

/-- **Reading an IPv4 header**: version 4, at least 20 bytes, a header length of at least five
words that fits, and a total length equal to the buffer's. -/
def Ipv4Header.read? (b : Bytes) : Option Ipv4Header :=
  let ihl := b.byteAt 0 % 16
  if b.length < 20 ∨ b.byteAt 0 / 16 ≠ 4 then none
  else if ihl < 5 ∨ ihl * 4 > b.length ∨ b.be16 2 ≠ b.length then none
  else
    let flagsFrag := b.be16 6
    some {
      hdrLength := ihl
      tos := b.byteAt 1
      length := b.be16 2
      id := b.be16 4
      df := flagsFrag &&& 0x4000 != 0
      mf := flagsFrag &&& 0x2000 != 0
      fragOff := flagsFrag &&& 0x1FFF
      ttl := b.byteAt 8
      protocol := b.byteAt 9
      checksum := b.be16 10
      srcAddr := b.be32 12
      dstAddr := b.be32 16 }

/-- **An IPv6 address as an operand**: 16 octets, the last four in word 0. -/
def addressWords (b : Bytes) (off : Nat) : Operand :=
  ⟨UInt32.ofNat (b.be32 (off + 12)), UInt32.ofNat (b.be32 (off + 8)),
    UInt32.ofNat (b.be32 (off + 4)), UInt32.ofNat (b.be32 off)⟩

/-- **An IPv6 fixed header.** -/
structure Ipv6Header where
  trafficClass : Nat
  flowLabel : Nat
  length : Nat
  nextHdr : Nat
  hopLimit : Nat
  srcAddr : Operand
  dstAddr : Operand
  deriving DecidableEq, Repr

/-- **Reading an IPv6 header**: version 6, at least 40 bytes, and a payload length that makes
up the rest of the buffer exactly. -/
def Ipv6Header.read? (b : Bytes) : Option Ipv6Header :=
  if b.length < 40 ∨ b.byteAt 0 / 16 ≠ 6 then none
  else if b.be16 4 + 40 ≠ b.length then none
  else
    some {
      trafficClass := (b.byteAt 0 % 16) * 16 + b.byteAt 1 / 16
      flowLabel := (b.byteAt 1 % 16) * 65536 + b.be16 2
      length := b.be16 4
      nextHdr := b.byteAt 6
      hopLimit := b.byteAt 7
      srcAddr := addressWords b 8
      dstAddr := addressWords b 24 }

/-- **An ICMP or ICMPv6 header.** -/
structure IcmpHeader where
  type : Nat
  code : Nat
  checksum : Nat
  body : Nat
  deriving DecidableEq, Repr

/-- Reading an ICMP header: eight bytes. -/
def IcmpHeader.read? (b : Bytes) : Option IcmpHeader :=
  if b.length < 8 then none
  else some ⟨b.byteAt 0, b.byteAt 1, b.be16 2, b.be32 4⟩

/-- **A TCP header.** -/
structure TcpHeader where
  srcPort : Nat
  dstPort : Nat
  seqNum : Nat
  ackNum : Nat
  hdrLength : Nat
  urg : Bool
  ack : Bool
  psh : Bool
  rst : Bool
  syn : Bool
  fin : Bool
  window : Nat
  checksum : Nat
  urgPtr : Nat
  deriving DecidableEq, Repr

/-- **Reading a TCP header**: 20 bytes, and a data offset of at least five words that fits. -/
def TcpHeader.read? (b : Bytes) : Option TcpHeader :=
  let doff := b.byteAt 12 / 16
  if b.length < 20 then none
  else if doff < 5 ∨ doff * 4 > b.length then none
  else
    let flags := b.byteAt 13
    some {
      srcPort := b.be16 0
      dstPort := b.be16 2
      seqNum := b.be32 4
      ackNum := b.be32 8
      hdrLength := doff
      urg := flags &&& 0x20 != 0
      ack := flags &&& 0x10 != 0
      psh := flags &&& 0x08 != 0
      rst := flags &&& 0x04 != 0
      syn := flags &&& 0x02 != 0
      fin := flags &&& 0x01 != 0
      window := b.be16 14
      checksum := b.be16 16
      urgPtr := b.be16 18 }

/-- **A UDP header.** -/
structure UdpHeader where
  srcPort : Nat
  dstPort : Nat
  length : Nat
  checksum : Nat
  deriving DecidableEq, Repr

/-- Reading a UDP header: eight bytes. -/
def UdpHeader.read? (b : Bytes) : Option UdpHeader :=
  if b.length < 8 then none
  else some ⟨b.be16 0, b.be16 2, b.be16 4, b.be16 6⟩

/-- **What the reader recognised in a buffer.** At most one IP header, and at most one
transport header after it. -/
structure PacketView where
  ipv4 : Option Ipv4Header := none
  ipv6 : Option Ipv6Header := none
  icmp : Option IcmpHeader := none
  icmpv6 : Option IcmpHeader := none
  tcp : Option TcpHeader := none
  udp : Option UdpHeader := none
  /-- The buffer's length. -/
  totalLen : Nat
  /-- Bytes of IP header before the transport header; 0 without an IP header. -/
  ipHeaderLen : Nat := 0
  deriving DecidableEq, Repr

namespace PacketView

/-- IP protocol numbers the reader follows. -/
def protoIcmp : Nat := 1
/-- TCP's protocol number. -/
def protoTcp : Nat := 6
/-- UDP's protocol number. -/
def protoUdp : Nat := 17
/-- ICMPv6's protocol number. -/
def protoIcmpv6 : Nat := 58

/-- **The transport header after an IP header**, chosen by the protocol number. -/
def withTransport (v : PacketView) (proto : Nat) (rest : Bytes) : PacketView :=
  if proto = protoIcmp ∧ v.ipv4.isSome then { v with icmp := IcmpHeader.read? rest }
  else if proto = protoIcmpv6 ∧ v.ipv6.isSome then { v with icmpv6 := IcmpHeader.read? rest }
  else if proto = protoTcp then { v with tcp := TcpHeader.read? rest }
  else if proto = protoUdp then { v with udp := UdpHeader.read? rest }
  else v

/-- **Reading a packet buffer.** -/
def ofBytes (b : Bytes) : PacketView :=
  let empty : PacketView := { totalLen := b.length }
  match b with
  | [] => empty
  | b0 :: _ =>
    if b0.toNat / 16 = 4 then
      match Ipv4Header.read? b with
      | some ip =>
        let v := { empty with ipv4 := some ip, ipHeaderLen := ip.hdrLength * 4 }
        v.withTransport ip.protocol (b.drop v.ipHeaderLen)
      | none => empty
    else if b0.toNat / 16 = 6 then
      match Ipv6Header.read? b with
      | some ip =>
        let v := { empty with ipv6 := some ip, ipHeaderLen := 40 }
        v.withTransport ip.nextHdr (b.drop 40)
      | none => empty
    else empty

/-- Bytes after the TCP header, if there is one. -/
def tcpPayloadLen (v : PacketView) : Option Nat :=
  v.tcp.map fun t => v.totalLen - v.ipHeaderLen - t.hdrLength * 4

/-- Bytes after the UDP header, if there is one. -/
def udpPayloadLen (v : PacketView) : Option Nat :=
  v.udp.map fun _ => v.totalLen - v.ipHeaderLen - 8

end PacketView

end Diversion
