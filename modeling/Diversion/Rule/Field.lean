/-!
# `Diversion.Rule.Field` — the packet fields a rule can test

Fields are numbered 0 to 57 on the wire. Each belongs to a header (`Protocol`): a field of a
header that the packet lacks has no value, and the rule falls to its mismatch branch. Every
field has a display name (`tcp.DstPort`), a key for JSON rule lists (`tcp_dst_port`), a largest
admissible argument, and is narrow (one 32-bit word) unless it is an IPv6 address.

## Contents
- `Protocol`: the header a field belongs to, with codes 0 to 6.
- `Field`, `Field.all` (in code order), `Field.code`, `Field.ofCode?`.
- `Field.info`: one table row per field — display name, JSON key, header, bound, width.
-/

namespace Diversion

/-- **The header a field belongs to**; `none` for metadata and presence flags. -/
inductive Protocol
  | none
  | ipv4
  | ipv6
  | icmp
  | icmpv6
  | tcp
  | udp
  deriving DecidableEq, Repr, Inhabited

namespace Protocol

/-- All headers in code order. -/
def all : List Protocol := [none, ipv4, ipv6, icmp, icmpv6, tcp, udp]

/-- The header's number, 0 to 6. -/
def code : Protocol → Nat
  | none => 0
  | ipv4 => 1
  | ipv6 => 2
  | icmp => 3
  | icmpv6 => 4
  | tcp => 5
  | udp => 6

/-- The header with number `n`, if `n ≤ 6`. -/
def ofCode? (n : Nat) : Option Protocol := all[n]?

/-- The header's name as reports spell it. -/
def name : Protocol → String
  | none => "None"
  | ipv4 => "Ipv4"
  | ipv6 => "Ipv6"
  | icmp => "Icmp"
  | icmpv6 => "Icmpv6"
  | tcp => "Tcp"
  | udp => "Udp"

theorem ofCode?_code (p : Protocol) : ofCode? p.code = some p := by
  cases p <;> rfl

end Protocol

/-- **A testable field.** Constructors are in wire-code order. -/
inductive Field
  | zero | inbound | outbound | ifIdx | subIfIdx
  | ip | ipv6 | icmp | icmpv6 | tcp | udp
  | ipHdrLength | ipTos | ipLength | ipId | ipDf | ipMf | ipFragOff | ipTtl | ipProtocol
  | ipChecksum | ipSrcAddr | ipDstAddr
  | ipv6TrafficClass | ipv6FlowLabel | ipv6Length | ipv6NextHdr | ipv6HopLimit
  | ipv6SrcAddr | ipv6DstAddr
  | icmpType | icmpCode | icmpChecksum | icmpBody
  | icmpv6Type | icmpv6Code | icmpv6Checksum | icmpv6Body
  | tcpSrcPort | tcpDstPort | tcpSeqNum | tcpAckNum | tcpHdrLength
  | tcpUrg | tcpAck | tcpPsh | tcpRst | tcpSyn | tcpFin
  | tcpWindow | tcpChecksum | tcpUrgPtr | tcpPayloadLength
  | udpSrcPort | udpDstPort | udpLength | udpChecksum | udpPayloadLength
  deriving DecidableEq, Repr, Inhabited

/-- **One row of the field table.** -/
structure FieldInfo where
  /-- Name in program text and reports, e.g. `tcp.DstPort`. -/
  display : String
  /-- Key in JSON rule lists, e.g. `tcp_dst_port`. -/
  key : String
  /-- The header whose presence the field needs. -/
  protocol : Protocol
  /-- The largest argument word 0 may hold. -/
  maxArg : Nat
  /-- Whether the field is a full 128-bit value (the IPv6 addresses). -/
  wide : Bool := false

namespace Field

/-- The largest 32-bit value. -/
def u32Max : Nat := 4294967295

/-- **The field table.** -/
def info : Field → FieldInfo
  | zero => ⟨"zero", "zero", .none, 1, false⟩
  | inbound => ⟨"inbound", "inbound", .none, 1, false⟩
  | outbound => ⟨"outbound", "outbound", .none, 1, false⟩
  | ifIdx => ⟨"ifIdx", "if_idx", .none, u32Max, false⟩
  | subIfIdx => ⟨"subIfIdx", "sub_if_idx", .none, u32Max, false⟩
  | ip => ⟨"ip", "ip", .none, 1, false⟩
  | ipv6 => ⟨"ipv6", "ipv6", .none, 1, false⟩
  | icmp => ⟨"icmp", "icmp", .none, 1, false⟩
  | icmpv6 => ⟨"icmpv6", "icmpv6", .none, 1, false⟩
  | tcp => ⟨"tcp", "tcp", .none, 1, false⟩
  | udp => ⟨"udp", "udp", .none, 1, false⟩
  | ipHdrLength => ⟨"ip.HdrLength", "ip_hdr_length", .ipv4, 15, false⟩
  | ipTos => ⟨"ip.TOS", "ip_tos", .ipv4, 65535, false⟩
  | ipLength => ⟨"ip.Length", "ip_length", .ipv4, 65535, false⟩
  | ipId => ⟨"ip.Id", "ip_id", .ipv4, 65535, false⟩
  | ipDf => ⟨"ip.DF", "ip_df", .ipv4, 1, false⟩
  | ipMf => ⟨"ip.MF", "ip_mf", .ipv4, 1, false⟩
  | ipFragOff => ⟨"ip.FragOff", "ip_frag_off", .ipv4, 8191, false⟩
  | ipTtl => ⟨"ip.TTL", "ip_ttl", .ipv4, 255, false⟩
  | ipProtocol => ⟨"ip.Protocol", "ip_protocol", .ipv4, 255, false⟩
  | ipChecksum => ⟨"ip.Checksum", "ip_checksum", .ipv4, 65535, false⟩
  | ipSrcAddr => ⟨"ip.SrcAddr", "ip_src_addr", .ipv4, u32Max, false⟩
  | ipDstAddr => ⟨"ip.DstAddr", "ip_dst_addr", .ipv4, u32Max, false⟩
  | ipv6TrafficClass => ⟨"ipv6.TrafficClass", "ipv6_traffic_class", .ipv6, 255, false⟩
  | ipv6FlowLabel => ⟨"ipv6.FlowLabel", "ipv6_flow_label", .ipv6, 1048575, false⟩
  | ipv6Length => ⟨"ipv6.Length", "ipv6_length", .ipv6, 65535, false⟩
  | ipv6NextHdr => ⟨"ipv6.NextHdr", "ipv6_next_hdr", .ipv6, 255, false⟩
  | ipv6HopLimit => ⟨"ipv6.HopLimit", "ipv6_hop_limit", .ipv6, 255, false⟩
  | ipv6SrcAddr => ⟨"ipv6.SrcAddr", "ipv6_src_addr", .ipv6, u32Max, true⟩
  | ipv6DstAddr => ⟨"ipv6.DstAddr", "ipv6_dst_addr", .ipv6, u32Max, true⟩
  | icmpType => ⟨"icmp.Type", "icmp_type", .icmp, 255, false⟩
  | icmpCode => ⟨"icmp.Code", "icmp_code", .icmp, 255, false⟩
  | icmpChecksum => ⟨"icmp.Checksum", "icmp_checksum", .icmp, 65535, false⟩
  | icmpBody => ⟨"icmp.Body", "icmp_body", .icmp, u32Max, false⟩
  | icmpv6Type => ⟨"icmpv6.Type", "icmpv6_type", .icmpv6, 255, false⟩
  | icmpv6Code => ⟨"icmpv6.Code", "icmpv6_code", .icmpv6, 255, false⟩
  | icmpv6Checksum => ⟨"icmpv6.Checksum", "icmpv6_checksum", .icmpv6, 65535, false⟩
  | icmpv6Body => ⟨"icmpv6.Body", "icmpv6_body", .icmpv6, u32Max, false⟩
  | tcpSrcPort => ⟨"tcp.SrcPort", "tcp_src_port", .tcp, 65535, false⟩
  | tcpDstPort => ⟨"tcp.DstPort", "tcp_dst_port", .tcp, 65535, false⟩
  | tcpSeqNum => ⟨"tcp.SeqNum", "tcp_seq_num", .tcp, u32Max, false⟩
  | tcpAckNum => ⟨"tcp.AckNum", "tcp_ack_num", .tcp, u32Max, false⟩
  | tcpHdrLength => ⟨"tcp.HdrLength", "tcp_hdr_length", .tcp, 15, false⟩
  | tcpUrg => ⟨"tcp.Urg", "tcp_urg", .tcp, 1, false⟩
  | tcpAck => ⟨"tcp.Ack", "tcp_ack", .tcp, 1, false⟩
  | tcpPsh => ⟨"tcp.Psh", "tcp_psh", .tcp, 1, false⟩
  | tcpRst => ⟨"tcp.Rst", "tcp_rst", .tcp, 1, false⟩
  | tcpSyn => ⟨"tcp.Syn", "tcp_syn", .tcp, 1, false⟩
  | tcpFin => ⟨"tcp.Fin", "tcp_fin", .tcp, 1, false⟩
  | tcpWindow => ⟨"tcp.Window", "tcp_window", .tcp, 65535, false⟩
  | tcpChecksum => ⟨"tcp.Checksum", "tcp_checksum", .tcp, 65535, false⟩
  | tcpUrgPtr => ⟨"tcp.UrgPtr", "tcp_urg_ptr", .tcp, 65535, false⟩
  | tcpPayloadLength => ⟨"tcp.PayloadLength", "tcp_payload_length", .tcp, 65535, false⟩
  | udpSrcPort => ⟨"udp.SrcPort", "udp_src_port", .udp, 65535, false⟩
  | udpDstPort => ⟨"udp.DstPort", "udp_dst_port", .udp, 65535, false⟩
  | udpLength => ⟨"udp.Length", "udp_length", .udp, 65535, false⟩
  | udpChecksum => ⟨"udp.Checksum", "udp_checksum", .udp, 65535, false⟩
  | udpPayloadLength => ⟨"udp.PayloadLength", "udp_payload_length", .udp, 65535, false⟩

/-- **Every field, in wire-code order.** -/
def all : List Field :=
  [zero, inbound, outbound, ifIdx, subIfIdx, ip, ipv6, icmp, icmpv6, tcp, udp,
   ipHdrLength, ipTos, ipLength, ipId, ipDf, ipMf, ipFragOff, ipTtl, ipProtocol, ipChecksum,
   ipSrcAddr, ipDstAddr, ipv6TrafficClass, ipv6FlowLabel, ipv6Length, ipv6NextHdr, ipv6HopLimit,
   ipv6SrcAddr, ipv6DstAddr, icmpType, icmpCode, icmpChecksum, icmpBody, icmpv6Type, icmpv6Code,
   icmpv6Checksum, icmpv6Body, tcpSrcPort, tcpDstPort, tcpSeqNum, tcpAckNum, tcpHdrLength,
   tcpUrg, tcpAck, tcpPsh, tcpRst, tcpSyn, tcpFin, tcpWindow, tcpChecksum, tcpUrgPtr,
   tcpPayloadLength, udpSrcPort, udpDstPort, udpLength, udpChecksum, udpPayloadLength]

/-- The field's wire code: its position in `all`. -/
def code (f : Field) : Nat := all.idxOf f

/-- **The field with wire code `n`**, if `n ≤ 57`. -/
def ofCode? (n : Nat) : Option Field := all[n]?

/-- Name in program text. -/
def display (f : Field) : String := f.info.display

/-- Key in JSON rule lists. -/
def key (f : Field) : String := f.info.key

/-- The header the field needs. -/
def protocol (f : Field) : Protocol := f.info.protocol

/-- Largest admissible argument word 0. -/
def maxArg (f : Field) : Nat := f.info.maxArg

/-- Whether the field takes a full 128-bit argument. -/
def wide (f : Field) : Bool := f.info.wide

/-- The field whose JSON key is `s`. -/
def ofKey? (s : String) : Option Field := all.find? (·.key == s)

@[simp] theorem all_length : all.length = 58 := rfl

theorem ofCode?_code (f : Field) : ofCode? f.code = some f := by
  cases f <;> rfl

theorem ofCode?_isSome_iff (n : Nat) : (ofCode? n).isSome ↔ n < 58 := by
  simp [ofCode?]

end Field

end Diversion
