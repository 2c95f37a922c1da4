import Diversion.Proofs.Parse

/-!
# `Proofs.FieldValues` — every value the interpreter reads is one the compiler admits

A rule's argument passes the compiler only if word 0 is at most the field's bound and, for a
narrow field, the three upper words are zero. The field values `extract` reads from a parsed
packet satisfy the same two conditions, so a comparison always sets a packet's value against an
argument of the same domain.

The bounds come from how the reader reads: every header field is a byte, a nibble, a 16-bit word
or a masked part of one, which `Ipv4Header.Fits` and its siblings record for each header the
reader returns (`Ipv4Header.read?_fits`, …). The two payload lengths are differences, and stay
within 16 bits only because the reader requires the IP length fields to match the buffer
(`PacketView.ofBytes_room`). A view all of whose parts fit (`PacketView.Fits`, true of every
buffer by `PacketView.ofBytes_fits`) gives values within bounds, one group of fields per header
(`extract_le_maxArg`). The upper words are zero on every view (`extract_narrow`), and a value is
missing exactly when its header is (`extract_eq_none_iff`).
-/

namespace Diversion

open Bytes

/-! ## Headers whose fields fit their widths

Fields read as 32-bit words are left out: an operand's word holds any of them. -/

/-- **An IPv4 header as the reader builds it.** -/
structure Ipv4Header.Fits (h : Ipv4Header) : Prop where
  hdrLength : h.hdrLength < 16
  tos : h.tos < 256
  length : h.length < 65536
  id : h.id < 65536
  fragOff : h.fragOff ≤ 8191
  ttl : h.ttl < 256
  protocol : h.protocol < 256
  checksum : h.checksum < 65536

/-- **An IPv6 header as the reader builds it.** -/
structure Ipv6Header.Fits (h : Ipv6Header) : Prop where
  trafficClass : h.trafficClass < 256
  flowLabel : h.flowLabel < 1048576
  length : h.length < 65536
  nextHdr : h.nextHdr < 256
  hopLimit : h.hopLimit < 256

/-- **An ICMP or ICMPv6 header as the reader builds it.** -/
structure IcmpHeader.Fits (h : IcmpHeader) : Prop where
  type : h.type < 256
  code : h.code < 256
  checksum : h.checksum < 65536

/-- **A TCP header as the reader builds it.** -/
structure TcpHeader.Fits (h : TcpHeader) : Prop where
  srcPort : h.srcPort < 65536
  dstPort : h.dstPort < 65536
  hdrLength : h.hdrLength < 16
  window : h.window < 65536
  checksum : h.checksum < 65536
  urgPtr : h.urgPtr < 65536

/-- **A UDP header as the reader builds it.** -/
structure UdpHeader.Fits (h : UdpHeader) : Prop where
  srcPort : h.srcPort < 65536
  dstPort : h.dstPort < 65536
  length : h.length < 65536
  checksum : h.checksum < 65536

/-- **A view whose every header fits**, and whose payload lengths are 16-bit numbers. -/
structure PacketView.Fits (v : PacketView) : Prop where
  ipv4 : ∀ h ∈ v.ipv4, h.Fits
  ipv6 : ∀ h ∈ v.ipv6, h.Fits
  icmp : ∀ h ∈ v.icmp, h.Fits
  icmpv6 : ∀ h ∈ v.icmpv6, h.Fits
  tcp : ∀ h ∈ v.tcp, h.Fits
  udp : ∀ h ∈ v.udp, h.Fits
  tcpPayloadLen : ∀ n ∈ v.tcpPayloadLen, n < 65536
  udpPayloadLen : ∀ n ∈ v.udpPayloadLen, n < 65536

/-! ## The readers build fitting headers -/

theorem Ipv4Header.read?_fits {b : Bytes} {h : Ipv4Header} (hr : read? b = some h) : h.Fits := by
  unfold read? at hr
  simp only at hr
  split_ifs at hr
  cases hr
  exact ⟨by dsimp only; omega, byteAt_lt b 1, be16_lt b 2, be16_lt b 4, Nat.and_le_right,
    byteAt_lt b 8, byteAt_lt b 9, be16_lt b 10⟩

theorem Ipv6Header.read?_fits {b : Bytes} {h : Ipv6Header} (hr : read? b = some h) : h.Fits := by
  unfold read? at hr
  split_ifs at hr
  cases hr
  have h0 := byteAt_lt b 0
  have h1 := byteAt_lt b 1
  have h2 := be16_lt b 2
  exact ⟨by dsimp only; omega, by dsimp only; omega, be16_lt b 4, byteAt_lt b 6, byteAt_lt b 7⟩

theorem IcmpHeader.read?_fits {b : Bytes} {h : IcmpHeader} (hr : read? b = some h) : h.Fits := by
  unfold read? at hr
  split_ifs at hr
  cases hr
  exact ⟨byteAt_lt b 0, byteAt_lt b 1, be16_lt b 2⟩

theorem TcpHeader.read?_fits {b : Bytes} {h : TcpHeader} (hr : read? b = some h) : h.Fits := by
  unfold read? at hr
  simp only at hr
  split_ifs at hr
  cases hr
  have h12 := byteAt_lt b 12
  exact ⟨be16_lt b 0, be16_lt b 2, by dsimp only; omega, be16_lt b 14, be16_lt b 16,
    be16_lt b 18⟩

theorem UdpHeader.read?_fits {b : Bytes} {h : UdpHeader} (hr : read? b = some h) : h.Fits := by
  unfold read? at hr
  split_ifs at hr
  cases hr
  exact ⟨be16_lt b 0, be16_lt b 2, be16_lt b 4, be16_lt b 6⟩

namespace PacketView

/-- **Every transport header of a buffer is read from the bytes after its IP header.** -/
theorem ofBytes_transport_read (b : Bytes) :
    let rest := b.drop (ipLayer b).ipHeaderLen
    (∀ h ∈ (ofBytes b).icmp, IcmpHeader.read? rest = some h) ∧
    (∀ h ∈ (ofBytes b).icmpv6, IcmpHeader.read? rest = some h) ∧
    (∀ h ∈ (ofBytes b).tcp, TcpHeader.read? rest = some h) ∧
    (∀ h ∈ (ofBytes b).udp, UdpHeader.read? rest = some h) := by
  intro rest
  rw [ofBytes_eq_layers]
  split_ifs
  · -- the IP layer has no transport header, so each one the transport layer has, it read
    simp only [withTransport_icmp, withTransport_icmpv6, withTransport_tcp, withTransport_udp]
    refine ⟨fun h hh => ?_, fun h hh => ?_, fun h hh => ?_, fun h hh => ?_⟩ <;>
      split_ifs at hh <;> simp_all [ipLayer, rest]
  · simp [ipLayer]

/-- **Behind an IP header the buffer holds at most 65535 bytes**: the IPv4 total length and the
    IPv6 payload length are 16-bit fields that the reader requires to match the buffer. -/
theorem ofBytes_room (b : Bytes) (hip : (ofBytes b).ipv4.isSome ∨ (ofBytes b).ipv6.isSome) :
    (ofBytes b).totalLen - (ofBytes b).ipHeaderLen < 65536 := by
  obtain ⟨-, hlen, hv4, hv6, hhdr, -⟩ := ofBytes_recognises_exactly b
  rw [hlen]
  by_cases h4 : (ofBytes b).ipv4.isSome
  · have := be16_lt b 2
    have := (hv4.mp h4).2.2.2.2
    omega
  · have h6 := hip.resolve_left h4
    have := be16_lt b 4
    have := (hv6.mp h6).2.2
    rw [hhdr, if_neg h4, if_pos h6]
    omega

/-- **Every buffer reads to a fitting view.** -/
theorem ofBytes_fits (b : Bytes) : (ofBytes b).Fits := by
  obtain ⟨hicmp, hicmpv6, htcp, hudp⟩ := ofBytes_transport_read b
  obtain ⟨-, -, -, -, -, -, -, htcp', hudp', -⟩ := ofBytes_recognises_exactly b
  refine ⟨fun h hh => ?_, fun h hh => ?_, fun h hh => ?_, fun h hh => ?_, fun h hh => ?_,
    fun h hh => ?_, fun n hn => ?_, fun n hn => ?_⟩
  · rw [Option.mem_def, ofBytes_ipv4] at hh
    exact Ipv4Header.read?_fits hh
  · rw [Option.mem_def, ofBytes_ipv6] at hh
    exact Ipv6Header.read?_fits hh
  · exact IcmpHeader.read?_fits (hicmp h hh)
  · exact IcmpHeader.read?_fits (hicmpv6 h hh)
  · exact TcpHeader.read?_fits (htcp h hh)
  · exact UdpHeader.read?_fits (hudp h hh)
  · -- a payload length is what is left after the IP header, less the transport header
    simp only [tcpPayloadLen, Option.mem_def, Option.map_eq_some_iff] at hn
    obtain ⟨t, ht, rfl⟩ := hn
    have hroom := ofBytes_room b (htcp'.mp (by simp [ht])).1
    omega
  · simp only [udpPayloadLen, Option.mem_def, Option.map_eq_some_iff] at hn
    obtain ⟨u, hu, rfl⟩ := hn
    have hroom := ofBytes_room b (hudp'.mp (by simp [hu])).1
    omega

end PacketView

/-! ## Field values within the argument domain -/

namespace Operand

@[simp] theorem ofWord_w0 (n : Nat) : (ofWord n).w0.toNat = n % 4294967296 := by
  simp [ofWord]

theorem ofBool_w0_le (b : Bool) : (ofBool b).w0.toNat ≤ 1 := by
  cases b <;> decide

theorem ofWord_upperZero (n : Nat) : (ofWord n).UpperZero := ⟨rfl, rfl, rfl⟩

end Operand

/-- **A value is at most its field's bound** on a fitting view. The fields split by the header
    they are read from, and each group is bounded by that header's `Fits`. -/
theorem extract_le_maxArg {v : PacketView} (hv : v.Fits) (f : Field) (a : Address) {w : Operand}
    (h : extract f v a = some w) : w.w0.toNat ≤ f.maxArg := by
  cases f <;> simp only [extract, Option.map_eq_some_iff, Option.some.injEq] at h
  -- metadata and presence flags: a flag, or any 32-bit value
  case zero | inbound | outbound | ifIdx | subIfIdx | ip | ipv6 | icmp | icmpv6 | tcp | udp =>
    subst h
    simp [Field.maxArg, Field.info, Field.u32Max, Operand.ofBool_w0_le] <;> omega
  case ipHdrLength | ipTos | ipLength | ipId | ipDf | ipMf | ipFragOff | ipTtl | ipProtocol
      | ipChecksum | ipSrcAddr | ipDstAddr =>
    obtain ⟨x, hx, rfl⟩ := h
    obtain ⟨_, _, _, _, _, _, _, _⟩ := hv.ipv4 x hx
    simp [Field.maxArg, Field.info, Field.u32Max, Operand.ofBool_w0_le] <;> omega
  case ipv6TrafficClass | ipv6FlowLabel | ipv6Length | ipv6NextHdr | ipv6HopLimit =>
    obtain ⟨x, hx, rfl⟩ := h
    obtain ⟨_, _, _, _, _⟩ := hv.ipv6 x hx
    simp [Field.maxArg, Field.info]
    omega
  -- an IPv6 address is a whole operand, and its word 0 any 32-bit value
  case ipv6SrcAddr | ipv6DstAddr =>
    obtain ⟨x, hx, rfl⟩ := h
    exact Nat.le_of_lt_succ (UInt32.toNat_lt _)
  case icmpType | icmpCode | icmpChecksum | icmpBody =>
    obtain ⟨x, hx, rfl⟩ := h
    obtain ⟨_, _, _⟩ := hv.icmp x hx
    simp [Field.maxArg, Field.info, Field.u32Max]
    omega
  case icmpv6Type | icmpv6Code | icmpv6Checksum | icmpv6Body =>
    obtain ⟨x, hx, rfl⟩ := h
    obtain ⟨_, _, _⟩ := hv.icmpv6 x hx
    simp [Field.maxArg, Field.info, Field.u32Max]
    omega
  case tcpSrcPort | tcpDstPort | tcpSeqNum | tcpAckNum | tcpHdrLength | tcpUrg | tcpAck | tcpPsh
      | tcpRst | tcpSyn | tcpFin | tcpWindow | tcpChecksum | tcpUrgPtr =>
    obtain ⟨x, hx, rfl⟩ := h
    obtain ⟨_, _, _, _, _, _⟩ := hv.tcp x hx
    simp [Field.maxArg, Field.info, Field.u32Max, Operand.ofBool_w0_le] <;> omega
  case udpSrcPort | udpDstPort | udpLength | udpChecksum =>
    obtain ⟨x, hx, rfl⟩ := h
    obtain ⟨_, _, _, _⟩ := hv.udp x hx
    simp [Field.maxArg, Field.info]
    omega
  -- the payload lengths, which fit by the IP length checks
  case tcpPayloadLength =>
    obtain ⟨n, hn, rfl⟩ := h
    have := hv.tcpPayloadLen n hn
    simp [Field.maxArg, Field.info]
    omega
  case udpPayloadLength =>
    obtain ⟨n, hn, rfl⟩ := h
    have := hv.udpPayloadLen n hn
    simp [Field.maxArg, Field.info]
    omega

/-- **The upper words of a narrow field's value are zero**, on every view: only the IPv6
    addresses fill all four words. -/
theorem extract_narrow (f : Field) (v : PacketView) (a : Address) {w : Operand}
    (h : extract f v a = some w) : f = .ipv6SrcAddr ∨ f = .ipv6DstAddr ∨ w.UpperZero := by
  cases f <;> simp only [extract, Option.map_eq_some_iff, Option.some.injEq] at h
  case ipv6SrcAddr => exact .inl rfl
  case ipv6DstAddr => exact .inr (.inl rfl)
  case zero | inbound | outbound | ifIdx | subIfIdx | ip | ipv6 | icmp | icmpv6 | tcp | udp =>
    subst h
    exact .inr (.inr (Operand.ofWord_upperZero _))
  -- every header field but the addresses is a number or a flag in word 0
  all_goals
    obtain ⟨_, _, rfl⟩ := h
    exact .inr (.inr (Operand.ofWord_upperZero _))

/-- **Every value the interpreter reads lies in the domain the compiler admits**, and is missing
    exactly when its header is. For every buffer, address and field: the field has no value
    exactly when it needs a header and the reader found none; a value it has is at most the
    field's bound in word 0, and has zero upper words unless the field is an IPv6 address. -/
theorem extract_within_compiler_domain (b : Bytes) (a : Address) (f : Field) :
    let v := PacketView.ofBytes b
    (extract f v a = none ↔ f.protocol ≠ .none ∧ v.carries f.protocol = false) ∧
      ∀ w, extract f v a = some w →
        w.w0.toNat ≤ f.maxArg ∧ (f = .ipv6SrcAddr ∨ f = .ipv6DstAddr ∨ w.UpperZero) := by
  intro v
  exact ⟨extract_eq_none_iff f v a, fun w h =>
    ⟨extract_le_maxArg (PacketView.ofBytes_fits b) f a h, extract_narrow f v a h⟩⟩

end Diversion
