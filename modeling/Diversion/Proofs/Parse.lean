import Mathlib.Tactic.SplitIfs
import Diversion.Proofs.Reach

/-!
# `Proofs.Parse` — the packet reader stays in bounds and recognises exactly its headers

`PacketView.ofBytes` reads fields with the total `Bytes.byteAt`, which answers 0 past the end of
the buffer, so the model cannot fault. To say that the reader never needs that default, every
reader is written out a second time with each read and each slice checked against the bytes it
indexes (`Bytes.byteAt?`, `Bytes.be16?`, `Bytes.be32?`, `Bytes.from?`, `Bytes.slice?`: `none` is a
read past the end), in the order the reader makes them; each checked reader returns `some` of the
model's answer on every buffer (`PacketView.readChecked_eq`).

The reader then factors into two layers (`PacketView.ofBytes_eq_layers`): the IP header
(`ipLayer`), and, when there is one, the transport header chosen by its protocol number
(`withTransport`). Each layer is characterised by the bytes it tests, which gives the main
statement `PacketView.ofBytes_recognises_exactly`.
-/

namespace Diversion

/-! ## Reads checked against the buffer -/

namespace Bytes

/-- The byte at `i`, or `none` past the end. -/
def byteAt? (b : Bytes) (i : Nat) : Option Nat := b[i]?.map UInt8.toNat

/-- The big-endian word at `i`, read byte by byte. -/
def be16? (b : Bytes) (i : Nat) : Option Nat := do
  let hi ← b.byteAt? i
  let lo ← b.byteAt? (i + 1)
  pure (hi * 256 + lo)

/-- The big-endian 32-bit word at `i`, read as two words. -/
def be32? (b : Bytes) (i : Nat) : Option Nat := do
  let hi ← b.be16? i
  let lo ← b.be16? (i + 2)
  pure (hi * 65536 + lo)

/-- The bytes from `n` on, or `none` when `n` is past the end. -/
def from? (b : Bytes) (n : Nat) : Option Bytes := if n ≤ b.length then some (b.drop n) else none

/-- The bytes from `lo` up to `hi`, or `none` when that range is not inside the buffer. -/
def slice? (b : Bytes) (lo hi : Nat) : Option Bytes :=
  if lo ≤ hi ∧ hi ≤ b.length then some ((b.drop lo).take (hi - lo)) else none

theorem byteAt?_of_lt {b : Bytes} {i : Nat} (h : i < b.length) :
    b.byteAt? i = some (b.byteAt i) := by
  simp [byteAt?, byteAt, List.getD_eq_getElem?_getD, List.getElem?_eq_getElem h]

theorem be16?_of_lt {b : Bytes} {i : Nat} (h : i + 1 < b.length) :
    b.be16? i = some (b.be16 i) := by
  simp [be16?, be16, byteAt?_of_lt h, byteAt?_of_lt (show i < b.length by omega)]

theorem be32?_of_lt {b : Bytes} {i : Nat} (h : i + 3 < b.length) :
    b.be32? i = some (b.be32 i) := by
  simp [be32?, be32, be16?_of_lt h, be16?_of_lt (show i + 1 < b.length by omega)]

theorem from?_of_le {b : Bytes} {n : Nat} (h : n ≤ b.length) : b.from? n = some (b.drop n) :=
  if_pos h

theorem slice?_of_le {b : Bytes} {lo hi : Nat} (h : lo ≤ hi) (h' : hi ≤ b.length) :
    b.slice? lo hi = some ((b.drop lo).take (hi - lo)) :=
  if_pos ⟨h, h'⟩

theorem byteAt_drop (b : Bytes) (n i : Nat) : byteAt (b.drop n) i = b.byteAt (n + i) := by
  simp [byteAt, List.getD_eq_getElem?_getD, List.getElem?_drop]

theorem byteAt_take_of_lt (b : Bytes) {n i : Nat} (h : i < n) :
    byteAt (b.take n) i = b.byteAt i := by
  simp [byteAt, List.getD_eq_getElem?_getD, h]

theorem be32_window (b : Bytes) {off n i : Nat} (h : i + 3 < n) :
    be32 ((b.drop off).take n) i = b.be32 (off + i) := by
  simp only [be32, be16, byteAt_take_of_lt _ (show i < n by omega),
    byteAt_take_of_lt _ (show i + 1 < n by omega), byteAt_take_of_lt _ (show i + 2 < n by omega),
    byteAt_take_of_lt _ (show i + 2 + 1 < n by omega), byteAt_drop, Nat.add_assoc]

end Bytes

open Bytes

/-! ## The readers with every read checked

Each checked reader makes the reads of its model reader, in the same order and behind the same
guards; the outer `none` is a read past the end, the inner one a header that is absent. -/

/-- The four words of an IPv6 address, read from its 16-byte slice. -/
def addressWords? (octets : Bytes) : Option Operand := do
  let w0 ← octets.be32? 12
  let w1 ← octets.be32? 8
  let w2 ← octets.be32? 4
  let w3 ← octets.be32? 0
  pure ⟨UInt32.ofNat w0, UInt32.ofNat w1, UInt32.ofNat w2, UInt32.ofNat w3⟩

theorem addressWords?_window {b : Bytes} {off : Nat} (h : off + 16 ≤ b.length) :
    addressWords? ((b.drop off).take 16) = some (addressWords b off) := by
  have hlen : ((b.drop off).take 16).length = 16 := by simp; omega
  have hw (i : Nat) (hi : i + 3 < 16) :
      be32? ((b.drop off).take 16) i = some (b.be32 (off + i)) := by
    rw [be32?_of_lt (show i + 3 < ((b.drop off).take 16).length by omega), be32_window _ hi]
  simp only [addressWords?, hw 12 (by omega), hw 8 (by omega), hw 4 (by omega), hw 0 (by omega),
    Option.bind_eq_bind, Option.bind_some, Nat.add_zero]
  rfl

/-- `Ipv4Header.read?` with its reads checked. -/
def Ipv4Header.readChecked (b : Bytes) : Option (Option Ipv4Header) :=
  if b.length < 20 then some none
  else do
    let b0 ← b.byteAt? 0
    if b0 / 16 ≠ 4 then pure none
    else
      let length ← b.be16? 2
      if b0 % 16 < 5 ∨ b0 % 16 * 4 > b.length ∨ length ≠ b.length then pure none
      else
        let flagsFrag ← b.be16? 6
        let tos ← b.byteAt? 1
        let id ← b.be16? 4
        let ttl ← b.byteAt? 8
        let protocol ← b.byteAt? 9
        let checksum ← b.be16? 10
        let srcAddr ← b.be32? 12
        let dstAddr ← b.be32? 16
        pure (some {
          hdrLength := b0 % 16
          tos := tos
          length := length
          id := id
          df := flagsFrag &&& 0x4000 != 0
          mf := flagsFrag &&& 0x2000 != 0
          fragOff := flagsFrag &&& 0x1FFF
          ttl := ttl
          protocol := protocol
          checksum := checksum
          srcAddr := srcAddr
          dstAddr := dstAddr })

theorem Ipv4Header.readChecked_eq (b : Bytes) : readChecked b = some (read? b) := by
  unfold readChecked read?
  by_cases h20 : b.length < 20
  · simp [h20]
  · simp (disch := omega) only [h20, if_false, byteAt?_of_lt, be16?_of_lt, be32?_of_lt,
      Option.bind_eq_bind, Option.bind_some, false_or]
    split_ifs <;> rfl

/-- `Ipv6Header.read?` with its reads checked; the addresses are read from their slices. -/
def Ipv6Header.readChecked (b : Bytes) : Option (Option Ipv6Header) :=
  if b.length < 40 then some none
  else do
    let b0 ← b.byteAt? 0
    if b0 / 16 ≠ 6 then pure none
    else
      let length ← b.be16? 4
      if length + 40 ≠ b.length then pure none
      else
        let b1 ← b.byteAt? 1
        let flow ← b.be16? 2
        let nextHdr ← b.byteAt? 6
        let hopLimit ← b.byteAt? 7
        let srcAddr ← addressWords? (← b.slice? 8 24)
        let dstAddr ← addressWords? (← b.slice? 24 40)
        pure (some {
          trafficClass := (b0 % 16) * 16 + b1 / 16
          flowLabel := (b1 % 16) * 65536 + flow
          length := length
          nextHdr := nextHdr
          hopLimit := hopLimit
          srcAddr := srcAddr
          dstAddr := dstAddr })

theorem Ipv6Header.readChecked_eq (b : Bytes) : readChecked b = some (read? b) := by
  unfold readChecked read?
  by_cases h40 : b.length < 40
  · simp [h40]
  · simp (disch := omega) only [h40, if_false, byteAt?_of_lt, be16?_of_lt, slice?_of_le,
      Nat.reduceSub, addressWords?_window, Option.bind_eq_bind, Option.bind_some, false_or]
    split_ifs <;> rfl

/-- `IcmpHeader.read?` with its reads checked. -/
def IcmpHeader.readChecked (b : Bytes) : Option (Option IcmpHeader) :=
  if b.length < 8 then some none
  else do
    let type ← b.byteAt? 0
    let code ← b.byteAt? 1
    let checksum ← b.be16? 2
    let body ← b.be32? 4
    pure (some ⟨type, code, checksum, body⟩)

theorem IcmpHeader.readChecked_eq (b : Bytes) : readChecked b = some (read? b) := by
  unfold readChecked read?
  by_cases h8 : b.length < 8
  · simp [h8]
  · simp (disch := omega) only [h8, if_false, byteAt?_of_lt, be16?_of_lt, be32?_of_lt,
      Option.bind_eq_bind, Option.bind_some]
    rfl

/-- `TcpHeader.read?` with its reads checked. -/
def TcpHeader.readChecked (b : Bytes) : Option (Option TcpHeader) :=
  if b.length < 20 then some none
  else do
    let doff := (← b.byteAt? 12) / 16
    if doff < 5 ∨ doff * 4 > b.length then pure none
    else
      let flags ← b.byteAt? 13
      let srcPort ← b.be16? 0
      let dstPort ← b.be16? 2
      let seqNum ← b.be32? 4
      let ackNum ← b.be32? 8
      let window ← b.be16? 14
      let checksum ← b.be16? 16
      let urgPtr ← b.be16? 18
      pure (some {
        srcPort := srcPort
        dstPort := dstPort
        seqNum := seqNum
        ackNum := ackNum
        hdrLength := doff
        urg := flags &&& 0x20 != 0
        ack := flags &&& 0x10 != 0
        psh := flags &&& 0x08 != 0
        rst := flags &&& 0x04 != 0
        syn := flags &&& 0x02 != 0
        fin := flags &&& 0x01 != 0
        window := window
        checksum := checksum
        urgPtr := urgPtr })

theorem TcpHeader.readChecked_eq (b : Bytes) : readChecked b = some (read? b) := by
  unfold readChecked read?
  by_cases h20 : b.length < 20
  · simp [h20]
  · simp (disch := omega) only [h20, if_false, byteAt?_of_lt, be16?_of_lt, be32?_of_lt,
      Option.bind_eq_bind, Option.bind_some]
    split_ifs <;> rfl

/-- `UdpHeader.read?` with its reads checked. -/
def UdpHeader.readChecked (b : Bytes) : Option (Option UdpHeader) :=
  if b.length < 8 then some none
  else do
    let srcPort ← b.be16? 0
    let dstPort ← b.be16? 2
    let length ← b.be16? 4
    let checksum ← b.be16? 6
    pure (some ⟨srcPort, dstPort, length, checksum⟩)

theorem UdpHeader.readChecked_eq (b : Bytes) : readChecked b = some (read? b) := by
  unfold readChecked read?
  by_cases h8 : b.length < 8
  · simp [h8]
  · simp (disch := omega) only [h8, if_false, be16?_of_lt, Option.bind_eq_bind, Option.bind_some]
    rfl

/-! ## What each header reader accepts -/

theorem Ipv4Header.read?_isSome_iff (b : Bytes) :
    (read? b).isSome ↔ 20 ≤ b.length ∧ b.byteAt 0 / 16 = 4 ∧ 5 ≤ b.byteAt 0 % 16 ∧
      b.byteAt 0 % 16 * 4 ≤ b.length ∧ b.be16 2 = b.length := by
  unfold read?
  split_ifs <;> simp <;> omega

theorem Ipv4Header.read?_eq_some {b : Bytes} {ip : Ipv4Header} (h : read? b = some ip) :
    ip.hdrLength = b.byteAt 0 % 16 ∧ ip.protocol = b.byteAt 9 := by
  unfold read? at h
  simp only at h
  split_ifs at h
  cases h
  exact ⟨rfl, rfl⟩

/-- An IPv4 header needs version 4 in the first nibble. -/
theorem Ipv4Header.read?_eq_none_of_version {b : Bytes} (h : b.byteAt 0 / 16 ≠ 4) :
    read? b = none := by
  rw [← Option.not_isSome_iff_eq_none, read?_isSome_iff]
  omega

theorem Ipv6Header.read?_isSome_iff (b : Bytes) :
    (read? b).isSome ↔ 40 ≤ b.length ∧ b.byteAt 0 / 16 = 6 ∧ b.be16 4 + 40 = b.length := by
  unfold read?
  split_ifs <;> simp <;> omega

theorem Ipv6Header.read?_eq_some {b : Bytes} {ip : Ipv6Header} (h : read? b = some ip) :
    ip.nextHdr = b.byteAt 6 := by
  unfold read? at h
  split_ifs at h
  cases h
  rfl

/-- An IPv6 header needs version 6 in the first nibble. -/
theorem Ipv6Header.read?_eq_none_of_version {b : Bytes} (h : b.byteAt 0 / 16 ≠ 6) :
    read? b = none := by
  rw [← Option.not_isSome_iff_eq_none, read?_isSome_iff]
  omega

theorem IcmpHeader.read?_isSome_iff (b : Bytes) : (read? b).isSome ↔ 8 ≤ b.length := by
  unfold read?
  split_ifs <;> simp <;> omega

theorem TcpHeader.read?_isSome_iff (b : Bytes) :
    (read? b).isSome ↔ 20 ≤ b.length ∧ 5 ≤ b.byteAt 12 / 16 ∧ b.byteAt 12 / 16 * 4 ≤ b.length := by
  unfold read?
  split_ifs <;> simp <;> omega

theorem TcpHeader.read?_eq_some {b : Bytes} {t : TcpHeader} (h : read? b = some t) :
    t.hdrLength = b.byteAt 12 / 16 := by
  unfold read? at h
  simp only at h
  split_ifs at h
  cases h
  rfl

theorem UdpHeader.read?_isSome_iff (b : Bytes) : (read? b).isSome ↔ 8 ≤ b.length := by
  unfold read?
  split_ifs <;> simp <;> omega

namespace PacketView

/-! ## The whole reader, checked -/

/-- `withTransport` with the transport header's reads checked. -/
def withTransportChecked (v : PacketView) (proto : Nat) (rest : Bytes) : Option PacketView :=
  if proto = protoIcmp ∧ v.ipv4.isSome then
    (IcmpHeader.readChecked rest).map fun h => { v with icmp := h }
  else if proto = protoIcmpv6 ∧ v.ipv6.isSome then
    (IcmpHeader.readChecked rest).map fun h => { v with icmpv6 := h }
  else if proto = protoTcp then (TcpHeader.readChecked rest).map fun h => { v with tcp := h }
  else if proto = protoUdp then (UdpHeader.readChecked rest).map fun h => { v with udp := h }
  else some v

theorem withTransportChecked_eq (v : PacketView) (proto : Nat) (rest : Bytes) :
    v.withTransportChecked proto rest = some (v.withTransport proto rest) := by
  unfold withTransportChecked withTransport
  simp only [IcmpHeader.readChecked_eq, TcpHeader.readChecked_eq, UdpHeader.readChecked_eq,
    Option.map_some]
  split_ifs <;> rfl

/-- `ofBytes` with every read checked, and the transport bytes taken as the checked slice from
the end of the IP header. -/
def readChecked (b : Bytes) : Option PacketView :=
  let empty : PacketView := { totalLen := b.length }
  match b.head? with
  | none => some empty
  | some b0 =>
    if b0.toNat / 16 = 4 then
      (Ipv4Header.readChecked b).bind fun
        | some ip =>
          let v := { empty with ipv4 := some ip, ipHeaderLen := ip.hdrLength * 4 }
          (b.from? v.ipHeaderLen).bind (v.withTransportChecked ip.protocol)
        | none => some empty
    else if b0.toNat / 16 = 6 then
      (Ipv6Header.readChecked b).bind fun
        | some ip =>
          let v := { empty with ipv6 := some ip, ipHeaderLen := 40 }
          (b.from? 40).bind (v.withTransportChecked ip.nextHdr)
        | none => some empty
    else some empty

/-- **The reader never reads past the end of its buffer**: with every read checked it still
returns the model's view. -/
theorem readChecked_eq (b : Bytes) : readChecked b = some (ofBytes b) := by
  unfold readChecked ofBytes
  cases b with
  | nil => rfl
  | cons b0 rest =>
    simp only [List.head?_cons]
    split_ifs with h4 h6
    · rw [Ipv4Header.readChecked_eq, Option.bind_some]
      cases hip : Ipv4Header.read? (b0 :: rest) with
      | none => rfl
      | some ip =>
        have hfit := (Ipv4Header.read?_isSome_iff (b0 :: rest)).1 (by simp [hip])
        have hl : ip.hdrLength * 4 ≤ (b0 :: rest).length := by
          rw [(Ipv4Header.read?_eq_some hip).1]; exact hfit.2.2.2.1
        simp only [from?_of_le hl, Option.bind_some, withTransportChecked_eq]
    · rw [Ipv6Header.readChecked_eq, Option.bind_some]
      cases hip : Ipv6Header.read? (b0 :: rest) with
      | none => rfl
      | some ip =>
        have hl : 40 ≤ (b0 :: rest).length :=
          ((Ipv6Header.read?_isSome_iff (b0 :: rest)).1 (by simp [hip])).1
        simp only [from?_of_le hl, Option.bind_some, withTransportChecked_eq]
    · rfl

/-! ## The transport layer -/

theorem isSome_ite_none {α : Type} {c : Prop} [Decidable c] {o : Option α} :
    (if c then o else none).isSome ↔ c ∧ o.isSome := by
  split_ifs <;> simp_all

section Transport

variable (v : PacketView) (proto : Nat) (rest : Bytes)

theorem withTransport_icmp : (v.withTransport proto rest).icmp =
    if proto = 1 ∧ v.ipv4.isSome then IcmpHeader.read? rest else v.icmp := by
  unfold withTransport; split_ifs <;> simp_all [protoIcmp, protoIcmpv6, protoTcp, protoUdp]

theorem withTransport_icmpv6 : (v.withTransport proto rest).icmpv6 =
    if proto = 58 ∧ v.ipv6.isSome then IcmpHeader.read? rest else v.icmpv6 := by
  unfold withTransport; split_ifs <;> simp_all [protoIcmp, protoIcmpv6, protoTcp, protoUdp]

theorem withTransport_tcp : (v.withTransport proto rest).tcp =
    if proto = 6 then TcpHeader.read? rest else v.tcp := by
  unfold withTransport; split_ifs <;> simp_all [protoIcmp, protoIcmpv6, protoTcp, protoUdp]

theorem withTransport_udp : (v.withTransport proto rest).udp =
    if proto = 17 then UdpHeader.read? rest else v.udp := by
  unfold withTransport; split_ifs <;> simp_all [protoIcmp, protoIcmpv6, protoTcp, protoUdp]

theorem withTransport_totalLen : (v.withTransport proto rest).totalLen = v.totalLen := by
  unfold withTransport; split_ifs <;> rfl

theorem withTransport_ipHeaderLen : (v.withTransport proto rest).ipHeaderLen = v.ipHeaderLen := by
  unfold withTransport; split_ifs <;> rfl

/-- **The transport layer** sets at most one header, the one its protocol number names, exactly
when that header's reader accepts the bytes after the IP header. -/
theorem withTransport_recognises
    (hv : v.icmp = none ∧ v.icmpv6 = none ∧ v.tcp = none ∧ v.udp = none) :
    let w := v.withTransport proto rest
    let d := rest.byteAt 12 / 16
    (w.icmp.isSome ↔ v.ipv4.isSome ∧ proto = 1 ∧ 8 ≤ rest.length) ∧
    (w.icmpv6.isSome ↔ v.ipv6.isSome ∧ proto = 58 ∧ 8 ≤ rest.length) ∧
    (w.tcp.isSome ↔ proto = 6 ∧ 20 ≤ rest.length ∧ 5 ≤ d ∧ d * 4 ≤ rest.length) ∧
    (w.udp.isSome ↔ proto = 17 ∧ 8 ≤ rest.length) ∧
    [w.icmp.isSome, w.icmpv6.isSome, w.tcp.isSome, w.udp.isSome].count true ≤ 1 ∧
    (∀ t, w.tcp = some t → t.hdrLength = d) := by
  obtain ⟨h1, h2, h3, h4⟩ := hv
  intro w d
  have hicmp : w.icmp = if proto = 1 ∧ v.ipv4.isSome then IcmpHeader.read? rest else none := by
    rw [withTransport_icmp, h1]
  have hicmpv6 : w.icmpv6 = if proto = 58 ∧ v.ipv6.isSome then IcmpHeader.read? rest else none := by
    rw [withTransport_icmpv6, h2]
  have htcp : w.tcp = if proto = 6 then TcpHeader.read? rest else none := by
    rw [withTransport_tcp, h3]
  have hudp : w.udp = if proto = 17 then UdpHeader.read? rest else none := by
    rw [withTransport_udp, h4]
  refine ⟨?_, ?_, ?_, ?_, ?_, ?_⟩
  · rw [hicmp, isSome_ite_none, IcmpHeader.read?_isSome_iff, and_comm (a := proto = 1), and_assoc]
  · rw [hicmpv6, isSome_ite_none, IcmpHeader.read?_isSome_iff, and_comm (a := proto = 58),
      and_assoc]
  · rw [htcp, isSome_ite_none, TcpHeader.read?_isSome_iff]
  · rw [hudp, isSome_ite_none, UdpHeader.read?_isSome_iff]
  · -- the four guards name four different protocol numbers, so at most one of them holds
    rw [hicmp, hicmpv6, htcp, hudp]
    split_ifs <;> simp_all [List.count_cons] <;> split <;> omega
  · intro t ht
    rw [htcp] at ht
    split_ifs at ht
    exact TcpHeader.read?_eq_some ht

end Transport

/-! ## The reader as two layers -/

/-- **The IP layer of a buffer**: the IP header the reader recognises and its length, with no
transport header yet. -/
def ipLayer (b : Bytes) : PacketView where
  ipv4 := Ipv4Header.read? b
  ipv6 := Ipv6Header.read? b
  totalLen := b.length
  ipHeaderLen :=
    if (Ipv4Header.read? b).isSome then b.byteAt 0 % 16 * 4
    else if (Ipv6Header.read? b).isSome then 40 else 0

/-- The protocol number after the IP header: IPv4's protocol byte, else IPv6's next header. -/
def ipProto (b : Bytes) : Nat := if (Ipv4Header.read? b).isSome then b.byteAt 9 else b.byteAt 6

/-- **The reader is the IP layer, then the transport layer** when there is an IP header. -/
theorem ofBytes_eq_layers (b : Bytes) :
    ofBytes b = if (Ipv4Header.read? b).isSome ∨ (Ipv6Header.read? b).isSome then
      (ipLayer b).withTransport (ipProto b) (b.drop (ipLayer b).ipHeaderLen) else ipLayer b := by
  unfold ofBytes
  cases b with
  | nil => rfl
  | cons b0 rest =>
    -- the reader dispatches on the head byte, which the header readers see as `byteAt 0`
    have hb0 : byteAt (b0 :: rest) 0 = b0.toNat := rfl
    simp only
    by_cases h4 : b0.toNat / 16 = 4
    · have h6 := Ipv6Header.read?_eq_none_of_version (b := b0 :: rest) (by omega)
      rw [if_pos h4]
      cases hip : Ipv4Header.read? (b0 :: rest) with
      | none => simp [ipLayer, hip, h6]
      | some ip =>
        obtain ⟨hl, hp⟩ := Ipv4Header.read?_eq_some hip
        simp [ipLayer, ipProto, hip, h6, hl, hp]
    · have h4' := Ipv4Header.read?_eq_none_of_version (b := b0 :: rest) (by omega)
      rw [if_neg h4]
      by_cases h6 : b0.toNat / 16 = 6
      · rw [if_pos h6]
        cases hip : Ipv6Header.read? (b0 :: rest) with
        | none => simp [ipLayer, hip, h4']
        | some ip =>
          simp [ipLayer, ipProto, hip, h4', Ipv6Header.read?_eq_some hip]
      · have h6' := Ipv6Header.read?_eq_none_of_version (b := b0 :: rest) (by omega)
        rw [if_neg h6]
        simp [ipLayer, h4', h6']

theorem ofBytes_ipv4 (b : Bytes) : (ofBytes b).ipv4 = Ipv4Header.read? b := by
  rw [ofBytes_eq_layers]; split_ifs <;> simp [withTransport_ipv4, ipLayer]

theorem ofBytes_ipv6 (b : Bytes) : (ofBytes b).ipv6 = Ipv6Header.read? b := by
  rw [ofBytes_eq_layers]; split_ifs <;> simp [withTransport_ipv6, ipLayer]

theorem ofBytes_totalLen (b : Bytes) : (ofBytes b).totalLen = b.length := by
  rw [ofBytes_eq_layers]; split_ifs <;> simp [withTransport_totalLen, ipLayer]

theorem ofBytes_ipHeaderLen (b : Bytes) : (ofBytes b).ipHeaderLen = (ipLayer b).ipHeaderLen := by
  rw [ofBytes_eq_layers]; split_ifs <;> simp [withTransport_ipHeaderLen]

theorem ipLayer_ipv4 (b : Bytes) : (ipLayer b).ipv4 = Ipv4Header.read? b := rfl

theorem ipLayer_ipv6 (b : Bytes) : (ipLayer b).ipv6 = Ipv6Header.read? b := rfl

/-- The transport headers of a whole buffer, in terms of its bytes. -/
theorem ofBytes_transport (b : Bytes) :
    let v := ofBytes b
    let proto := if v.ipv4.isSome then b.byteAt 9 else b.byteAt 6
    let L := b.length - v.ipHeaderLen
    let d := b.byteAt (v.ipHeaderLen + 12) / 16
    (v.icmp.isSome ↔ v.ipv4.isSome ∧ proto = 1 ∧ 8 ≤ L) ∧
    (v.icmpv6.isSome ↔ v.ipv6.isSome ∧ proto = 58 ∧ 8 ≤ L) ∧
    (v.tcp.isSome ↔ (v.ipv4.isSome ∨ v.ipv6.isSome) ∧ proto = 6 ∧ 20 ≤ L ∧ 5 ≤ d ∧ 4 * d ≤ L) ∧
    (v.udp.isSome ↔ (v.ipv4.isSome ∨ v.ipv6.isSome) ∧ proto = 17 ∧ 8 ≤ L) ∧
    [v.icmp.isSome, v.icmpv6.isSome, v.tcp.isSome, v.udp.isSome].count true ≤ 1 ∧
    (∀ t, v.tcp = some t → t.hdrLength = d) := by
  dsimp only
  rw [ofBytes_ipv4, ofBytes_ipv6, ofBytes_ipHeaderLen]
  have hproto : (if (Ipv4Header.read? b).isSome then b.byteAt 9 else b.byteAt 6) = ipProto b := rfl
  rw [hproto]
  by_cases hip : (Ipv4Header.read? b).isSome ∨ (Ipv6Header.read? b).isSome
  · obtain ⟨h1, h2, h3, h4, h5, h6⟩ := withTransport_recognises (ipLayer b) (ipProto b)
      (b.drop (ipLayer b).ipHeaderLen) ⟨rfl, rfl, rfl, rfl⟩
    simp only [ipLayer_ipv4, ipLayer_ipv6, List.length_drop, byteAt_drop] at h1 h2 h3 h4 h5 h6
    rw [ofBytes_eq_layers, if_pos hip]
    refine ⟨h1, h2, ?_, ?_, h5, h6⟩
    · rw [h3, Nat.mul_comm 4]; simp only [hip, true_and]
    · rw [h4]; simp only [hip, true_and]
  · have hnone : ofBytes b = ipLayer b := by rw [ofBytes_eq_layers, if_neg hip]
    obtain ⟨h4, h6⟩ := not_or.1 hip
    rw [Option.not_isSome_iff_eq_none] at h4 h6
    rw [hnone]
    simp [ipLayer, h4, h6]

/-! ## The reader recognises exactly the specified headers -/

/-- **The packet reader recognises exactly the specified headers and stays in bounds.** Every
read is inside the buffer; an IPv4 header is recognised exactly when the buffer is long enough,
its version nibble is 4, its header length `ihl` is at least five words and fits, and its total
length is the buffer's; an IPv6 header when its version nibble is 6 and its payload length plus
40 is the buffer's length. Behind an IP header of length `ipHeaderLen`, with `proto` its protocol
number and `L` the bytes after it, ICMP needs IPv4, ICMPv6 needs IPv6, TCP needs a data offset
`d` of at least five words that fits, and each needs its fixed header's bytes. At most one IP and
one transport header is present, and both payload lengths are differences that do not
truncate. -/
theorem ofBytes_recognises_exactly (b : Bytes) :
    let v := ofBytes b
    let ihl := b.byteAt 0 % 16
    let proto := if v.ipv4.isSome then b.byteAt 9 else b.byteAt 6
    let L := b.length - v.ipHeaderLen
    let d := b.byteAt (v.ipHeaderLen + 12) / 16
    readChecked b = some v ∧ v.totalLen = b.length ∧
    (v.ipv4.isSome ↔ 20 ≤ b.length ∧ b.byteAt 0 / 16 = 4 ∧ 5 ≤ ihl ∧ ihl * 4 ≤ b.length ∧
      b.be16 2 = b.length) ∧
    (v.ipv6.isSome ↔ 40 ≤ b.length ∧ b.byteAt 0 / 16 = 6 ∧ b.be16 4 + 40 = b.length) ∧
    v.ipHeaderLen = (if v.ipv4.isSome then ihl * 4 else if v.ipv6.isSome then 40 else 0) ∧
    (v.icmp.isSome ↔ v.ipv4.isSome ∧ proto = 1 ∧ 8 ≤ L) ∧
    (v.icmpv6.isSome ↔ v.ipv6.isSome ∧ proto = 58 ∧ 8 ≤ L) ∧
    (v.tcp.isSome ↔ (v.ipv4.isSome ∨ v.ipv6.isSome) ∧ proto = 6 ∧ 20 ≤ L ∧ 5 ≤ d ∧ 4 * d ≤ L) ∧
    (v.udp.isSome ↔ (v.ipv4.isSome ∨ v.ipv6.isSome) ∧ proto = 17 ∧ 8 ≤ L) ∧
    ¬(v.ipv4.isSome ∧ v.ipv6.isSome) ∧
    [v.icmp.isSome, v.icmpv6.isSome, v.tcp.isSome, v.udp.isSome].count true ≤ 1 ∧
    (∀ t, v.tcp = some t → t.hdrLength = d ∧ v.ipHeaderLen + 4 * d ≤ b.length ∧
      v.tcpPayloadLen = some (L - 4 * d)) ∧
    (v.udp.isSome → v.ipHeaderLen + 8 ≤ b.length ∧ v.udpPayloadLen = some (L - 8)) := by
  dsimp only
  obtain ⟨hicmp, hicmpv6, htcp, hudp, hone, hdoff⟩ := ofBytes_transport b
  have hlen := ofBytes_totalLen b
  have hv4 := Ipv4Header.read?_isSome_iff b
  have hv6 := Ipv6Header.read?_isSome_iff b
  rw [← ofBytes_ipv4] at hv4
  rw [← ofBytes_ipv6] at hv6
  refine ⟨readChecked_eq b, hlen, hv4, hv6, ?_, hicmp, hicmpv6, htcp, hudp, ?_, hone, ?_, ?_⟩
  · rw [ofBytes_ipHeaderLen, ofBytes_ipv4, ofBytes_ipv6]; rfl
  · -- the two versions need different values in the first nibble
    rw [hv4, hv6]; omega
  · intro t ht
    obtain ⟨-, -, h20, -, hfit⟩ := htcp.1 (by rw [ht]; rfl)
    have hd := hdoff t ht
    refine ⟨hd, by omega, ?_⟩
    simp only [tcpPayloadLen, ht, Option.map_some, hlen, hd, Option.some.injEq]
    omega
  · intro hsome
    obtain ⟨-, -, h8⟩ := hudp.1 hsome
    obtain ⟨u, hu⟩ := Option.isSome_iff_exists.1 hsome
    refine ⟨by omega, ?_⟩
    simp only [udpPayloadLen, hu, Option.map_some, hlen]

end PacketView

end Diversion
