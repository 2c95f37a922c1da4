import Diversion.Bytes
import Diversion.Settings

/-!
# `Diversion.Checksum` — Internet checksums and their repair

The Internet checksum is the ones' complement of the ones' complement sum of 16-bit
big-endian words; an odd trailing byte is the high half of a last word. The sum is kept in 32
bits and folded twice, which is exact for anything shorter than 2^16 words.

**Repair** recomputes, in an IPv4 packet, the header checksum and the checksum of a TCP or UDP
segment, as a fix-up asks. It touches nothing unless the packet is IPv4 with a well-formed
header; the transport checksum also needs a total length inside the buffer and a segment long
enough to hold its checksum field. A computed UDP checksum of zero is sent as `0xffff`, since
zero means "no checksum" there.

## Contents
- `sumWords`, `checksum16`.
- `RepairReport`, `repair`.
-/

namespace Diversion

namespace Checksum

/-- **Sum of the 16-bit words** of `data` added to `acc`, modulo 2^32. -/
def sumWords : Bytes → Nat → Nat
  | a :: b :: rest, acc => sumWords rest ((acc + a.toNat * 256 + b.toNat) % 4294967296)
  | [a], acc => (acc + a.toNat * 256) % 4294967296
  | [], acc => acc

/-- **The Internet checksum** of a pseudo-header followed by a payload. -/
def checksum16 (pseudo payload : Bytes) : Nat :=
  let s := sumWords payload (sumWords pseudo 0)
  let s := s % 65536 + s / 65536
  let s := s + s / 65536
  65535 - s % 65536

/-- Which checksums a repair rewrote. -/
structure RepairReport where
  ip : Bool := false
  tcp : Bool := false
  udp : Bool := false
  deriving DecidableEq, Repr, Inhabited

/-- Whether any checksum was recomputed. -/
def RepairReport.any (r : RepairReport) : Bool := r.ip || r.tcp || r.udp

/-- Offset of the IPv4 header checksum. -/
def ipChecksumAt : Nat := 10

/-- The IPv4 header checksum recomputed over the first `hl` bytes. -/
def repairHeader (p : Bytes) (hl : Nat) : Bytes :=
  let z := p.overwrite ipChecksumAt [0, 0]
  z.overwrite ipChecksumAt (Bytes.toBe16 (checksum16 [] (z.take hl)))

/-- Where the transport checksum sits in the segment, if the fix-up asks for it and the
segment can hold it. -/
def transportOffset (proto transLen : Nat) (fx : ChecksumFixup) : Option Nat :=
  if proto = 6 ∧ fx.tcp ∧ transLen ≥ 20 then some 16
  else if proto = 17 ∧ fx.udp ∧ transLen ≥ 8 then some 6
  else none

/-- **Repairing the checksums** of a packet as `fx` asks; the report says which checksums
were recomputed. -/
def repair (p : Bytes) (fx : ChecksumFixup) : Bytes × RepairReport :=
  if !fx.any ∨ p.length < 20 ∨ p.byteAt 0 / 16 ≠ 4 then (p, {})
  else
    let hl := p.byteAt 0 % 16 * 4
    if hl < 20 ∨ p.length < hl then (p, {})
    else
      let p := if fx.ip then repairHeader p hl else p
      let report : RepairReport := { ip := fx.ip }
      let total := p.be16 2
      if total < hl ∨ total > p.length then (p, report)
      else
        let transLen := total - hl
        let proto := p.byteAt 9
        match transportOffset proto transLen fx with
        | none => (p, report)
        | some off =>
          let pseudo := (p.drop 12).take 8 ++ [0, UInt8.ofNat proto] ++ Bytes.toBe16 transLen
          let p := p.overwrite (hl + off) [0, 0]
          let sum := checksum16 pseudo ((p.drop hl).take transLen)
          if proto = 17 then
            let sum := if sum = 0 then 65535 else sum
            (p.overwrite (hl + off) (Bytes.toBe16 sum), { report with udp := true })
          else (p.overwrite (hl + off) (Bytes.toBe16 sum), { report with tcp := true })

end Checksum

end Diversion
