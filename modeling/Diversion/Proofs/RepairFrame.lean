import Mathlib.Tactic.SplitIfs
import Diversion.Proofs.Checksum

/-!
# `Proofs.RepairFrame` — a repair writes only its checksum fields, and a second one does nothing

A repair zeroes each checksum field it rewrites before it sums, and every byte that decides its
gates (version and header length, total length, protocol) lies below the first checksum field,
at offset 10; the addresses the pseudo-header copies lie in the header, before the transport
field. So a repair leaves every byte alone except the checksum fields it reports
(`repair_frame`), and a second repair with the same fix-up passes the same gates, sums the same
zeroed bytes and writes the same values again (`repair_idempotent`).

Each stage has its own lemmas. The header stage is one write at offset 10
(`repairHeader_eq_overwrite`), is idempotent (`afterHeader_idem`) and commutes with a write past
the header (`afterHeader_overwrite`). The transport stage is one write at its field
(`transportStage_fst`), and it reads the buffer only through the gate bytes and the header stage's
result with that field zeroed (`transportStage_congr`). Buffers that agree below byte 10 have the
same gates (`SameGateBytes`).
-/

namespace Diversion

namespace Bytes

/-- Writes to two disjoint ranges commute. -/
theorem overwrite_comm {b u v : Bytes} {i k : Nat} (hu : i + u.length ≤ k)
    (hv : k + v.length ≤ b.length) :
    (b.overwrite k v).overwrite i u = (b.overwrite i u).overwrite k v := by
  have hi : i + u.length ≤ b.length := by omega
  have hi' : i + u.length ≤ (b.overwrite k v).length := by rw [length_overwrite hv]; exact hi
  have hk' : k + v.length ≤ (b.overwrite i u).length := by rw [length_overwrite hi]; exact hv
  apply List.ext_getElem?
  intro j
  simp only [getElem?_overwrite hi', getElem?_overwrite hv, getElem?_overwrite hk',
    getElem?_overwrite hi]
  split_ifs <;> first | rfl | omega

theorem getElem?_overwrite_of_not_mem {b vals : Bytes} {off j : Nat}
    (h : off + vals.length ≤ b.length) (hj : ¬(off ≤ j ∧ j < off + vals.length)) :
    (b.overwrite off vals)[j]? = b[j]? := by
  rw [getElem?_overwrite h, if_neg hj]

theorem byteAt_eq_of_getElem? {p q : Bytes} {j : Nat} (h : q[j]? = p[j]?) :
    q.byteAt j = p.byteAt j := by
  simp only [byteAt, List.getD_eq_getElem?_getD, h]

end Bytes

namespace Checksum

open Bytes

/-! ## The gate bytes -/

/-- **Two buffers a repair cannot tell apart at its gates**: one length, and the same version and
    header length (byte 0), total length (bytes 2 and 3) and protocol (byte 9). -/
structure SameGateBytes (q p : Bytes) : Prop where
  length : q.length = p.length
  first : q.byteAt 0 = p.byteAt 0
  total : q.be16 2 = p.be16 2
  proto : q.byteAt 9 = p.byteAt 9

/-- Buffers of one length that agree below byte 10 have the same gate bytes. -/
theorem SameGateBytes.of_low {p q : Bytes} (hlen : q.length = p.length)
    (hlow : ∀ j, j < 10 → q[j]? = p[j]?) : SameGateBytes q p where
  length := hlen
  first := byteAt_eq_of_getElem? (hlow 0 (by omega))
  total := by
    simp only [be16, byteAt_eq_of_getElem? (hlow 2 (by omega)),
      byteAt_eq_of_getElem? (hlow (2 + 1) (by omega))]
  proto := byteAt_eq_of_getElem? (hlow 9 (by omega))

theorem SameGateBytes.headerGate_iff {p q : Bytes} (h : SameGateBytes q p) (fx : ChecksumFixup) :
    HeaderGate q fx ↔ HeaderGate p fx := by
  unfold HeaderGate
  rw [h.length, h.first]

theorem SameGateBytes.transportGate_iff {p q : Bytes} (h : SameGateBytes q p) (fx : ChecksumFixup)
    (off : Nat) : TransportGate q fx off ↔ TransportGate p fx off := by
  unfold TransportGate
  rw [h.length, h.first, h.total, h.proto]

/-- **Where the gates send a repair**: both stages when the transport gate opens. -/
theorem repair_of_transportGate {p : Bytes} {fx : ChecksumFixup} {off : Nat}
    (hg : HeaderGate p fx) (ht : TransportGate p fx off) :
    repair p fx = transportStage p fx off := by
  obtain ⟨htot1, htot2, hoff⟩ := ht
  rw [repair_of_headerGate hg, if_neg (by omega), hoff]

/-- The header stage only, when no transport gate opens. -/
theorem repair_of_no_transportGate {p : Bytes} {fx : ChecksumFixup} (hg : HeaderGate p fx)
    (ht : ∀ off, ¬TransportGate p fx off) :
    repair p fx = (afterHeader p fx, { ip := fx.ip }) := by
  rw [repair_of_headerGate hg]
  split
  · rfl
  · next htot =>
    cases hoff : transportOffset (p.byteAt 9) (p.be16 2 - p.byteAt 0 % 16 * 4) fx with
    | none => rfl
    | some off => exact absurd ⟨by omega, by omega, hoff⟩ (ht off)

/-- **The transport field lies inside the buffer**, past the header and after byte 20. -/
theorem TransportGate.field_fits {p : Bytes} {fx : ChecksumFixup} {off : Nat}
    (hg : HeaderGate p fx) (ht : TransportGate p fx off) :
    20 ≤ p.byteAt 0 % 16 * 4 + off ∧ p.byteAt 0 % 16 * 4 + off + 2 ≤ p.length := by
  obtain ⟨-, -, -, hl20, -⟩ := hg
  obtain ⟨htot1, htot2, hoff⟩ := ht
  have := transportOffset_add_two_le hoff
  omega

/-! ## The header stage -/

/-- **The header stage is one write at offset 10**: zeroing the field first only decides the value
    written. -/
theorem repairHeader_eq_overwrite {p : Bytes} (hl : Nat) (hp : 12 ≤ p.length) :
    repairHeader p hl = p.overwrite ipChecksumAt
      (toBe16 (checksum16 [] ((p.overwrite ipChecksumAt [0, 0]).take hl))) := by
  unfold repairHeader
  exact overwrite_overwrite (by simp [ipChecksumAt]; omega) rfl

theorem repairHeader_idem {p : Bytes} (hl : Nat) (hp : 12 ≤ p.length) :
    repairHeader (repairHeader p hl) hl = repairHeader p hl := by
  have hz : ipChecksumAt + [(0 : UInt8), 0].length ≤ p.length := by simp [ipChecksumAt]; omega
  rw [repairHeader_eq_overwrite hl hp]
  set c := toBe16 (checksum16 [] ((p.overwrite ipChecksumAt [0, 0]).take hl))
  have hc : ipChecksumAt + c.length ≤ p.length := by simpa [c] using hz
  -- zeroing the written field gives back the zeroed buffer, so the same value is written again
  have hzero : (p.overwrite ipChecksumAt c).overwrite ipChecksumAt [0, 0] =
      p.overwrite ipChecksumAt [0, 0] := overwrite_overwrite hc rfl
  rw [repairHeader_eq_overwrite hl (by rw [length_overwrite hc]; exact hp), hzero,
    overwrite_overwrite hc rfl]

theorem afterHeader_idem {p : Bytes} (fx : ChecksumFixup) (hp : 20 ≤ p.length) :
    afterHeader (afterHeader p fx) fx = afterHeader p fx := by
  cases hip : fx.ip with
  | false => simp [afterHeader, hip]
  | true =>
    have h0 : (repairHeader p (p.byteAt 0 % 16 * 4)).byteAt 0 = p.byteAt 0 :=
      repairHeader_byteAt (by omega) (by omega)
    simp only [afterHeader, hip, if_true, h0]
    exact repairHeader_idem _ (by omega)

/-- **A write past the header commutes with the header stage**, which reads only the header and
    writes only its checksum field. -/
theorem afterHeader_overwrite {p v : Bytes} {k : Nat} (fx : ChecksumFixup) (hk : 12 ≤ k)
    (hhl : p.byteAt 0 % 16 * 4 ≤ k) (hv : k + v.length ≤ p.length) :
    afterHeader (p.overwrite k v) fx = (afterHeader p fx).overwrite k v := by
  have h0 : (p.overwrite k v).byteAt 0 = p.byteAt 0 := byteAt_overwrite_of_lt hv (by omega)
  cases hip : fx.ip with
  | false => simp [afterHeader, hip]
  | true =>
    set hl := p.byteAt 0 % 16 * 4
    have hz : ipChecksumAt + [(0 : UInt8), 0].length ≤ k := by simp [ipChecksumAt]; omega
    have hzp : ipChecksumAt + [(0 : UInt8), 0].length ≤ p.length := by omega
    have hlen : 12 ≤ (p.overwrite k v).length := by rw [length_overwrite hv]; omega
    -- the header the checksum is taken over does not reach the write
    have hsum : ((p.overwrite k v).overwrite ipChecksumAt [0, 0]).take hl =
        (p.overwrite ipChecksumAt [0, 0]).take hl := by
      rw [overwrite_comm hz hv,
        take_overwrite_of_le (by rw [length_overwrite hzp]; exact hv) hhl]
    simp only [afterHeader, hip, if_true, h0]
    rw [repairHeader_eq_overwrite hl hlen, repairHeader_eq_overwrite hl (by omega), hsum,
      overwrite_comm (by simpa [ipChecksumAt] using hz) hv]

theorem afterHeader_getElem? {p : Bytes} (fx : ChecksumFixup) (hp : 20 ≤ p.length) {j : Nat}
    (hj : ¬(fx.ip = true ∧ 10 ≤ j ∧ j < 12)) : (afterHeader p fx)[j]? = p[j]? := by
  unfold afterHeader
  split
  · next hip =>
    have hj' : ¬(10 ≤ j ∧ j < 12) := fun h => hj ⟨hip, h⟩
    rw [repairHeader_eq_overwrite _ (by omega)]
    exact getElem?_overwrite_of_not_mem (by simp [ipChecksumAt]; omega)
      (by simp [ipChecksumAt]; omega)
  · rfl

/-! ## The transport stage -/

/-- **The transport stage is one write at its field** of the header stage's result. -/
theorem transportStage_fst {p : Bytes} {fx : ChecksumFixup} {off : Nat} (hg : HeaderGate p fx)
    (ht : TransportGate p fx off) :
    ∃ v : Bytes, v.length = 2 ∧
      (transportStage p fx off).1 = (afterHeader p fx).overwrite (p.byteAt 0 % 16 * 4 + off) v := by
  have hfit := (TransportGate.field_fits hg ht).2
  have hlen := afterHeader_length fx (show 20 ≤ p.length from hg.2.1)
  unfold transportStage
  exact ⟨_, rfl, overwrite_overwrite (by simp; omega) rfl⟩

theorem transportStage_length {p : Bytes} {fx : ChecksumFixup} {off : Nat} (hg : HeaderGate p fx)
    (ht : TransportGate p fx off) : (transportStage p fx off).1.length = p.length := by
  obtain ⟨v, hv, h1⟩ := transportStage_fst hg ht
  have hfit := (TransportGate.field_fits hg ht).2
  have hlen := afterHeader_length fx (show 20 ≤ p.length from hg.2.1)
  rw [h1, length_overwrite (by omega), hlen]

/-- Outside its field, the transport stage leaves the header stage's result as it is. -/
theorem transportStage_getElem?_of_not_mem {p : Bytes} {fx : ChecksumFixup} {off j : Nat}
    (hg : HeaderGate p fx) (ht : TransportGate p fx off)
    (hj : ¬(p.byteAt 0 % 16 * 4 + off ≤ j ∧ j < p.byteAt 0 % 16 * 4 + off + 2)) :
    (transportStage p fx off).1[j]? = (afterHeader p fx)[j]? := by
  obtain ⟨v, hv, h1⟩ := transportStage_fst hg ht
  have hfit := (TransportGate.field_fits hg ht).2
  have hlen := afterHeader_length fx (show 20 ≤ p.length from hg.2.1)
  rw [h1, getElem?_overwrite_of_not_mem (by omega) (by omega)]

/-- **The transport stage reads the buffer only through its gate bytes and the header stage's
    result with the transport field zeroed**; the pseudo-header's addresses lie before that field. -/
theorem transportStage_congr {p q : Bytes} {fx : ChecksumFixup} {off : Nat}
    (hs : SameGateBytes q p) (hk : 20 ≤ p.byteAt 0 % 16 * 4 + off)
    (hp : p.byteAt 0 % 16 * 4 + off + 2 ≤ (afterHeader p fx).length)
    (hq : p.byteAt 0 % 16 * 4 + off + 2 ≤ (afterHeader q fx).length)
    (hz : (afterHeader q fx).overwrite (p.byteAt 0 % 16 * 4 + off) [0, 0] =
      (afterHeader p fx).overwrite (p.byteAt 0 % 16 * 4 + off) [0, 0]) :
    transportStage q fx off = transportStage p fx off := by
  -- the pseudo-header's bytes 12 to 20 lie before the zeroed field
  have hq' : (((afterHeader q fx).overwrite (p.byteAt 0 % 16 * 4 + off) [0, 0]).drop 12).take 8 =
      ((afterHeader q fx).drop 12).take 8 :=
    drop_take_overwrite_of_le (by simpa using hq) (by omega)
  have hp' : (((afterHeader p fx).overwrite (p.byteAt 0 % 16 * 4 + off) [0, 0]).drop 12).take 8 =
      ((afterHeader p fx).drop 12).take 8 :=
    drop_take_overwrite_of_le (by simpa using hp) (by omega)
  have hpseudo : ((afterHeader q fx).drop 12).take 8 = ((afterHeader p fx).drop 12).take 8 := by
    rw [← hq', hz, hp']
  unfold transportStage
  simp only [hs.first, hs.total, hs.proto, hz, hpseudo]

/-! ## What a repair writes -/

/-- **A repair writes only the checksum fields it reports**: the header checksum at 10 and 11, and
    the TCP checksum at 16 and 17 or the UDP checksum at 6 and 7 of the segment after the header. -/
theorem repair_frame (b : Bytes) (f : ChecksumFixup) (j : Nat)
    (hj : (repair b f).1[j]? ≠ b[j]?) :
    ((repair b f).2.ip = true ∧ 10 ≤ j ∧ j < 12) ∨
      ((repair b f).2.tcp = true ∧ b.byteAt 0 % 16 * 4 + 16 ≤ j ∧ j < b.byteAt 0 % 16 * 4 + 18) ∨
      ((repair b f).2.udp = true ∧ b.byteAt 0 % 16 * 4 + 6 ≤ j ∧ j < b.byteAt 0 % 16 * 4 + 8) := by
  rcases repair_cases b f with ⟨-, hr⟩ | ⟨hg, -, hr⟩ | ⟨off, hg, ht, hr⟩ <;> rw [hr] at hj ⊢
  · exact absurd rfl hj
  · -- the header stage only: byte `j` is in the header checksum field
    exact .inl (Classical.byContradiction fun hn => hj (afterHeader_getElem? f hg.2.1 hn))
  · -- both stages: byte `j` is in the transport field, or else in the header checksum field
    rw [transportStage_snd]
    by_cases hin : b.byteAt 0 % 16 * 4 + off ≤ j ∧ j < b.byteAt 0 % 16 * 4 + off + 2
    · refine .inr ?_
      rcases transportOffset_eq_some.mp ht.2.2 with ⟨h6, -, -, rfl⟩ | ⟨h17, -, -, rfl⟩
      · exact .inl ⟨by simp [h6], by omega, by omega⟩
      · exact .inr ⟨by simp [h17], by omega, by omega⟩
    · rw [transportStage_getElem?_of_not_mem hg ht hin] at hj
      exact .inl (Classical.byContradiction fun hn => hj (afterHeader_getElem? f hg.2.1 hn))

/-- **Repairing a repaired buffer changes nothing**: the gates read the same bytes, and each
    stage sums its own field zeroed, so it writes the same value over the one it wrote. -/
theorem repair_idempotent (b : Bytes) (f : ChecksumFixup) :
    repair (repair b f).1 f = repair b f := by
  rcases repair_cases b f with ⟨-, hr⟩ | ⟨hg, ht, hr⟩ | ⟨off, hg, ht, hr⟩ <;> rw [hr]
  · exact hr
  · -- the header stage only: it is idempotent, and its result has the same gates
    have h20 : 20 ≤ b.length := hg.2.1
    have hs : SameGateBytes (afterHeader b f) b :=
      .of_low (afterHeader_length f h20) fun j hj => afterHeader_getElem? f h20 (by omega)
    rw [repair_of_no_transportGate ((hs.headerGate_iff f).mpr hg)
        fun off h => ht off ((hs.transportGate_iff f off).mp h), afterHeader_idem f h20]
  · -- both stages: the header stage leaves the result alone, and its transport field zeroed is
    -- what the first pass zeroed
    obtain ⟨v, hv, h1⟩ := transportStage_fst hg ht
    obtain ⟨hk, hfit⟩ := TransportGate.field_fits hg ht
    have h20 : 20 ≤ b.length := hg.2.1
    have hlen := afterHeader_length f h20
    set k := b.byteAt 0 % 16 * 4 + off
    have hvk : k + v.length ≤ (afterHeader b f).length := by omega
    have hs : SameGateBytes (transportStage b f off).1 b := by
      refine .of_low (transportStage_length hg ht) fun j hj => ?_
      rw [transportStage_getElem?_of_not_mem hg ht (by omega), afterHeader_getElem? f h20 (by omega)]
    have hfixed : afterHeader (transportStage b f off).1 f = (transportStage b f off).1 := by
      have h0 : (afterHeader b f).byteAt 0 = b.byteAt 0 := afterHeader_byteAt f h20 (by omega)
      rw [h1, afterHeader_overwrite f (by omega) (by omega) hvk, afterHeader_idem f h20]
    have hz : (afterHeader (transportStage b f off).1 f).overwrite k [0, 0] =
        (afterHeader b f).overwrite k [0, 0] := by
      rw [hfixed, h1, overwrite_overwrite hvk (by simp [hv])]
    rw [repair_of_transportGate ((hs.headerGate_iff f).mpr hg) ((hs.transportGate_iff f off).mpr ht),
      transportStage_congr hs hk (by omega) (by rw [hfixed, transportStage_length hg ht]; omega) hz]

/-- **A checksum repair touches only the checksum fields it reports, and a second repair does
    nothing.** With `ihl` the header length the first byte declares: the buffer keeps its length;
    bytes 10 and 11 change only if the header checksum was rewritten, bytes `ihl + 16` and
    `ihl + 17` only if a TCP checksum was, bytes `ihl + 6` and `ihl + 7` only if a UDP checksum
    was, and no other byte changes; repairing the result with the same fix-up leaves it as it is
    and reports the same checksums. -/
theorem repair_local_and_idempotent (b : Bytes) (f : ChecksumFixup) :
    let b' := (repair b f).1
    let r := (repair b f).2
    let ihl := b.byteAt 0 % 16 * 4
    b'.length = b.length ∧
      (∀ j, b'[j]? ≠ b[j]? →
        (r.ip = true ∧ 10 ≤ j ∧ j < 12) ∨ (r.tcp = true ∧ ihl + 16 ≤ j ∧ j < ihl + 18) ∨
          (r.udp = true ∧ ihl + 6 ≤ j ∧ j < ihl + 8)) ∧
      repair b' f = (b', r) :=
  ⟨repair_length b f, repair_frame b f, repair_idempotent b f⟩

end Checksum

end Diversion
