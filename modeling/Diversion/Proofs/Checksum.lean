import Mathlib.Tactic.SplitIfs
import Diversion.Proofs.Reads

/-!
# `Proofs.Checksum` — repaired checksums verify

The Internet checksum of a byte string is the ones' complement of the ones' complement sum of its
16-bit words. `checksum16` keeps the sum in 32 bits and folds the carries back twice; on any input
short enough that the plain sum of the words fits in 32 bits, that is the ones' complement fold
`onesFold` of the plain sum `wordSum` (`checksum16_eq`). The fold keeps the residue modulo
`0xffff`, so writing a checksum into its own zeroed field makes the whole sum a nonzero multiple
of `0xffff`, and the checksum of the result is zero (`checksum16_overwrite_verifies`); sending a
zero as `0xffff` keeps that.

A repair either leaves the buffer alone, runs the header stage only, or runs the header and the
transport stage (`repair_cases`). Each stage writes one 16-bit field inside the segment it sums,
at an even offset, and nothing that the other stage reads. The main statement
`repair_writes_verifying_checksums` says which checksums a repair rewrites and that each one
verifies.
-/

namespace Diversion

/-! ## Overwriting a field in place -/

namespace Bytes

theorem getElem?_overwrite {b vals : Bytes} {off : Nat} (h : off + vals.length ≤ b.length)
    (j : Nat) :
    (b.overwrite off vals)[j]? =
      if off ≤ j ∧ j < off + vals.length then vals[j - off]? else b[j]? := by
  have hoff : (b.take off).length = off := by simp; omega
  simp only [overwrite, List.getElem?_append, List.length_append, hoff, List.getElem?_take,
    List.getElem?_drop]
  split_ifs <;> first | rfl | omega | (congr 1; omega)

theorem take_overwrite_of_le {b vals : Bytes} {off n : Nat} (h : off + vals.length ≤ b.length)
    (hn : n ≤ off) : (b.overwrite off vals).take n = b.take n := by
  apply List.ext_getElem?
  intro j
  simp only [List.getElem?_take, getElem?_overwrite h]
  split_ifs <;> first | rfl | omega

theorem drop_take_overwrite {b vals : Bytes} {s off T : Nat} (h : off + vals.length ≤ T)
    (hT : s + T ≤ b.length) :
    ((b.overwrite (s + off) vals).drop s).take T = overwrite ((b.drop s).take T) off vals := by
  have hb : s + off + vals.length ≤ b.length := by omega
  have hseg : off + vals.length ≤ ((b.drop s).take T).length := by simp; omega
  apply List.ext_getElem?
  intro j
  simp only [List.getElem?_take, List.getElem?_drop, getElem?_overwrite hb, getElem?_overwrite hseg]
  split_ifs <;> first | rfl | omega | (congr 1; omega)

theorem take_overwrite {b vals : Bytes} {off n : Nat} (h : off + vals.length ≤ n)
    (hn : n ≤ b.length) : (b.overwrite off vals).take n = overwrite (b.take n) off vals := by
  simpa using drop_take_overwrite (s := 0) h (by simpa using hn)

theorem drop_take_overwrite_of_le {b vals : Bytes} {s off T : Nat}
    (h : off + vals.length ≤ b.length) (hT : s + T ≤ off) :
    ((b.overwrite off vals).drop s).take T = (b.drop s).take T := by
  apply List.ext_getElem?
  intro j
  simp only [List.getElem?_take, List.getElem?_drop, getElem?_overwrite h]
  split_ifs <;> first | rfl | omega

theorem overwrite_overwrite {b u v : Bytes} {off : Nat} (h : off + u.length ≤ b.length)
    (hv : u.length = v.length) : (b.overwrite off u).overwrite off v = b.overwrite off v := by
  have h' : off + v.length ≤ (b.overwrite off u).length := by
    rw [length_overwrite h]; omega
  apply List.ext_getElem?
  intro j
  simp only [getElem?_overwrite h', getElem?_overwrite h, getElem?_overwrite (hv ▸ h)]
  split_ifs <;> first | rfl | omega

theorem byteAt_overwrite_of_lt {b vals : Bytes} {off j : Nat} (h : off + vals.length ≤ b.length)
    (hj : j < off ∨ off + vals.length ≤ j) : (b.overwrite off vals).byteAt j = b.byteAt j := by
  simp only [byteAt, List.getD_eq_getElem?_getD, getElem?_overwrite h]
  rw [if_neg (by omega)]

theorem byteAt_overwrite_self {b vals : Bytes} {off i : Nat} (h : off + vals.length ≤ b.length)
    (hi : i < vals.length) : (b.overwrite off vals).byteAt (off + i) = vals.byteAt i := by
  simp only [byteAt, List.getD_eq_getElem?_getD, getElem?_overwrite h]
  rw [if_pos (by omega), Nat.add_sub_cancel_left]

/-- Both bytes of a 16-bit word are zero only for the value zero. -/
theorem toBe16_eq_zero {c : Nat} (hc : c < 65536)
    (h : (toBe16 c).byteAt 0 = 0 ∧ (toBe16 c).byteAt 1 = 0) : c = 0 := by
  simp [byteAt, toBe16] at h
  omega

end Bytes

namespace Checksum

/-! ## Word sums and the ones' complement fold -/

/-- **The plain sum of the 16-bit big-endian words** of a byte string, an odd last byte padded on
    the right with zero. -/
def wordSum : Bytes → Nat
  | a :: b :: rest => (a.toNat * 256 + b.toNat) + wordSum rest
  | [a] => a.toNat * 256
  | [] => 0

theorem wordSum_append : ∀ {l₁ : Bytes} (l₂ : Bytes), l₁.length % 2 = 0 →
    wordSum (l₁ ++ l₂) = wordSum l₁ + wordSum l₂
  | [], _, _ => by simp [wordSum]
  | [_], _, h => by simp at h
  | a :: b :: rest, l₂, h => by
    simp only [List.cons_append, wordSum]
    rw [wordSum_append l₂ (by simp at h ⊢; omega)]
    omega

theorem wordSum_le : ∀ l : Bytes, wordSum l ≤ 65535 * ((l.length + 1) / 2)
  | [] => by simp [wordSum]
  | [a] => by
    have := a.toNat_lt
    simp [wordSum]
    omega
  | a :: b :: rest => by
    have ha := a.toNat_lt
    have hb := b.toNat_lt
    have := wordSum_le rest
    simp only [wordSum, List.length_cons]
    omega

theorem wordSum_add_lt {a b : Bytes} (h : a.length + b.length ≤ 131072) :
    wordSum a + wordSum b < 4294967296 := by
  have := wordSum_le a
  have := wordSum_le b
  omega

theorem wordSum_toBe16 {c : Nat} (h : c < 65536) : wordSum (Bytes.toBe16 c) = c := by
  simp [Bytes.toBe16, wordSum]
  omega

theorem sumWords_eq : ∀ (data : Bytes) {acc : Nat}, acc < 4294967296 →
    sumWords data acc = (acc + wordSum data) % 4294967296
  | [], acc, h => by simp [sumWords, wordSum, Nat.mod_eq_of_lt h]
  | [a], acc, _ => by simp [sumWords, wordSum]
  | a :: b :: rest, acc, _ => by
    rw [sumWords, sumWords_eq rest (Nat.mod_lt _ (by decide)), wordSum]
    omega

/-- **The ones' complement fold** of a sum to 16 bits: `0` for `0`, and otherwise the residue
    modulo `0xffff` taken in `1 ..= 0xffff`. -/
def onesFold (s : Nat) : Nat := if s = 0 then 0 else 1 + (s - 1) % 65535

/-- Folding the carries of a 32-bit sum twice is the ones' complement fold. -/
theorem fold_twice_eq {s : Nat} (h : s < 4294967296) :
    (s % 65536 + s / 65536 + (s % 65536 + s / 65536) / 65536) % 65536 = onesFold s := by
  obtain ⟨k, r, hr, rfl⟩ : ∃ k r, r < 65536 ∧ s = 65536 * k + r :=
    ⟨s / 65536, s % 65536, Nat.mod_lt _ (by decide), (Nat.div_add_mod s 65536).symm⟩
  have hk : k < 65536 := by omega
  rw [show (65536 * k + r) % 65536 = r by omega, show (65536 * k + r) / 65536 = k by omega]
  unfold onesFold
  by_cases hs : r + k < 65536
  · rw [Nat.div_eq_of_lt hs, Nat.add_zero, Nat.mod_eq_of_lt hs]
    split <;> omega
  · have h1 : (r + k) / 65536 = 1 := by omega
    rw [h1]
    split <;> omega

/-- **The checksum is the complement of the folded word sum**, when the word sum fits in 32 bits. -/
theorem checksum16_eq {pseudo payload : Bytes}
    (h : wordSum pseudo + wordSum payload < 4294967296) :
    checksum16 pseudo payload = 65535 - onesFold (wordSum pseudo + wordSum payload) := by
  have h1 : wordSum pseudo < 4294967296 := by omega
  unfold checksum16
  dsimp only
  rw [sumWords_eq pseudo (by decide), Nat.zero_add, Nat.mod_eq_of_lt h1, sumWords_eq payload h1,
    Nat.mod_eq_of_lt h, fold_twice_eq h]

/-- **`sumWords` with its additions checked**: each word is added to the accumulator as an
    unsigned 32-bit addition that gives `none` where it would wrap. -/
def sumWordsChecked : Bytes → Nat → Option Nat
  | a :: b :: rest, acc =>
    if acc + (a.toNat * 256 + b.toNat) < 4294967296 then
      sumWordsChecked rest (acc + (a.toNat * 256 + b.toNat))
    else none
  | [a], acc => if acc + a.toNat * 256 < 4294967296 then some (acc + a.toNat * 256) else none
  | [], acc => some acc

/-- No addition wraps while the final sum fits in 32 bits, since the accumulator only grows. -/
theorem sumWordsChecked_eq : ∀ (data : Bytes) {acc : Nat}, acc + wordSum data < 4294967296 →
    sumWordsChecked data acc = some (acc + wordSum data)
  | [], acc, _ => by simp [sumWordsChecked, wordSum]
  | [a], acc, h => if_pos h
  | a :: b :: rest, acc, h => by
    have hw : wordSum (a :: b :: rest) = (a.toNat * 256 + b.toNat) + wordSum rest := rfl
    rw [hw] at h ⊢
    -- the running sum after the first word is below the final one
    have hrest : acc + (a.toNat * 256 + b.toNat) + wordSum rest < 4294967296 := by
      rw [Nat.add_assoc]
      exact h
    have hlt : acc + (a.toNat * 256 + b.toNat) < 4294967296 :=
      Nat.lt_of_le_of_lt (Nat.le_add_right _ _) hrest
    rw [sumWordsChecked, if_pos hlt, sumWordsChecked_eq rest hrest, Nat.add_assoc]

/-- **The checksum is the RFC 1071 ones' complement sum, and its accumulator never wraps.** For a
    pseudo-header and payload of at most 128 KiB together, with `S` the plain sum of their 16-bit
    words (each part's odd last byte padded on its own): every 32-bit addition of the word sums
    stays in range, the accumulator ends at `S`, and the checksum is `0xffff` less the ones'
    complement fold of `S`. -/
theorem checksum16_folds_exact_word_sum (pseudo payload : Bytes)
    (h : pseudo.length + payload.length ≤ 131072) :
    (sumWordsChecked pseudo 0).bind (sumWordsChecked payload) =
        some (wordSum pseudo + wordSum payload) ∧
      sumWords payload (sumWords pseudo 0) = wordSum pseudo + wordSum payload ∧
      checksum16 pseudo payload = 65535 - onesFold (wordSum pseudo + wordSum payload) := by
  have hS : wordSum pseudo + wordSum payload < 4294967296 := wordSum_add_lt h
  have h1 : wordSum pseudo < 4294967296 := by omega
  refine ⟨?_, ?_, checksum16_eq hS⟩
  · rw [sumWordsChecked_eq pseudo (by omega), Option.bind_some, Nat.zero_add,
      sumWordsChecked_eq payload hS]
  · rw [sumWords_eq pseudo (by decide), Nat.zero_add, Nat.mod_eq_of_lt h1, sumWords_eq payload h1,
      Nat.mod_eq_of_lt hS]

/-- The worked example of RFC 1071, section 3. -/
theorem checksum16_folds_exact_word_sum_rfc1071 :
    ([] : Bytes).length + [0x00, 0x01, 0xf2, 0x03, 0xf4, 0xf5, 0xf6, 0xf7].length ≤ 131072 ∧
      (sumWordsChecked [] 0).bind (sumWordsChecked [0x00, 0x01, 0xf2, 0x03, 0xf4, 0xf5, 0xf6, 0xf7]) =
          some (wordSum [] + wordSum [0x00, 0x01, 0xf2, 0x03, 0xf4, 0xf5, 0xf6, 0xf7]) ∧
        sumWords [0x00, 0x01, 0xf2, 0x03, 0xf4, 0xf5, 0xf6, 0xf7] (sumWords [] 0) =
          wordSum [] + wordSum [0x00, 0x01, 0xf2, 0x03, 0xf4, 0xf5, 0xf6, 0xf7] ∧
        checksum16 [] [0x00, 0x01, 0xf2, 0x03, 0xf4, 0xf5, 0xf6, 0xf7] =
          65535 - onesFold (wordSum [] + wordSum [0x00, 0x01, 0xf2, 0x03, 0xf4, 0xf5, 0xf6, 0xf7]) :=
  ⟨by decide, checksum16_folds_exact_word_sum [] _ (by decide)⟩

example : checksum16 [] [0x00, 0x01, 0xf2, 0x03, 0xf4, 0xf5, 0xf6, 0xf7] = 0x220d := by decide

theorem checksum16_le (pseudo payload : Bytes) : checksum16 pseudo payload ≤ 65535 := by
  unfold checksum16
  dsimp only
  omega

/-- **A checksum written into its own zeroed field verifies**: the segment, with the checksum of
    its zeroed version (or `0xffff` in place of a zero) at an even offset, checks to zero. -/
theorem checksum16_overwrite_verifies {pseudo seg : Bytes} {off c : Nat} (heven : off % 2 = 0)
    (hoff : off + 2 ≤ seg.length) (hlen : pseudo.length + seg.length ≤ 131072)
    (hc : c = checksum16 pseudo (seg.overwrite off [0, 0]) ∨
      (checksum16 pseudo (seg.overwrite off [0, 0]) = 0 ∧ c = 65535)) :
    checksum16 pseudo (seg.overwrite off (Bytes.toBe16 c)) = 0 := by
  have hsplit : ∀ vals : Bytes, vals.length = 2 → wordSum (seg.overwrite off vals) =
      wordSum (seg.take off) + wordSum vals + wordSum (seg.drop (off + 2)) := by
    intro vals hv
    have htake : (seg.take off).length = off := by simp; omega
    rw [Bytes.overwrite, hv, wordSum_append _ (by simp [htake, hv]; omega),
      wordSum_append _ (by rw [htake]; exact heven)]
  have hbound : ∀ vals : Bytes, vals.length = 2 →
      wordSum pseudo + wordSum (seg.overwrite off vals) < 4294967296 := fun vals hv =>
    wordSum_add_lt (by rw [Bytes.length_overwrite (by omega)]; exact hlen)
  -- the zeroed field contributes nothing, the written one its value
  have hz := checksum16_eq (hbound [0, 0] rfl)
  rw [hsplit _ rfl] at hz
  have hc' : c < 65536 := by rcases hc with rfl | ⟨-, rfl⟩ <;> omega
  rw [checksum16_eq (hbound _ rfl), hsplit _ rfl, wordSum_toBe16 hc']
  rw [hz] at hc
  generalize wordSum (seg.take off) = x at hc ⊢
  generalize wordSum (seg.drop (off + 2)) = y at hc ⊢
  generalize wordSum pseudo = w at hc ⊢
  simp only [show wordSum [0, 0] = 0 from rfl, Nat.add_zero] at hc
  unfold onesFold at hc ⊢
  split_ifs at hc ⊢ <;> omega


/-! ## The header stage -/

theorem repairHeader_byteAt {p : Bytes} {hl j : Nat} (hp : 12 ≤ p.length) (hj : j < 10 ∨ 12 ≤ j) :
    (repairHeader p hl).byteAt j = p.byteAt j := by
  have hz : ipChecksumAt + [(0 : UInt8), 0].length ≤ p.length := by simp [ipChecksumAt]; omega
  unfold repairHeader
  dsimp only
  rw [Bytes.byteAt_overwrite_of_lt (by rw [Bytes.length_overwrite hz]; simpa using hz)
      (by simp [ipChecksumAt]; omega),
    Bytes.byteAt_overwrite_of_lt hz (by simp [ipChecksumAt]; omega)]

/-- **The header checksum written by the repair verifies.** -/
theorem repairHeader_verifies {p : Bytes} {hl : Nat} (h12 : 12 ≤ hl) (hp : hl ≤ p.length)
    (h60 : hl ≤ 60) : checksum16 [] ((repairHeader p hl).take hl) = 0 := by
  have hz : ipChecksumAt + [(0 : UInt8), 0].length ≤ p.length := by simp [ipChecksumAt]; omega
  have hzl : (p.overwrite ipChecksumAt [0, 0]).length = p.length := Bytes.length_overwrite hz
  have hseg : (p.take hl).length = hl := by simp; omega
  unfold repairHeader
  dsimp only
  rw [Bytes.take_overwrite (by simp [ipChecksumAt]; omega) (by rw [hzl]; exact hp),
    Bytes.take_overwrite (by simp [ipChecksumAt]; omega) hp]
  -- the field is zeroed, then the checksum of the zeroed header is written over it
  set z := Bytes.overwrite (p.take hl) ipChecksumAt [0, 0]
  have hw : Bytes.overwrite z ipChecksumAt (Bytes.toBe16 (checksum16 [] z)) =
      Bytes.overwrite (p.take hl) ipChecksumAt (Bytes.toBe16 (checksum16 [] z)) :=
    Bytes.overwrite_overwrite (by simp [ipChecksumAt]; omega) rfl
  rw [hw]
  exact checksum16_overwrite_verifies (by decide) (by simp [ipChecksumAt]; omega)
    (by simp; omega) (.inl rfl)

/-! ## The stages of a repair -/

theorem transportOffset_eq_some {proto T off : Nat} {fx : ChecksumFixup} :
    transportOffset proto T fx = some off ↔
      (proto = 6 ∧ fx.tcp = true ∧ 20 ≤ T ∧ off = 16) ∨
        (proto = 17 ∧ fx.udp = true ∧ 8 ≤ T ∧ off = 6) := by
  unfold transportOffset
  split_ifs with h1 h2 <;> grind

/-- **The header gate** of a repair: a checksum is asked for, and the buffer holds an IPv4 header of
    a sound length. -/
def HeaderGate (p : Bytes) (fx : ChecksumFixup) : Prop :=
  fx.any = true ∧ 20 ≤ p.length ∧ p.byteAt 0 / 16 = 4 ∧ 20 ≤ p.byteAt 0 % 16 * 4 ∧
    p.byteAt 0 % 16 * 4 ≤ p.length

/-- **The transport gate**: the total length lies between the header's end and the buffer's, and
    the fix-up asks for the checksum of a segment that holds it, at `off`. -/
def TransportGate (p : Bytes) (fx : ChecksumFixup) (off : Nat) : Prop :=
  p.byteAt 0 % 16 * 4 ≤ p.be16 2 ∧ p.be16 2 ≤ p.length ∧
    transportOffset (p.byteAt 9) (p.be16 2 - p.byteAt 0 % 16 * 4) fx = some off

/-- The buffer after the header stage of a repair. -/
def afterHeader (p : Bytes) (fx : ChecksumFixup) : Bytes :=
  if fx.ip then repairHeader p (p.byteAt 0 % 16 * 4) else p

theorem afterHeader_length {p : Bytes} (fx : ChecksumFixup) (hp : 20 ≤ p.length) :
    (afterHeader p fx).length = p.length := by
  unfold afterHeader
  split
  · exact repairHeader_length hp
  · rfl

theorem afterHeader_byteAt {p : Bytes} (fx : ChecksumFixup) (hp : 20 ≤ p.length) {j : Nat}
    (hj : j < 10 ∨ 12 ≤ j) : (afterHeader p fx).byteAt j = p.byteAt j := by
  unfold afterHeader
  split
  · exact repairHeader_byteAt (by omega) hj
  · rfl

theorem repair_of_not_headerGate {p : Bytes} {fx : ChecksumFixup} (h : ¬HeaderGate p fx) :
    repair p fx = (p, {}) := by
  unfold repair
  split
  · rfl
  · next h1 =>
    simp only [not_or] at h1
    obtain ⟨ha, hl, hv⟩ := h1
    dsimp only
    rw [if_pos]
    by_cases h2 : p.byteAt 0 % 16 * 4 < 20 ∨ p.length < p.byteAt 0 % 16 * 4
    · exact h2
    · exact absurd ⟨by simpa using ha, by omega, by simpa using hv, by omega, by omega⟩ h

/-- **The transport stage of a repair**, with the checksum at `off` in the segment: the field is
    zeroed, the checksum of pseudo-header and segment is written into it, and a UDP checksum of
    zero is sent as `0xffff`. -/
def transportStage (p : Bytes) (fx : ChecksumFixup) (off : Nat) : Bytes × RepairReport :=
  let hl := p.byteAt 0 % 16 * 4
  let T := p.be16 2 - hl
  let proto := p.byteAt 9
  let p₁ := afterHeader p fx
  let pseudo := (p₁.drop 12).take 8 ++ [0, UInt8.ofNat proto] ++ Bytes.toBe16 T
  let p₂ := p₁.overwrite (hl + off) [0, 0]
  let sum := checksum16 pseudo ((p₂.drop hl).take T)
  (p₂.overwrite (hl + off) (Bytes.toBe16 (if proto = 17 ∧ sum = 0 then 65535 else sum)),
    { ip := fx.ip, tcp := proto != 17, udp := proto == 17 })

/-- **The value a transport stage writes** is the checksum, or `0xffff` standing for a UDP
    checksum of zero; it fits in 16 bits and is never zero for UDP. -/
theorem fieldValue_spec (proto : Nat) {sum : Nat} (hs : sum ≤ 65535) :
    let c := if proto = 17 ∧ sum = 0 then 65535 else sum
    (c = sum ∨ (sum = 0 ∧ c = 65535)) ∧ (proto = 17 → c ≠ 0) ∧ c < 65536 := by
  intro c
  by_cases h : proto = 17 ∧ sum = 0
  · have hc : c = 65535 := if_pos h
    exact ⟨.inr ⟨h.2, hc⟩, fun _ => by omega, by omega⟩
  · have hc : c = sum := if_neg h
    exact ⟨.inl hc, fun _ => by omega, by omega⟩

theorem transportStage_snd (p : Bytes) (fx : ChecksumFixup) (off : Nat) :
    (transportStage p fx off).2 =
      { ip := fx.ip, tcp := p.byteAt 9 != 17, udp := p.byteAt 9 == 17 } :=
  rfl

/-- **Past the header gate**, a repair is the header stage followed by the transport stage when
    the total length and the fix-up allow one. -/
theorem repair_of_headerGate {p : Bytes} {fx : ChecksumFixup} (hg : HeaderGate p fx) :
    repair p fx =
      if p.be16 2 < p.byteAt 0 % 16 * 4 ∨ p.be16 2 > p.length then
        (afterHeader p fx, { ip := fx.ip })
      else
        match transportOffset (p.byteAt 9) (p.be16 2 - p.byteAt 0 % 16 * 4) fx with
        | none => (afterHeader p fx, { ip := fx.ip })
        | some off => transportStage p fx off := by
  obtain ⟨hany, h20, hv4, hl20, hlp⟩ := hg
  have hlen := afterHeader_length fx h20
  -- the header stage writes only bytes 10 and 11
  have h2 : (afterHeader p fx).be16 2 = p.be16 2 := by
    simp only [Bytes.be16, afterHeader_byteAt fx h20 (j := 2) (by omega),
      afterHeader_byteAt fx h20 (j := 2 + 1) (by omega)]
  have h9 : (afterHeader p fx).byteAt 9 = p.byteAt 9 := afterHeader_byteAt fx h20 (by omega)
  unfold repair
  rw [if_neg (by simp [hany]; omega), if_neg (by omega)]
  dsimp only
  simp only [show (if fx.ip = true then repairHeader p (p.byteAt 0 % 16 * 4) else p) =
    afterHeader p fx from rfl, h2, hlen, h9]
  by_cases htot : p.be16 2 < p.byteAt 0 % 16 * 4 ∨ p.be16 2 > p.length
  · rw [if_pos htot, if_pos htot]
  · rw [if_neg htot, if_neg htot]
    cases transportOffset (p.byteAt 9) (p.be16 2 - p.byteAt 0 % 16 * 4) fx with
    | none => rfl
    | some off => by_cases h17 : p.byteAt 9 = 17 <;> simp [transportStage, h17]

/-- **What a repair can do**: leave the buffer alone, run the header stage only, or run both
    stages. -/
theorem repair_cases (p : Bytes) (fx : ChecksumFixup) :
    (¬HeaderGate p fx ∧ repair p fx = (p, {})) ∨
      (HeaderGate p fx ∧ (∀ off, ¬TransportGate p fx off) ∧
        repair p fx = (afterHeader p fx, { ip := fx.ip })) ∨
      ∃ off, HeaderGate p fx ∧ TransportGate p fx off ∧ repair p fx = transportStage p fx off := by
  by_cases hg : HeaderGate p fx
  · rw [repair_of_headerGate hg]
    split
    · next htot =>
      exact .inr (.inl ⟨hg, fun off ht => by unfold TransportGate at ht; omega, rfl⟩)
    · next htot =>
      cases hoff : transportOffset (p.byteAt 9) (p.be16 2 - p.byteAt 0 % 16 * 4) fx with
      | none =>
        refine .inr (.inl ⟨hg, fun off ht => ?_, rfl⟩)
        rw [ht.2.2] at hoff
        cases hoff
      | some off => exact .inr (.inr ⟨off, hg, ⟨by omega, by omega, hoff⟩, rfl⟩)
  · exact .inl ⟨hg, repair_of_not_headerGate hg⟩

/-- **The transport stage writes a checksum that verifies.** It keeps the bytes before the
    segment, and the checksum of pseudo-header and segment comes out zero; a UDP checksum field
    is never left all zero. -/
theorem transportStage_spec {p : Bytes} {fx : ChecksumFixup} {off : Nat} (hg : HeaderGate p fx)
    (ht : TransportGate p fx off) :
    let hl := p.byteAt 0 % 16 * 4
    let T := p.be16 2 - hl
    let b' := (transportStage p fx off).1
    b'.take hl = (afterHeader p fx).take hl ∧
      checksum16 ((b'.drop 12).take 8 ++ [0, UInt8.ofNat (p.byteAt 9)] ++ Bytes.toBe16 T)
        ((b'.drop hl).take T) = 0 ∧
      (p.byteAt 9 = 17 → ¬(b'.byteAt (hl + off) = 0 ∧ b'.byteAt (hl + off + 1) = 0)) := by
  intro hl T b'
  obtain ⟨hany, h20, hv4, hl20, hlp⟩ := hg
  obtain ⟨htot1, htot2, hoff⟩ := ht
  have hfield : off % 2 = 0 ∧ off + 2 ≤ T := by
    rcases transportOffset_eq_some.mp hoff with ⟨-, -, h, rfl⟩ | ⟨-, -, h, rfl⟩ <;> omega
  have hlen := afterHeader_length fx h20
  have hTlt : T < 65536 := by have := Bytes.be16_lt p 2; omega
  set p₁ := afterHeader p fx with hp₁
  set seg := (p₁.drop hl).take T with hseg
  have hseglen : seg.length = T := by simp [seg, hlen]; omega
  set pseudo := (p₁.drop 12).take 8 ++ [0, UInt8.ofNat (p.byteAt 9)] ++ Bytes.toBe16 T
    with hpseudo
  have hzero : ((p₁.overwrite (hl + off) [0, 0]).drop hl).take T = Bytes.overwrite seg off [0, 0] :=
    Bytes.drop_take_overwrite (by simp; omega) (by omega)
  have hw : ∀ c, (p₁.overwrite (hl + off) [0, 0]).overwrite (hl + off) (Bytes.toBe16 c) =
      p₁.overwrite (hl + off) (Bytes.toBe16 c) := fun c =>
    Bytes.overwrite_overwrite (by simp; omega) rfl
  have hb' : b' = (p₁.overwrite (hl + off) [0, 0]).overwrite (hl + off) (Bytes.toBe16
      (if p.byteAt 9 = 17 ∧
          checksum16 pseudo (((p₁.overwrite (hl + off) [0, 0]).drop hl).take T) = 0
        then 65535 else checksum16 pseudo (((p₁.overwrite (hl + off) [0, 0]).drop hl).take T))) :=
    rfl
  rw [hzero, hw] at hb'
  obtain ⟨hc, hc0, hclt⟩ :=
    fieldValue_spec (p.byteAt 9) (checksum16_le pseudo (Bytes.overwrite seg off [0, 0]))
  set sum := checksum16 pseudo (Bytes.overwrite seg off [0, 0])
  set c := if p.byteAt 9 = 17 ∧ sum = 0 then 65535 else sum
  have hin : hl + off + (Bytes.toBe16 c).length ≤ p₁.length := by
    rw [Bytes.toBe16_length]; omega
  have hfit : off + (Bytes.toBe16 c).length ≤ T := by rw [Bytes.toBe16_length]; omega
  have hend : hl + T ≤ p₁.length := by omega
  refine ⟨?_, ?_, fun h17 hz => hc0 h17 ?_⟩
  · rw [hb', Bytes.take_overwrite_of_le hin (by omega)]
  · rw [hb', Bytes.drop_take_overwrite_of_le hin (by omega), Bytes.drop_take_overwrite hfit hend,
      ← hpseudo]
    exact checksum16_overwrite_verifies hfield.1 (by rw [← hseg, hseglen]; exact hfield.2)
      (by simp [pseudo]; omega) hc
  · -- the field holds the written value, whose two bytes are not both zero
    have h0 := Bytes.byteAt_overwrite_self hin (i := 0) (by simp)
    have h1 := Bytes.byteAt_overwrite_self hin (i := 1) (by simp)
    rw [Nat.add_zero] at h0
    rw [hb', h0, h1] at hz
    exact Bytes.toBe16_eq_zero hclt hz

theorem afterHeader_verifies {p : Bytes} {fx : ChecksumFixup} (hg : HeaderGate p fx)
    (hip : fx.ip = true) : checksum16 [] ((afterHeader p fx).take (p.byteAt 0 % 16 * 4)) = 0 := by
  obtain ⟨-, h20, -, hl20, hlp⟩ := hg
  rw [afterHeader, if_pos hip]
  exact repairHeader_verifies (by omega) hlp (by omega)

/-- **Which checksums a repair rewrites**: the header checksum when asked and the header is sound;
    a transport checksum when asked, the total length is sound, the protocol matches and the
    segment holds the transport header. -/
theorem repair_report (p : Bytes) (fx : ChecksumFixup) :
    let hl := p.byteAt 0 % 16 * 4
    let T := p.be16 2 - hl
    ((repair p fx).2.ip = true ↔
        fx.ip = true ∧ 20 ≤ p.length ∧ p.byteAt 0 / 16 = 4 ∧ 20 ≤ hl ∧ hl ≤ p.length) ∧
      ((repair p fx).2.tcp = true ↔ fx.tcp = true ∧ 20 ≤ p.length ∧ p.byteAt 0 / 16 = 4 ∧
        20 ≤ hl ∧ hl ≤ p.be16 2 ∧ p.be16 2 ≤ p.length ∧ p.byteAt 9 = 6 ∧ 20 ≤ T) ∧
      ((repair p fx).2.udp = true ↔ fx.udp = true ∧ 20 ≤ p.length ∧ p.byteAt 0 / 16 = 4 ∧
        20 ≤ hl ∧ hl ≤ p.be16 2 ∧ p.be16 2 ≤ p.length ∧ p.byteAt 9 = 17 ∧ 8 ≤ T) := by
  dsimp only
  -- a fix-up asks for something when it asks for one checksum
  have hany : ∀ {b : Bool}, b = true → (b = fx.ip ∨ b = fx.tcp ∨ b = fx.udp) → fx.any = true := by
    intro b hb h
    rcases h with rfl | rfl | rfl <;> simp [ChecksumFixup.any, hb]
  rcases repair_cases p fx with ⟨hg, hr⟩ | ⟨hg, ht, hr⟩ | ⟨off, hg, ht, hr⟩ <;> rw [hr]
  · -- no sound header, or nothing asked: nothing is rewritten and no gate holds
    refine ⟨⟨nofun, ?_⟩, ⟨nofun, ?_⟩, ⟨nofun, ?_⟩⟩
    · exact fun ⟨h, h20, hv, h1, h2⟩ => absurd ⟨hany h (.inl rfl), h20, hv, h1, h2⟩ hg
    · exact fun ⟨h, h20, hv, h1, h2, h3, _⟩ =>
        absurd ⟨hany h (.inr (.inl rfl)), h20, hv, h1, by omega⟩ hg
    · exact fun ⟨h, h20, hv, h1, h2, h3, _⟩ =>
        absurd ⟨hany h (.inr (.inr rfl)), h20, hv, h1, by omega⟩ hg
  · -- the header stage only: no transport gate holds
    obtain ⟨-, h20, hv, h1, h2⟩ := hg
    refine ⟨⟨fun h => ⟨h, h20, hv, h1, h2⟩, fun h => h.1⟩, ⟨nofun, ?_⟩, ⟨nofun, ?_⟩⟩
    · exact fun ⟨h, _, _, _, h3, h4, h6, hT⟩ =>
        (ht 16 ⟨h3, h4, transportOffset_eq_some.mpr (.inl ⟨h6, h, hT, rfl⟩)⟩).elim
    · exact fun ⟨h, _, _, _, h3, h4, h17, hT⟩ =>
        (ht 6 ⟨h3, h4, transportOffset_eq_some.mpr (.inr ⟨h17, h, hT, rfl⟩)⟩).elim
  · -- both stages: the transport gate names the protocol
    obtain ⟨-, h20, hv, h1, h2⟩ := hg
    obtain ⟨h3, h4, hoff⟩ := ht
    rw [transportStage_snd]
    refine ⟨⟨fun h => ⟨h, h20, hv, h1, h2⟩, fun h => h.1⟩, ?_, ?_⟩ <;>
      rcases transportOffset_eq_some.mp hoff with ⟨hp, hf, hT, -⟩ | ⟨hp, hf, hT, -⟩ <;>
      simp [hp, hf] <;> omega

/-- **The checksums a repair writes verify**: the header sums to zero, a transport segment sums to
    zero with its pseudo-header, and a UDP checksum field is never left all zero. -/
theorem repair_verifies (p : Bytes) (fx : ChecksumFixup) :
    let b' := (repair p fx).1
    let r := (repair p fx).2
    let hl := p.byteAt 0 % 16 * 4
    let T := p.be16 2 - hl
    (r.ip = true → checksum16 [] (b'.take hl) = 0) ∧
      (r.tcp = true →
        checksum16 ((b'.drop 12).take 8 ++ [0, 6] ++ Bytes.toBe16 T) ((b'.drop hl).take T) = 0) ∧
      (r.udp = true →
        checksum16 ((b'.drop 12).take 8 ++ [0, 17] ++ Bytes.toBe16 T) ((b'.drop hl).take T) = 0 ∧
          ¬(b'.byteAt (hl + 6) = 0 ∧ b'.byteAt (hl + 7) = 0)) := by
  intro b' r hl T
  rcases repair_cases p fx with ⟨hg, hr⟩ | ⟨hg, ht, hr⟩ | ⟨off, hg, ht, hr⟩
  · -- nothing is rewritten
    simp [r, hr]
  · -- the header stage only
    refine ⟨fun hip => ?_, fun h => by simp [r, hr] at h, fun h => by simp [r, hr] at h⟩
    simp only [b', hr]
    exact afterHeader_verifies hg (by simpa [r, hr] using hip)
  · obtain ⟨htake, hsum, hudp⟩ := transportStage_spec hg ht
    have hb' : b' = (transportStage p fx off).1 := by simp only [b', hr]
    have hr' : r = (transportStage p fx off).2 := by simp only [r, hr]
    refine ⟨fun hip => ?_, fun htcp => ?_, fun hu => ?_⟩
    · rw [hb', htake]
      exact afterHeader_verifies hg (by simpa [hr', transportStage] using hip)
    · -- a TCP checksum was written: the protocol is 6
      have h6 : p.byteAt 9 = 6 := by
        rcases transportOffset_eq_some.mp ht.2.2 with ⟨h6, -⟩ | ⟨h17, -⟩
        · exact h6
        · simp [hr', transportStage, h17] at htcp
      rw [hb', show (6 : UInt8) = UInt8.ofNat (p.byteAt 9) by rw [h6]; rfl]
      exact hsum
    · -- a UDP checksum was written: the protocol is 17 and the field sits at offset 6
      have h17 : p.byteAt 9 = 17 := by simpa [hr', transportStage] using hu
      have hoff6 : off = 6 := by
        rcases transportOffset_eq_some.mp ht.2.2 with ⟨h6, -⟩ | ⟨-, -, -, rfl⟩
        · omega
        · rfl
      subst hoff6
      rw [hb', show (17 : UInt8) = UInt8.ofNat (p.byteAt 9) by rw [h17]; rfl]
      exact ⟨hsum, hudp h17⟩

/-- **Checksum repair writes checksums that verify, and exactly those its gates allow.** With
    `ihl` the header length the first byte declares and `T` the segment length the total length
    leaves: a rewritten header checksum makes the header check to zero; a rewritten TCP or UDP
    checksum makes the segment check to zero with the pseudo-header of addresses, protocol and
    segment length; a UDP checksum field is never left all zero. The header checksum is rewritten
    exactly when asked for, on an IPv4 buffer of at least 20 bytes whose header length lies in
    `20 ..= |b|`; a transport checksum exactly when asked for, on such a buffer whose total length
    lies in `ihl ..= |b|`, with protocol 6 (17) and a segment of at least 20 (8) bytes. -/
theorem repair_writes_verifying_checksums (b : Bytes) (f : ChecksumFixup) :
    let b' := (repair b f).1
    let r := (repair b f).2
    let ihl := b.byteAt 0 % 16 * 4
    let T := b.be16 2 - ihl
    (r.ip = true → checksum16 [] (b'.take ihl) = 0) ∧
      (r.tcp = true →
        checksum16 ((b'.drop 12).take 8 ++ [0, 6] ++ Bytes.toBe16 T) ((b'.drop ihl).take T) = 0) ∧
      (r.udp = true →
        checksum16 ((b'.drop 12).take 8 ++ [0, 17] ++ Bytes.toBe16 T) ((b'.drop ihl).take T) = 0 ∧
          ¬(b'.byteAt (ihl + 6) = 0 ∧ b'.byteAt (ihl + 7) = 0)) ∧
      (r.ip = true ↔ f.ip = true ∧ 20 ≤ b.length ∧ b.byteAt 0 / 16 = 4 ∧ 20 ≤ ihl ∧ ihl ≤ b.length) ∧
      (r.tcp = true ↔ f.tcp = true ∧ 20 ≤ b.length ∧ b.byteAt 0 / 16 = 4 ∧
        20 ≤ ihl ∧ ihl ≤ b.be16 2 ∧ b.be16 2 ≤ b.length ∧ b.byteAt 9 = 6 ∧ 20 ≤ T) ∧
      (r.udp = true ↔ f.udp = true ∧ 20 ≤ b.length ∧ b.byteAt 0 / 16 = 4 ∧
        20 ≤ ihl ∧ ihl ≤ b.be16 2 ∧ b.be16 2 ≤ b.length ∧ b.byteAt 9 = 17 ∧ 8 ≤ T) := by
  obtain ⟨hip, htcp, hudp⟩ := repair_verifies b f
  obtain ⟨rip, rtcp, rudp⟩ := repair_report b f
  exact ⟨hip, htcp, hudp, rip, rtcp, rudp⟩

end Checksum

end Diversion
