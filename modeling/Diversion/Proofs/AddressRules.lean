import Mathlib.Tactic.IntervalCases
import Diversion.Rule.Spec
import Diversion.Proofs.Parse
import Diversion.Proofs.Compile

/-!
# `Proofs.AddressRules` — an address in a rule is the word layout the packet reader extracts

A rule list may give an argument as an address text. It becomes four words by the layout the
packet reader uses for the addresses in a header: an IPv6 address's sixteen octets as four
big-endian words with the last four octets in word 0, an IPv4 address's four octets as word 0 of
an otherwise zero operand. So the words of an address text are the value `extract` yields for a
packet carrying that address (`Arg.words_address_v6`, `extract_ipv6_addresses`, and the IPv4
twins), and the one-rule program testing `ipv6.DstAddr` for equality with an address accepts
exactly the packets with that destination (`dstAddrRule_accepts_iff`).

The last step needs the layout to be injective: sixteen octets are determined by their four
words (`addressWords_inj`), and an operand by the number it stands for (`Operand.toNat_inj`).

An address "has text form `s`" when the literal parser reads `s` as its octets: the theorems take
that as their hypothesis.
-/

namespace Diversion

open Bytes

/-! ## Words of octets -/

/-- **The big-endian word of four octets** read from an address's octets is the word the packet
    reader reads at the same place. -/
theorem Arg.octetWord_map (A : Bytes) (i : Nat) :
    Arg.octetWord (A.map UInt8.toNat) i = A.be32 i := by
  have hget : ∀ j, (A.map UInt8.toNat).getD j 0 = A.byteAt j := by
    intro j
    simp only [byteAt, List.getD_eq_getElem?_getD, List.getElem?_map]
    cases A[j]? <;> rfl
  simp only [Arg.octetWord, hget, be32, be16, Nat.add_assoc, Nat.reduceAdd]
  omega

/-- **The words of an IPv6 address text** are its octets laid out as the packet reader lays out
    the addresses of an IPv6 header. -/
theorem Arg.words_address_v6 {s : String} {A : Bytes} (hA : A.length = 16)
    (hs : IpLiteral.parse s = some (A.map UInt8.toNat)) :
    (Arg.address s).words = .ok (addressWords A 0) := by
  have hlen : (A.map UInt8.toNat).length ≠ 4 := by simp [hA]
  simp only [Arg.words, hs, if_neg hlen, Arg.octetWord_map, addressWords, Nat.zero_add]

/-- **The words of an IPv4 address text**: its big-endian word in word 0, the rest zero. -/
theorem Arg.words_address_v4 {s : String} {A : Bytes} (hA : A.length = 4)
    (hs : IpLiteral.parse s = some (A.map UInt8.toNat)) :
    (Arg.address s).words = .ok (.ofWord (A.be32 0)) := by
  have hlen : (A.map UInt8.toNat).length = 4 := by simp [hA]
  simp only [Arg.words, hs, if_pos hlen, Arg.octetWord_map]

/-! ## Addresses in packets -/

theorem addressWords_window (b : Bytes) (off : Nat) :
    addressWords ((b.drop off).take 16) 0 = addressWords b off := by
  simp only [addressWords, be32_window b (show 12 + 3 < 16 by omega),
    be32_window b (show 8 + 3 < 16 by omega), be32_window b (show 4 + 3 < 16 by omega),
    be32_window b (show 0 + 3 < 16 by omega), Nat.zero_add, Nat.add_zero]

theorem Ipv6Header.read?_addresses {b : Bytes} {ip : Ipv6Header} (h : read? b = some ip) :
    ip.srcAddr = addressWords b 8 ∧ ip.dstAddr = addressWords b 24 := by
  unfold read? at h
  split_ifs at h
  cases h
  exact ⟨rfl, rfl⟩

theorem Ipv4Header.read?_addresses {b : Bytes} {ip : Ipv4Header} (h : read? b = some ip) :
    ip.srcAddr = b.be32 12 ∧ ip.dstAddr = b.be32 16 := by
  unfold read? at h
  simp only at h
  split_ifs at h
  cases h
  exact ⟨rfl, rfl⟩

/-- **The address fields of an IPv6 packet** are the words of the octets at 8 to 24 and 24 to
    40. -/
theorem extract_ipv6_addresses {b : Bytes} (h : (PacketView.ofBytes b).ipv6.isSome)
    (a : Address) :
    extract .ipv6SrcAddr (.ofBytes b) a = some (addressWords ((b.drop 8).take 16) 0) ∧
      extract .ipv6DstAddr (.ofBytes b) a = some (addressWords ((b.drop 24).take 16) 0) := by
  obtain ⟨ip, hip⟩ := Option.isSome_iff_exists.mp h
  have hr : Ipv6Header.read? b = some ip := by rw [← PacketView.ofBytes_ipv6, hip]
  obtain ⟨hsrc, hdst⟩ := Ipv6Header.read?_addresses hr
  simp [extract, hip, hsrc, hdst, addressWords_window]

/-- **The address fields of an IPv4 packet** are the words of the octets at 12 to 16 and 16 to
    20, in word 0. -/
theorem extract_ipv4_addresses {b : Bytes} (h : (PacketView.ofBytes b).ipv4.isSome)
    (a : Address) :
    extract .ipSrcAddr (.ofBytes b) a = some (.ofWord (be32 ((b.drop 12).take 4) 0)) ∧
      extract .ipDstAddr (.ofBytes b) a = some (.ofWord (be32 ((b.drop 16).take 4) 0)) := by
  obtain ⟨ip, hip⟩ := Option.isSome_iff_exists.mp h
  have hr : Ipv4Header.read? b = some ip := by rw [← PacketView.ofBytes_ipv4, hip]
  obtain ⟨hsrc, hdst⟩ := Ipv4Header.read?_addresses hr
  simp [extract, hip, hsrc, hdst, be32_window b (show 0 + 3 < 4 by omega)]

/-! ## The layout is injective -/

/-- **An operand is the number it stands for**: four 32-bit digits in base 2^32. -/
theorem Operand.toNat_inj {o o' : Operand} : o.toNat = o'.toNat ↔ o = o' := by
  obtain ⟨a0, a1, a2, a3⟩ := o
  obtain ⟨b0, b1, b2, b3⟩ := o'
  constructor
  · intro h
    have := a0.toNat_lt; have := a1.toNat_lt; have := a2.toNat_lt; have := a3.toNat_lt
    have := b0.toNat_lt; have := b1.toNat_lt; have := b2.toNat_lt; have := b3.toNat_lt
    simp only [toNat] at h
    simp only [Operand.mk.injEq, ← UInt32.toNat_inj]
    omega
  · intro h
    rw [h]

/-- Four big-endian bytes are determined by their word. -/
theorem byteAt_eq_of_be32_eq {X A : Bytes} {i : Nat} (h : X.be32 i = A.be32 i) :
    ∀ j < 4, X.byteAt (i + j) = A.byteAt (i + j) := by
  have := X.byteAt_lt i; have := X.byteAt_lt (i + 1); have := X.byteAt_lt (i + 2)
  have := X.byteAt_lt (i + 3); have := A.byteAt_lt i; have := A.byteAt_lt (i + 1)
  have := A.byteAt_lt (i + 2); have := A.byteAt_lt (i + 3)
  simp only [be32, be16, Nat.add_assoc, Nat.reduceAdd] at h
  -- digits in base 256 are unique
  have key : X.byteAt i = A.byteAt i ∧ X.byteAt (i + 1) = A.byteAt (i + 1) ∧
      X.byteAt (i + 2) = A.byteAt (i + 2) ∧ X.byteAt (i + 3) = A.byteAt (i + 3) := by
    omega
  intro j hj
  interval_cases j
  exacts [key.1, key.2.1, key.2.2.1, key.2.2.2]

/-- **Sixteen octets are determined by their address words.** -/
theorem addressWords_inj {X A : Bytes} (hX : X.length = 16) (hA : A.length = 16) :
    addressWords X 0 = addressWords A 0 ↔ X = A := by
  constructor
  · intro h
    simp only [addressWords, Nat.zero_add, Operand.mk.injEq] at h
    -- each word fits in 32 bits, so equal words mean equal reads
    have hw : ∀ i, UInt32.ofNat (X.be32 i) = UInt32.ofNat (A.be32 i) → X.be32 i = A.be32 i := by
      intro i hi
      have h' := congrArg UInt32.toNat hi
      simp only [UInt32.toNat_ofNat', Nat.reducePow, Nat.mod_eq_of_lt (X.be32_lt i),
        Nat.mod_eq_of_lt (A.be32_lt i)] at h'
      exact h'
    obtain ⟨h12, h8, h4, h0⟩ := h
    have hbytes : ∀ i < 16, X.byteAt i = A.byteAt i := by
      intro i hi
      obtain ⟨q, j, hj, rfl⟩ : ∃ q j, j < 4 ∧ i = 4 * q + j := ⟨i / 4, i % 4, by omega, by omega⟩
      have hq : q < 4 := by omega
      interval_cases q
      · exact byteAt_eq_of_be32_eq (hw 0 h0) j hj
      · exact byteAt_eq_of_be32_eq (hw 4 h4) j hj
      · exact byteAt_eq_of_be32_eq (hw 8 h8) j hj
      · exact byteAt_eq_of_be32_eq (hw 12 h12) j hj
    apply List.ext_getElem (hX.trans hA.symm)
    intro i hiX hiA
    have hb := hbytes i (by omega)
    simp only [byteAt, List.getD_eq_getElem?_getD, List.getElem?_eq_getElem hiX,
      List.getElem?_eq_getElem hiA, Option.getD_some] at hb
    exact UInt8.toNat_inj.mp hb
  · rintro rfl
    rfl

/-! ## A rule on the destination address -/

/-- The rule `{field: ipv6_dst_addr, test: eq, arg: s, on_match: accept, on_mismatch: reject}`. -/
def dstAddrRule (s : String) : RuleSpec :=
  { field := .ipv6DstAddr, test := .eq, arg := .address s, onMatch := .accept,
    onMismatch := .reject }

/-- The record of the rule, its address text read as `w`. -/
def dstAddrRecord (w : Operand) : RuleRecord :=
  { field := UInt8.ofNat Field.ipv6DstAddr.code, test := UInt8.ofNat Test.eq.code,
    onMatch := UInt16.ofNat Target.accept.toRaw, onMismatch := UInt16.ofNat Target.reject.toRaw,
    arg := w }

/-- The node the rule compiles to. -/
def dstAddrNode (w : Operand) : Node := ⟨.ipv6DstAddr, .eq, w, .accept, .reject⟩

theorem dstAddrRule_toRecord {s : String} {w : Operand} (h : (Arg.address s).words = .ok w) :
    (dstAddrRule s).toRecord = .ok (dstAddrRecord w) := by
  simp [RuleSpec.toRecord, dstAddrRule, h, bind, Except.bind, pure, Except.pure, dstAddrRecord]

theorem dstAddrRecord_field (w : Operand) :
    Field.ofCode? (dstAddrRecord w).field.toNat = some .ipv6DstAddr :=
  show Field.ofCode? (UInt8.ofNat Field.ipv6DstAddr.code).toNat = some .ipv6DstAddr by decide

/-- **The rule's record is valid whatever the address**: the field is wide, so every argument
    fits. -/
theorem dstAddrRecord_valid (w : Operand) : (dstAddrRecord w).Valid 0 1 where
  field := show (UInt8.ofNat Field.ipv6DstAddr.code).toNat ≤ 57 by decide
  test := show (UInt8.ofNat Test.eq.code).toNat ≤ 5 by decide
  onMatch := show Target.Admissible 0 1 (UInt16.ofNat Target.accept.toRaw).toNat by decide
  onMismatch := show Target.Admissible 0 1 (UInt16.ofNat Target.reject.toRaw).toNat by decide
  narrow f hf := by
    rw [dstAddrRecord_field, Option.some.injEq] at hf
    exact .inr (.inl hf.symm)
  bound f hf := by
    rw [dstAddrRecord_field, Option.some.injEq] at hf
    subst hf
    have hw := w.w0.toNat_lt
    simp only [Field.maxArg, Field.info, Field.u32Max, dstAddrRecord]
    omega

/-- **The rule compiles to its one node.** -/
theorem compileRecords_dstAddrRecord (w : Operand) :
    compileRecords [dstAddrRecord w] = .ok ⟨[dstAddrNode w]⟩ := by
  rw [compileRecords_eq_ok_iff]
  refine ⟨⟨by simp, by simp, fun i hi => ?_⟩, .cons ?_ .nil⟩
  · obtain rfl : i = 0 := by simpa using hi
    exact dstAddrRecord_valid w
  · exact ⟨dstAddrRecord_field w,
      show Test.ofCode? (UInt8.ofNat Test.eq.code).toNat = some .eq by decide, rfl,
      show Target.accept = Target.ofRaw (UInt16.ofNat Target.accept.toRaw).toNat by decide,
      show Target.reject = Target.ofRaw (UInt16.ofNat Target.reject.toRaw).toNat by decide⟩

/-- **The one-node program accepts exactly when its node matches.** -/
theorem accepts_dstAddrNode (w : Operand) (b : Bytes) (a : Address) :
    Program.accepts ⟨[dstAddrNode w]⟩ b a = (dstAddrNode w).satisfied (.ofBytes b) a := by
  simp only [Program.accepts, Program.evaluate, Program.stepBound, Program.walk_succ,
    Program.node?, List.getElem?_cons_zero, Node.next, dstAddrNode]
  cases Node.satisfied _ _ _ <;> rfl

/-- **The destination rule for IPv6 address `A` accepts exactly the IPv6 packets whose
    destination octets are `A`.** -/
theorem dstAddrRule_accepts_iff {A : Bytes} (hA : A.length = 16) (b : Bytes) (a : Address) :
    Program.accepts ⟨[dstAddrNode (addressWords A 0)]⟩ b a = true ↔
      (PacketView.ofBytes b).ipv6.isSome ∧ (b.drop 24).take 16 = A := by
  rw [accepts_dstAddrNode]
  by_cases h6 : (PacketView.ofBytes b).ipv6.isSome
  · -- the destination is read, and compared as a number
    have hlen : ((b.drop 24).take 16).length = 16 := by
      have := (Ipv6Header.read?_isSome_iff b).mp (PacketView.ofBytes_ipv6 b ▸ h6)
      simp
      omega
    simp only [Node.satisfied, dstAddrNode, (extract_ipv6_addresses h6 a).2, Test.compare,
      Test.holds, beq_iff_eq, Operand.toNat_inj, addressWords_inj hlen hA, h6, true_and]
  · -- no IPv6 header: the field has no value and the node takes the mismatch branch
    have hnone : (PacketView.ofBytes b).ipv6 = none := by simpa using h6
    simp [Node.satisfied, dstAddrNode, extract, hnone]

/-! ## Address arguments -/

/-- **Addresses in a rule list use the word layout the packet reader extracts.** For an IPv6
    address of octets `A` with text form `s`, the argument `s` is the four words the reader
    gives for `A` as the source (bytes 8 to 24) or destination (bytes 24 to 40) of an IPv6
    packet, and the rule testing `ipv6.DstAddr` for equality with `s` compiles to a program that
    accepts exactly the IPv6 packets whose destination is `A`. For an IPv4 address of octets
    `A`, the argument is `A`'s big-endian word with three zero words, the value extracted for
    `ip.SrcAddr` (bytes 12 to 16) and `ip.DstAddr` (bytes 16 to 20). -/
theorem address_arguments_match_packet_words :
    (∀ (s : String) (A : Bytes), A.length = 16 → IpLiteral.parse s = some (A.map UInt8.toNat) →
      (Arg.address s).words = .ok (addressWords A 0) ∧
      (∀ b a, (PacketView.ofBytes b).ipv6.isSome → (b.drop 8).take 16 = A →
        extract .ipv6SrcAddr (.ofBytes b) a = some (addressWords A 0)) ∧
      (∀ b a, (PacketView.ofBytes b).ipv6.isSome → (b.drop 24).take 16 = A →
        extract .ipv6DstAddr (.ofBytes b) a = some (addressWords A 0)) ∧
      ∃ r p, (dstAddrRule s).toRecord = .ok r ∧ compileRecords [r] = .ok p ∧
        ∀ b a, p.accepts b a = true ↔
          (PacketView.ofBytes b).ipv6.isSome ∧ (b.drop 24).take 16 = A) ∧
    (∀ (s : String) (A : Bytes), A.length = 4 → IpLiteral.parse s = some (A.map UInt8.toNat) →
      (Arg.address s).words = .ok (.ofWord (A.be32 0)) ∧
      (∀ b a, (PacketView.ofBytes b).ipv4.isSome → (b.drop 12).take 4 = A →
        extract .ipSrcAddr (.ofBytes b) a = some (.ofWord (A.be32 0))) ∧
      (∀ b a, (PacketView.ofBytes b).ipv4.isSome → (b.drop 16).take 4 = A →
        extract .ipDstAddr (.ofBytes b) a = some (.ofWord (A.be32 0)))) := by
  constructor
  · intro s A hA hs
    have hw := Arg.words_address_v6 hA hs
    refine ⟨hw, fun b a h6 hsrc => ?_, fun b a h6 hdst => ?_,
      ⟨_, _, dstAddrRule_toRecord hw, compileRecords_dstAddrRecord _, dstAddrRule_accepts_iff hA⟩⟩
    · rw [(extract_ipv6_addresses h6 a).1, hsrc]
    · rw [(extract_ipv6_addresses h6 a).2, hdst]
  · intro s A hA hs
    refine ⟨Arg.words_address_v4 hA hs, fun b a h4 hsrc => ?_, fun b a h4 hdst => ?_⟩
    · rw [(extract_ipv4_addresses h4 a).1, hsrc]
    · rw [(extract_ipv4_addresses h4 a).2, hdst]

/-- The two addresses of the rule-list documentation, `2001:db8::1` and `10.0.0.1`. -/
theorem address_arguments_match_packet_words_documented :
    (IpLiteral.parse "2001:db8::1" =
        some (([0x20, 0x01, 0x0d, 0xb8, 0, 0, 0, 0, 0, 0, 0, 0, 0, 0, 0, 1] : Bytes).map
          UInt8.toNat) ∧
      (Arg.address "2001:db8::1").words =
        .ok (addressWords [0x20, 0x01, 0x0d, 0xb8, 0, 0, 0, 0, 0, 0, 0, 0, 0, 0, 0, 1] 0)) ∧
    (IpLiteral.parse "10.0.0.1" = some (([10, 0, 0, 1] : Bytes).map UInt8.toNat) ∧
      (Arg.address "10.0.0.1").words = .ok (.ofWord (be32 [10, 0, 0, 1] 0))) :=
  ⟨⟨by decide, (address_arguments_match_packet_words.1 _ _ (by decide) (by decide)).1⟩,
    ⟨by decide, (address_arguments_match_packet_words.2 _ _ (by decide) (by decide)).1⟩⟩

example :
    addressWords [0x20, 0x01, 0x0d, 0xb8, 0, 0, 0, 0, 0, 0, 0, 0, 0, 0, 0, 1] 0 =
      ⟨1, 0, 0, 0x20010db8⟩ := by decide

end Diversion
