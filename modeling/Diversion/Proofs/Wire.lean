import Diversion.Proofs.Compile

/-!
# `Proofs.Wire` — the rule wire format round trips, and a compiled program keeps its rules

A record is 24 little-endian bytes with two padding bytes at offsets 6 and 7. Encoding a list
and decoding it gives the list back (`decodeRules_encodeRules`); decoding a byte string whose
length is a whole number of records and encoding the result gives the string back with the
padding of every record cleared (`encodeRules_recordsOf`). Both rest on one record at a time:
`RuleRecord.decode_encode_append` and `RuleRecord.encode_decode`, then an induction on the
records, where decoding a string that starts with a record splits off that record
(`recordsOf_append`).

A compiled node remembers every bit of the rule it came from (`Node.toRecord_of_decodes`), since
field and test codes are positions in their tables and `Target.toRaw` undoes `Target.ofRaw`.
So `Program.toRecords` gives back the rule list, and, through the wire round trip, the bytes a
program was compiled from up to their padding (`compiled_program_keeps_rules`).
-/

namespace Diversion

open Bytes

/-! ## Little-endian words -/

namespace Bytes

theorem ofNat_eq_of_mod {n : Nat} {x : UInt8} (h : n % 256 = x.toNat) :
    UInt8.ofNat n = x :=
  UInt8.toNat_inj.mp (by simpa using h)

/-- The two bytes `le16 n` writes stand for `n` modulo `2^16`. -/
theorem le16_value (n : Nat) :
    (UInt8.ofNat n).toNat + (UInt8.ofNat (n / 256)).toNat * 256 = n % 65536 := by
  simp
  omega

/-- Two 16-bit halves make the 32-bit word `le32 n` writes. -/
theorem le32_value (n : Nat) : n % 65536 + n / 65536 % 65536 * 65536 = n % 4294967296 := by
  omega

/-- Writing the word two bytes stand for gives the two bytes back. -/
theorem le16_bytes (x y : UInt8) : le16 ((x.toNat + y.toNat * 256) % 65536) = [x, y] := by
  have hx := x.toNat_lt
  have hy := y.toNat_lt
  simp only [le16]
  rw [ofNat_eq_of_mod (x := x) (by omega), ofNat_eq_of_mod (x := y) (by omega)]

/-- Writing the word four bytes stand for gives the four bytes back. -/
theorem le32_bytes (a b c d : UInt8) :
    le32 ((a.toNat + b.toNat * 256 + (c.toNat + d.toNat * 256) * 65536) % 4294967296) =
      [a, b, c, d] := by
  have ha := a.toNat_lt
  have hb := b.toNat_lt
  have hc := c.toNat_lt
  have hd := d.toNat_lt
  simp only [le32, le16, List.cons_append, List.nil_append]
  rw [ofNat_eq_of_mod (x := a) (by omega), ofNat_eq_of_mod (x := b) (by omega),
    ofNat_eq_of_mod (x := c) (by omega), ofNat_eq_of_mod (x := d) (by omega)]

theorem byteAt_append_of_lt {x : Bytes} (y : Bytes) {i : Nat} (h : i < x.length) :
    byteAt (x ++ y) i = byteAt x i := by
  simp only [byteAt, List.getD_eq_getElem?_getD, List.getElem?_append_left h]

end Bytes

/-! ## Padding -/

/-- **`b` with the padding of every record cleared**: the bytes at offsets `24k + 6` and
    `24k + 7` set to zero, all others kept. -/
def clearPadding (b : Bytes) : Bytes :=
  b.mapIdx fun i x => if i % recordSize = 6 ∨ i % recordSize = 7 then 0 else x

theorem clearPadding_append {x : Bytes} (y : Bytes) (hx : x.length = recordSize) :
    clearPadding (x ++ y) = clearPadding x ++ clearPadding y := by
  simp only [clearPadding, List.mapIdx_append, hx, Nat.add_mod_right]

/-! ## One record -/

namespace RuleRecord

/-- **Decoding reads a record back** from the front of any byte string. -/
theorem decode_encode_append (r : RuleRecord) (rest : Bytes) : decode (r.encode ++ rest) = r := by
  obtain ⟨f, t, m, mm, ⟨w0, w1, w2, w3⟩⟩ := r
  simp only [decode, encode, readLe16, readLe32, byteAt, le16, le32, List.cons_append,
    List.nil_append, List.getD_cons_zero, List.getD_cons_succ, le16_value, le32_value]
  simp

/-- Decoding reads only the first 24 bytes. -/
theorem decode_append {x : Bytes} (y : Bytes) (hx : recordSize ≤ x.length) :
    decode (x ++ y) = decode x := by
  simp only [recordSize] at hx
  simp (disch := omega) only [decode, readLe16, readLe32, byteAt_append_of_lt]

/-- **Encoding a decoded record gives its 24 bytes back**, padding cleared. -/
theorem encode_decode {x : Bytes} (hx : x.length = recordSize) :
    (decode x).encode = clearPadding x := by
  -- a record is exactly 24 bytes: name them
  match x, hx with
  | [x0, x1, x2, x3, x4, x5, x6, x7, x8, x9, x10, x11, x12, x13, x14, x15, x16, x17, x18, x19,
      x20, x21, x22, x23], _ =>
    simp [decode, encode, readLe16, readLe32, byteAt, clearPadding, recordSize, le16_bytes,
      le32_bytes]

end RuleRecord

/-! ## Whole lists -/

theorem encodeRules_cons (r : RuleRecord) (rs : List RuleRecord) :
    encodeRules (r :: rs) = r.encode ++ encodeRules rs := rfl

/-- **A byte string that starts with a record** decodes to that record, then the rest. -/
theorem recordsOf_append {x : Bytes} (y : Bytes) (hx : x.length = recordSize) :
    recordsOf (x ++ y) = RuleRecord.decode x :: recordsOf y := by
  have hlen : (x ++ y).length / recordSize = y.length / recordSize + 1 := by
    simp only [List.length_append, hx, recordSize]
    omega
  simp only [recordsOf, hlen, List.range_succ_eq_map, List.map_cons, List.map_map,
    List.cons.injEq]
  refine ⟨by rw [Nat.mul_zero, List.drop_zero, RuleRecord.decode_append y (by omega)], ?_⟩
  apply List.map_congr_left
  intro i _
  -- the records after the first are read from `y`, 24 bytes further on
  have hle : x.length ≤ recordSize * (i + 1) := by
    rw [hx]
    exact Nat.le_mul_of_pos_right _ (by omega)
  have hdrop : (x ++ y).drop (recordSize * (i + 1)) = y.drop (recordSize * i) := by
    rw [List.drop_append, List.drop_eq_nil_of_le hle, List.nil_append, hx, Nat.mul_succ,
      Nat.add_sub_cancel]
  simp only [Function.comp, Nat.succ_eq_add_one, hdrop]

/-- **Decoding an encoded list gives the list back.** -/
theorem recordsOf_encodeRules (rs : List RuleRecord) : recordsOf (encodeRules rs) = rs := by
  induction rs with
  | nil => rfl
  | cons r rs ih =>
    rw [encodeRules_cons, recordsOf_append _ (RuleRecord.encode_length r), ih,
      ← List.append_nil r.encode, RuleRecord.decode_encode_append]

theorem decodeRules_encodeRules (rs : List RuleRecord) :
    decodeRules (encodeRules rs) = .ok rs := by
  simp [decodeRules, recordSize, recordsOf_encodeRules]

/-- **Decoding fails exactly on a length that is not a whole number of records.** -/
theorem decodeRules_isError_iff (b : Bytes) :
    (∃ e, decodeRules b = .error e) ↔ b.length % recordSize ≠ 0 := by
  unfold decodeRules
  split_ifs with h <;> simp [h]

/-- **Encoding the records of a byte string gives it back**, padding cleared. Induction on the
    number of records, splitting off the first. -/
theorem encodeRules_recordsOf (b : Bytes) (hb : b.length % recordSize = 0) :
    encodeRules (recordsOf b) = clearPadding b := by
  obtain ⟨n, hn⟩ : ∃ n, b.length = recordSize * n :=
    ⟨b.length / recordSize, by have := Nat.div_add_mod b.length recordSize; omega⟩
  induction n generalizing b with
  | zero =>
    have hnil : b = [] := List.eq_nil_of_length_eq_zero (by simpa using hn)
    subst hnil
    rfl
  | succ n ih =>
    have hx : (b.take recordSize).length = recordSize := by
      simp only [List.length_take]; rw [hn]; simp [Nat.mul_succ]
    have hy : (b.drop recordSize).length = recordSize * n := by
      simp only [List.length_drop, hn, Nat.mul_succ, Nat.add_sub_cancel]
    rw [← List.take_append_drop recordSize b, recordsOf_append _ hx, clearPadding_append _ hx,
      encodeRules_cons, RuleRecord.encode_decode hx, ih _ (by rw [hy]; simp) hy]

/-- **The rule wire format round trips.** Encoding writes 24 bytes per rule and decodes back to
    the rules; decoding fails exactly on a ragged length, and otherwise encodes back to the bytes
    with every record's padding cleared; every 16-bit continuation value, the two sentinels
    included, is what its target encodes back to. -/
theorem rule_wire_format_round_trips (rs : List RuleRecord) (b : Bytes) (r : UInt16) :
    (encodeRules rs).length = 24 * rs.length ∧ decodeRules (encodeRules rs) = .ok rs ∧
      ((∃ e, decodeRules b = .error e) ↔ b.length % 24 ≠ 0) ∧
      (b.length % 24 = 0 →
        ∃ rs', decodeRules b = .ok rs' ∧ encodeRules rs' = clearPadding b) ∧
      (Target.ofRaw r.toNat).toRaw = r.toNat := by
  refine ⟨encodeRules_length rs, decodeRules_encodeRules rs, decodeRules_isError_iff b,
    fun hb => ⟨recordsOf b, ?_, encodeRules_recordsOf b hb⟩, Target.toRaw_ofRaw r.toNat⟩
  simp [decodeRules, recordSize, hb]

/-! ## Compiled programs keep their rules -/

theorem Field.code_of_ofCode? {k : Nat} {f : Field} (h : Field.ofCode? k = some f) :
    f.code = k := by
  obtain ⟨hk, rfl⟩ := List.getElem?_eq_some_iff.mp h
  exact List.Nodup.idxOf_getElem (by decide) k hk

theorem Test.code_of_ofCode? {k : Nat} {t : Test} (h : Test.ofCode? k = some t) :
    t.code = k := by
  obtain ⟨hk, rfl⟩ := List.getElem?_eq_some_iff.mp h
  -- the codes are the positions in `Test.all`
  have hcode : ∀ t, t.code = Test.all.idxOf t := by intro t; cases t <;> rfl
  rw [hcode]
  exact List.Nodup.idxOf_getElem (by decide) k hk

/-- **A node gives back the rule it decodes**: every bit of field, test, continuations and
    argument. -/
theorem Node.toRecord_of_decodes {r : RuleRecord} {n : Node} (h : n.Decodes r) :
    n.toRecord = r := by
  obtain ⟨hf, ht, ha, hm, hmm⟩ := h
  simp only [Node.toRecord, Field.code_of_ofCode? hf, Test.code_of_ofCode? ht, hm, hmm, ha,
    Target.toRaw_ofRaw, UInt8.ofNat_toNat, UInt16.ofNat_toNat]

theorem map_toRecord_of_decodes {rs : List RuleRecord} {ns : List Node}
    (h : List.Forall₂ Node.Decodes rs ns) : ns.map Node.toRecord = rs := by
  induction h with
  | nil => rfl
  | cons hd _ ih => rw [List.map_cons, Node.toRecord_of_decodes hd, ih]

theorem toRecords_of_compileRecords {rs : List RuleRecord} {p : Program}
    (h : compileRecords rs = .ok p) : p.toRecords = rs :=
  map_toRecord_of_decodes (compileRecords_eq_ok_iff.mp h).2

/-- **A compiled program keeps every bit of its rule list.** The records of a program compiled
    from `rs` are `rs`, and they compile to the same program; a program compiled from wire bytes
    encodes back to those bytes with the padding cleared, and those compile to it again. -/
theorem compiled_program_keeps_rules (rs : List RuleRecord) (p : Program) (b : Bytes)
    (q : Program) :
    (compileRecords rs = .ok p → p.toRecords = rs ∧ compileRecords p.toRecords = .ok p) ∧
      (compile b = .ok q → encodeRules q.toRecords = clearPadding b ∧
        compile (encodeRules q.toRecords) = .ok q) := by
  refine ⟨fun hc => ⟨toRecords_of_compileRecords hc, ?_⟩, fun hc => ?_⟩
  · rw [toRecords_of_compileRecords hc, hc]
  · -- compiling wire bytes is decoding, then compiling the records
    rw [compile_eq_bind] at hc
    unfold decodeRules at hc
    split_ifs at hc with hb
    · have hq : q.toRecords = recordsOf b := toRecords_of_compileRecords hc
      refine ⟨by rw [hq, encodeRules_recordsOf b hb], ?_⟩
      rw [compile_eq_bind, hq, decodeRules_encodeRules]
      exact hc
    · cases hc

/-- The statement at the two-rule filter `ip && tcp.DstPort == 443`, compiled from its records
    and from its 48 wire bytes. -/
theorem compiled_program_keeps_rules_port :
    let rs : List RuleRecord :=
      [{ field := 5, test := 0, onMatch := 1, onMismatch := 258, arg := ⟨1, 0, 0, 0⟩ },
       { field := 39, test := 0, onMatch := 257, onMismatch := 258, arg := ⟨443, 0, 0, 0⟩ }]
    let p : Program :=
      ⟨[⟨.ip, .eq, ⟨1, 0, 0, 0⟩, .node 1, .reject⟩,
        ⟨.tcpDstPort, .eq, ⟨443, 0, 0, 0⟩, .accept, .reject⟩]⟩
    let b : Bytes := encodeRules rs
    compileRecords rs = .ok p ∧ compile b = .ok p ∧
      (compileRecords rs = .ok p → p.toRecords = rs ∧ compileRecords p.toRecords = .ok p) ∧
      (compile b = .ok p → encodeRules p.toRecords = clearPadding b ∧
        compile (encodeRules p.toRecords) = .ok p) := by
  intro rs p b
  have hc : compileRecords rs = .ok p := by decide
  have hb : compile b = .ok p := by decide
  exact ⟨hc, hb, compiled_program_keeps_rules rs p b p⟩

end Diversion
