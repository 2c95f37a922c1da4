import Diversion.Bytes
import Diversion.Error
import Diversion.Rule.Operand

/-!
# `Diversion.Rule.Record` — the rule wire format

A rule record is 24 bytes, little-endian: field code, test code, the two continuations, two
padding bytes, then the four argument words. Records hold raw codes; what they mean is checked
by the compiler. Any byte string whose length is a multiple of 24 decodes; the padding is
ignored on the way in and written as zeros on the way out.

## Contents
- `RuleRecord`, `RuleRecord.encode`, `RuleRecord.decode`.
- `encodeRules`, `decodeRules`, and the length lemmas.
-/

namespace Diversion

/-- Bytes per rule record. -/
def recordSize : Nat := 24

/-- **A rule as it travels on the wire.** -/
structure RuleRecord where
  field : UInt8
  test : UInt8
  onMatch : UInt16
  onMismatch : UInt16
  arg : Operand := .zero
  deriving DecidableEq, Repr, Inhabited

namespace RuleRecord

open Bytes

/-- **The 24 bytes of a record.** -/
def encode (r : RuleRecord) : Bytes :=
  [r.field, r.test] ++ le16 r.onMatch.toNat ++ le16 r.onMismatch.toNat ++ [0, 0] ++
    le32 r.arg.w0.toNat ++ le32 r.arg.w1.toNat ++ le32 r.arg.w2.toNat ++ le32 r.arg.w3.toNat

/-- **The record in the first 24 bytes of `b`.** -/
def decode (b : Bytes) : RuleRecord where
  field := UInt8.ofNat (b.byteAt 0)
  test := UInt8.ofNat (b.byteAt 1)
  onMatch := UInt16.ofNat (b.readLe16 2)
  onMismatch := UInt16.ofNat (b.readLe16 4)
  arg := ⟨UInt32.ofNat (b.readLe32 8), UInt32.ofNat (b.readLe32 12),
    UInt32.ofNat (b.readLe32 16), UInt32.ofNat (b.readLe32 20)⟩

@[simp] theorem encode_length (r : RuleRecord) : r.encode.length = recordSize := by
  simp [encode, recordSize]

end RuleRecord

/-- **The wire form of a rule list**: the records' bytes, one after another. -/
def encodeRules (rs : List RuleRecord) : Bytes := rs.flatMap RuleRecord.encode

/-- The records of a byte string whose length is a multiple of 24. -/
def recordsOf (b : Bytes) : List RuleRecord :=
  (List.range (b.length / recordSize)).map fun i => RuleRecord.decode (b.drop (recordSize * i))

/-- **Decoding a rule list**: refused unless the length is a whole number of records. -/
def decodeRules (b : Bytes) : Except FilterError (List RuleRecord) :=
  if b.length % recordSize = 0 then .ok (recordsOf b) else .error (.raggedLength b.length)

@[simp] theorem encodeRules_length (rs : List RuleRecord) :
    (encodeRules rs).length = recordSize * rs.length := by
  induction rs with
  | nil => rfl
  | cons r rs ih =>
    simp only [encodeRules, List.flatMap_cons, List.length_append, RuleRecord.encode_length,
      List.length_cons] at *
    rw [ih]
    simp [Nat.mul_succ, Nat.add_comm]

end Diversion
