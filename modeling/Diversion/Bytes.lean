/-!
# `Diversion.Bytes` — byte strings and the integers read from them

Packets and wire-format rule lists are byte strings. Header fields are big-endian, rule records
little-endian. Reads are total: a byte past the end reads as `0`, and every reader of a header
checks the length first, so the default is never observed by a caller that checked.

## Contents
- `Bytes`, `byteAt`, `be16`, `be32`: big-endian reads used by the packet reader.
- `le16`, `le32`, `readLe16`, `readLe32`: the little-endian words of the rule wire format, with
  the read-after-write lemmas.
-/

namespace Diversion

/-- A byte string: a packet buffer or an encoded rule list. -/
abbrev Bytes := List UInt8

namespace Bytes

/-- **The byte at `i`** as a number, `0` past the end. -/
def byteAt (b : Bytes) (i : Nat) : Nat := (b.getD i 0).toNat

/-- **Big-endian 16-bit word** starting at `i`. -/
def be16 (b : Bytes) (i : Nat) : Nat := b.byteAt i * 256 + b.byteAt (i + 1)

/-- **Big-endian 32-bit word** starting at `i`. -/
def be32 (b : Bytes) (i : Nat) : Nat := b.be16 i * 65536 + b.be16 (i + 2)

/-- Two little-endian bytes of the low 16 bits of `n`. -/
def le16 (n : Nat) : Bytes := [UInt8.ofNat n, UInt8.ofNat (n / 256)]

/-- Four little-endian bytes of the low 32 bits of `n`. -/
def le32 (n : Nat) : Bytes := le16 n ++ le16 (n / 65536)

/-- The little-endian 16-bit word at `i`. -/
def readLe16 (b : Bytes) (i : Nat) : Nat := b.byteAt i + b.byteAt (i + 1) * 256

/-- The little-endian 32-bit word at `i`. -/
def readLe32 (b : Bytes) (i : Nat) : Nat := b.readLe16 i + b.readLe16 (i + 2) * 65536

/-- Two big-endian bytes of the low 16 bits of `n`. -/
def toBe16 (n : Nat) : Bytes := [UInt8.ofNat (n / 256), UInt8.ofNat n]

/-- `b` with the bytes from `off` on replaced by `vals`, the length kept when they fit. -/
def overwrite (b : Bytes) (off : Nat) (vals : Bytes) : Bytes :=
  b.take off ++ vals ++ b.drop (off + vals.length)

@[simp] theorem le16_length (n : Nat) : (le16 n).length = 2 := rfl

@[simp] theorem le32_length (n : Nat) : (le32 n).length = 4 := rfl

@[simp] theorem toBe16_length (n : Nat) : (toBe16 n).length = 2 := rfl

theorem byteAt_lt (b : Bytes) (i : Nat) : b.byteAt i < 256 := (b.getD i 0).toNat_lt

theorem be16_lt (b : Bytes) (i : Nat) : b.be16 i < 65536 := by
  have h1 := byteAt_lt b i
  have h2 := byteAt_lt b (i + 1)
  unfold be16
  omega

theorem be32_lt (b : Bytes) (i : Nat) : b.be32 i < 4294967296 := by
  have h1 := be16_lt b i
  have h2 := be16_lt b (i + 2)
  unfold be32
  omega

end Bytes

end Diversion
