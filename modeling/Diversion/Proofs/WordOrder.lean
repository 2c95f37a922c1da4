import Mathlib.Algebra.Group.Nat.Defs
import Diversion.Filter.Eval

/-!
# `Proofs.WordOrder` — operands compare word by word, the most significant word first

A rule compares a field value with its argument as 128-bit numbers: `Test.compare` applies the
test to `Operand.toNat`, which weighs word `i` by `2^(32 i)`. Read as bit fields, that number is
the four words shifted into place and or-ed together (`Operand.toNat_eq_shift_or`).

The packing is an order isomorphism from word tuples, ordered lexicographically from word 3 down,
onto the numbers below `2^128`. The lexicographic order is the library's comparison of lists,
applied to `Operand.wordsDesc`. The argument is one word at a time: below a word, the number
compares as the part above it, and on a tie as the word (`compare_add_word`); three such steps give
`Operand.compare_toNat`. Every number below `2^128` is packed by some operand
(`Operand.exists_toNat_iff`).

So each test is a test of the lexicographic comparison (`Test.compare_word_lexicographic`); the
equality tests ask that all four words agree.
-/

namespace Diversion

/-! ## The packing -/

/-- The words of an operand from the most significant down. -/
def Operand.wordsDesc (o : Operand) : List UInt32 := [o.w3, o.w2, o.w1, o.w0]

/-- **The number an operand stands for is its words as 32-bit fields**: word 3 shifted by 96 bits,
    word 2 by 64 and word 1 by 32, or-ed with word 0. -/
theorem Operand.toNat_eq_shift_or (o : Operand) :
    o.toNat = o.w3.toNat <<< 96 ||| o.w2.toNat <<< 64 ||| o.w1.toNat <<< 32 ||| o.w0.toNat := by
  -- the fields nest as three shifts by one word, the top word innermost
  have regroup : ∀ x3 x2 x1 x0 : Nat, x3 <<< 96 ||| x2 <<< 64 ||| x1 <<< 32 ||| x0 =
      ((x3 <<< 32 ||| x2) <<< 32 ||| x1) <<< 32 ||| x0 := by
    intro x3 x2 x1 x0
    simp only [Nat.shiftLeft_or_distrib, ← Nat.shiftLeft_add]
  -- below a shift by a word, a word's bits do not overlap, so or is addition
  rw [regroup, ← Nat.shiftLeft_add_eq_or_of_lt o.w2.toNat_lt,
    ← Nat.shiftLeft_add_eq_or_of_lt o.w1.toNat_lt, ← Nat.shiftLeft_add_eq_or_of_lt o.w0.toNat_lt]
  simp only [Operand.toNat, Nat.shiftLeft_eq]
  omega

/-- Comparing 32-bit words is comparing their values. -/
theorem UInt32.compare_toNat (x y : UInt32) : compare x.toNat y.toNat = compare x y := by
  simp only [compare, compareOfLessAndEq, UInt32.lt_iff_toNat_lt, UInt32.toNat_inj]

/-- **One word of the packing**: a number with a word below its upper part compares as the upper
    part, and on a tie as the word. -/
theorem compare_add_word {x y X Y : Nat} (hx : x < 4294967296) (hy : y < 4294967296) :
    compare (x + 4294967296 * X) (y + 4294967296 * Y) = (compare X Y).then (compare x y) := by
  rcases Nat.lt_trichotomy X Y with hXY | rfl | hYX
  · -- a smaller upper part outweighs any word
    have hlt : x + 4294967296 * X < y + 4294967296 * Y := by omega
    rw [Nat.compare_eq_lt.mpr hXY, Ordering.lt_then, Nat.compare_eq_lt.mpr hlt]
  · -- on a tie the words decide
    rw [Nat.compare_eq_eq.mpr rfl, Ordering.eq_then, Nat.compare_eq_ite_lt,
      Nat.compare_eq_ite_lt x y]
    simp only [Nat.add_lt_add_iff_right]
  · have hgt : y + 4294967296 * Y < x + 4294967296 * X := by omega
    rw [Nat.compare_eq_gt.mpr hYX, Ordering.gt_then, Nat.compare_eq_gt.mpr hgt]

/-- **The packing preserves and reflects the order**: two operands' numbers compare as their words
    do lexicographically, word 3 first. -/
theorem Operand.compare_toNat (v a : Operand) :
    compare v.toNat a.toNat = compare v.wordsDesc a.wordsDesc := by
  simp only [toNat, wordsDesc, List.compare_cons_cons, List.compare_nil_nil, Ordering.then_eq]
  rw [compare_add_word v.w0.toNat_lt a.w0.toNat_lt, compare_add_word v.w1.toNat_lt a.w1.toNat_lt,
    compare_add_word v.w2.toNat_lt a.w2.toNat_lt]
  simp only [UInt32.compare_toNat, Ordering.then_assoc]

/-- **The lexicographic comparison ties exactly when all four words agree.** -/
theorem Operand.compare_wordsDesc_eq_eq_iff (v a : Operand) :
    compare v.wordsDesc a.wordsDesc = .eq ↔
      v.w3 = a.w3 ∧ v.w2 = a.w2 ∧ v.w1 = a.w1 ∧ v.w0 = a.w0 := by
  simp only [wordsDesc, List.compare_cons_cons, List.compare_nil_nil, Ordering.then_eq,
    Ordering.then_eq_eq, Std.LawfulEqOrd.compare_eq_iff_eq]

/-- **The packing is onto the numbers below `2^128`.** -/
theorem Operand.exists_toNat_iff (n : Nat) : (∃ o : Operand, o.toNat = n) ↔ n < 2 ^ 128 := by
  constructor
  · rintro ⟨o, rfl⟩
    have := o.w0.toNat_lt; have := o.w1.toNat_lt; have := o.w2.toNat_lt; have := o.w3.toNat_lt
    simp only [toNat]
    omega
  · intro hn
    -- the words are the base-`2^32` digits of `n`
    refine ⟨⟨.ofNat n, .ofNat (n / 2 ^ 32), .ofNat (n / 2 ^ 64), .ofNat (n / 2 ^ 96)⟩, ?_⟩
    simp only [toNat, UInt32.toNat_ofNat']
    omega

/-! ## Tests read off an ordering -/

/-- **What a test says of two values whose comparison is `o`.** -/
def Test.onOrdering : Test → Ordering → Bool
  | .eq, o => o.isEq
  | .neq, o => o.isNe
  | .lt, o => o.isLT
  | .leq, o => o.isLE
  | .gt, o => o.isGT
  | .geq, o => o.isGE

/-- A test of two numbers is the test read off their comparison. -/
theorem Test.holds_eq_onOrdering (t : Test) (x y : Nat) :
    t.holds x y = t.onOrdering (Ord.compare x y) := by
  rcases Nat.lt_trichotomy x y with hlt | rfl | hgt
  · rw [Nat.compare_eq_lt.mpr hlt]
    cases t <;> simp [holds, onOrdering] <;> omega
  · rw [Nat.compare_eq_eq.mpr rfl]
    cases t <;> simp [holds, onOrdering]
  · rw [Nat.compare_eq_gt.mpr hgt]
    cases t <;> simp [holds, onOrdering] <;> omega

/-- **Each test of two operands is the test read off their words' lexicographic comparison.** -/
theorem Test.compare_eq_onOrdering (t : Test) (v a : Operand) :
    t.compare v a = t.onOrdering (Ord.compare v.wordsDesc a.wordsDesc) := by
  rw [Test.compare, holds_eq_onOrdering, Operand.compare_toNat]

/-- **The equality tests ask that all four words agree.** -/
theorem Test.compare_eq_neq_iff (v a : Operand) :
    (Test.eq.compare v a = true ↔ v.w3 = a.w3 ∧ v.w2 = a.w2 ∧ v.w1 = a.w1 ∧ v.w0 = a.w0) ∧
      (Test.neq.compare v a = true ↔
        ¬(v.w3 = a.w3 ∧ v.w2 = a.w2 ∧ v.w1 = a.w1 ∧ v.w0 = a.w0)) := by
  simp only [compare_eq_onOrdering, onOrdering, ← Operand.compare_wordsDesc_eq_eq_iff]
  cases Ord.compare v.wordsDesc a.wordsDesc <;> simp

/-- **Operands compare by their words, most significant first**: every test is the test read off
    the lexicographic comparison of the words from word 3 down, and the equality tests ask that all
    four words agree. The packing behind it preserves and reflects that order and is onto the
    numbers below `2^128`: it is an order isomorphism from word tuples to 128-bit numbers. -/
theorem Test.compare_word_lexicographic :
    (∀ (t : Test) (v a : Operand),
      t.compare v a = t.onOrdering (Ord.compare v.wordsDesc a.wordsDesc)) ∧
    (∀ v a : Operand,
      (Test.eq.compare v a = true ↔ v.w3 = a.w3 ∧ v.w2 = a.w2 ∧ v.w1 = a.w1 ∧ v.w0 = a.w0) ∧
      (Test.neq.compare v a = true ↔
        ¬(v.w3 = a.w3 ∧ v.w2 = a.w2 ∧ v.w1 = a.w1 ∧ v.w0 = a.w0))) ∧
    (∀ v a : Operand, Ord.compare v.toNat a.toNat = Ord.compare v.wordsDesc a.wordsDesc) ∧
    (∀ n : Nat, (∃ o : Operand, o.toNat = n) ↔ n < 2 ^ 128) :=
  ⟨Test.compare_eq_onOrdering, Test.compare_eq_neq_iff, Operand.compare_toNat,
    Operand.exists_toNat_iff⟩

/-- A saturated low word does not outweigh a larger top word. -/
example : Test.lt.compare ⟨0xFFFFFFFF, 0, 0, 1⟩ ⟨0, 0, 0, 2⟩ = true := by decide

end Diversion
