import Mathlib.Data.List.Forall2
import Mathlib.Tactic.SplitIfs
import Diversion.Filter.Compile

/-!
# `Proofs.Compile` — which rule lists compile, to what, and which fault is reported

The compiler is specified here without reference to its own code: a rule is **valid** when its
raw codes, continuations and argument words satisfy the conditions of the wire format
(`RuleRecord.Valid`), and its **first fault** is the first violated condition in the order
field, test, match target, mismatch target, upper words, range (`RuleRecord.fault`). The main
statement, `compile_iff_valid_first_fault`, has three parts:

* `compileRecords` succeeds exactly on lists of 1 to 255 valid rules, and then node `i` is rule
  `i` decoded (`Node.Decodes`; a node's header is its field's by definition of `Node.protocol`);
* it fails with the error of the first fault: empty list, too many rules, then the first faulty
  rule by index;
* `compile` on wire bytes is `decodeRules` followed by `compileRecords`, so a ragged length is
  reported before anything else.

Every compiled program is `Program.Forward` (`compileRecords_forward`): the fact the interpreter
and the reachability analysis rely on.
-/

namespace Diversion

/-! ## What a rule must satisfy -/

/-- **A raw continuation admissible after rule `i`** of a list of `count`: ACCEPT (257),
    REJECT (258), or a node strictly after `i` inside the list. -/
def Target.Admissible (i count raw : Nat) : Prop :=
  raw = 257 ∨ raw = 258 ∨ (i < raw ∧ raw < count)

instance (i count raw : Nat) : Decidable (Target.Admissible i count raw) :=
  inferInstanceAs (Decidable (_ ∨ _ ∨ _))

/-- The three upper argument words are zero. -/
def Operand.UpperZero (o : Operand) : Prop := o.w1 = 0 ∧ o.w2 = 0 ∧ o.w3 = 0

instance (o : Operand) : Decidable o.UpperZero := inferInstanceAs (Decidable (_ ∧ _ ∧ _))

namespace RuleRecord

/-- **A valid rule `i`** of a list of `count`, in the wire format's own terms. -/
structure Valid (i count : Nat) (r : RuleRecord) : Prop where
  field : r.field.toNat ≤ 57
  test : r.test.toNat ≤ 5
  onMatch : Target.Admissible i count r.onMatch.toNat
  onMismatch : Target.Admissible i count r.onMismatch.toNat
  narrow : ∀ f, Field.ofCode? r.field.toNat = some f →
    f = .ipv6SrcAddr ∨ f = .ipv6DstAddr ∨ r.arg.UpperZero
  bound : ∀ f, Field.ofCode? r.field.toNat = some f → r.arg.w0.toNat ≤ f.maxArg

/-- **The first fault of rule `i`**, the conditions taken in the order the compiler checks them;
    `none` for a valid rule. -/
def fault (i count : Nat) (r : RuleRecord) : Option FilterError :=
  match Field.ofCode? r.field.toNat with
  | none => some (.unknownField r.field.toNat)
  | some f =>
    if 5 < r.test.toNat then some (.unknownTest r.test.toNat)
    else if ¬ Target.Admissible i count r.onMatch.toNat then
      some (.badBranch i r.onMatch.toNat count)
    else if ¬ Target.Admissible i count r.onMismatch.toNat then
      some (.badBranch i r.onMismatch.toNat count)
    else if ¬ (f = .ipv6SrcAddr ∨ f = .ipv6DstAddr ∨ r.arg.UpperZero) then some (.upperWordsSet f)
    else if f.maxArg < r.arg.w0.toNat then some (.argumentRange r.arg.w0.toNat f)
    else none

theorem field_le_iff (r : RuleRecord) :
    r.field.toNat ≤ 57 ↔ (Field.ofCode? r.field.toNat).isSome := by
  rw [Field.ofCode?_isSome_iff]; omega

/-- A rule has no fault exactly when it is valid. -/
theorem fault_eq_none_iff (i count : Nat) (r : RuleRecord) :
    r.fault i count = none ↔ r.Valid i count := by
  unfold fault
  cases hf : Field.ofCode? r.field.toNat with
  | none =>
    simp only [reduceCtorEq, false_iff]
    exact fun h => by simpa [hf] using (field_le_iff r).mp h.field
  | some f =>
    have hfield : r.field.toNat ≤ 57 := (field_le_iff r).mpr (by simp [hf])
    simp only [apply_ite (· = none), reduceCtorEq, if_false_left, not_not, Nat.not_lt, and_true]
    constructor
    · rintro ⟨ht, hm, hmm, hn, hb⟩
      refine ⟨hfield, by omega, hm, hmm, fun g hg => ?_, fun g hg => ?_⟩ <;> cases hf ▸ hg
      · exact hn
      · exact hb
    · intro h
      exact ⟨by have := h.test; omega, h.onMatch, h.onMismatch, h.narrow f hf, h.bound f hf⟩

end RuleRecord

/-- **Node `n` is rule `r` decoded**: field and test by their codes, the argument as it is, the
    continuations by `Target.ofRaw`. -/
def Node.Decodes (r : RuleRecord) (n : Node) : Prop :=
  Field.ofCode? r.field.toNat = some n.field ∧ Test.ofCode? r.test.toNat = some n.test ∧
    n.arg = r.arg ∧ n.onMatch = Target.ofRaw r.onMatch.toNat ∧
    n.onMismatch = Target.ofRaw r.onMismatch.toNat

theorem Node.Decodes.unique {r : RuleRecord} {n n' : Node} (h : n.Decodes r)
    (h' : n'.Decodes r) : n = n' := by
  obtain ⟨hf, ht, ha, hm, hmm⟩ := h
  obtain ⟨hf', ht', ha', hm', hmm'⟩ := h'
  cases n; cases n'
  simp_all

/-- **A valid rule list**: 1 to 255 rules, each valid at its index. -/
def RuleList.Valid (rs : List RuleRecord) : Prop :=
  1 ≤ rs.length ∧ rs.length ≤ 255 ∧ ∀ i (h : i < rs.length), rs[i].Valid i rs.length

/-- **`e` reports the first fault of a list**: emptiness, then the count, then the first faulty
    rule by index. -/
def RuleList.FirstFault (rs : List RuleRecord) (e : FilterError) : Prop :=
  (rs = [] ∧ e = .emptyList) ∨
  (255 < rs.length ∧ e = .tooManyRules rs.length) ∨
  (rs ≠ [] ∧ rs.length ≤ 255 ∧ ∃ i, ∃ h : i < rs.length,
    (∀ j (hj : j < i), rs[j].fault j rs.length = none) ∧ rs[i].fault i rs.length = some e)

/-! ## One rule

`checkTarget` and the wide/upper-word test are restated in the wire format's terms; then one case
analysis of `compileNode` (`compileNode_cases`) gives both its success and its failure. -/

theorem checkTarget_eq (i count raw : Nat) :
    checkTarget i count raw =
      if Target.Admissible i count raw then .ok (Target.ofRaw raw)
      else .error (.badBranch i raw count) := by
  unfold checkTarget Target.Admissible Target.ofRaw Target.acceptRaw Target.rejectRaw
  by_cases ha : raw = 257
  · simp [ha]
  · by_cases hr : raw = 258
    · simp [hr]
    · by_cases hb : raw ≤ i ∨ raw ≥ count
      · have : ¬ (i < raw ∧ raw < count) := by omega
        simp [ha, hr, hb, this]
      · have : i < raw ∧ raw < count := by omega
        simp [ha, hr, hb, this]

theorem Field.wide_eq_true_iff (f : Field) :
    f.wide = true ↔ f = .ipv6SrcAddr ∨ f = .ipv6DstAddr := by
  cases f <;> decide

theorem Operand.hasUpper_eq_false_iff (o : Operand) : o.hasUpper = false ↔ o.UpperZero := by
  simp [Operand.hasUpper, Operand.UpperZero, and_assoc]

theorem narrow_violated_iff (f : Field) (o : Operand) :
    (!f.wide && o.hasUpper) = true ↔ ¬ (f = .ipv6SrcAddr ∨ f = .ipv6DstAddr ∨ o.UpperZero) := by
  rw [← or_assoc, ← Field.wide_eq_true_iff, ← Operand.hasUpper_eq_false_iff]
  cases f.wide <;> cases o.hasUpper <;> decide

/-- **`compileNode` decodes a valid rule and reports the first fault of any other.** -/
theorem compileNode_cases (i count : Nat) (r : RuleRecord) :
    (r.fault i count = none ∧ ∃ n, compileNode i count r = .ok n ∧ n.Decodes r) ∨
      ∃ e, r.fault i count = some e ∧ compileNode i count r = .error e := by
  unfold compileNode RuleRecord.fault
  cases hf : Field.ofCode? r.field.toNat with
  | none => exact .inr ⟨_, rfl, rfl⟩
  | some f =>
    cases ht : Test.ofCode? r.test.toNat with
    | none =>
      have : 5 < r.test.toNat := by
        have := mt (Test.ofCode?_isSome_iff r.test.toNat).mpr (by simp [ht]); omega
      simp [this, throw, throwThe, MonadExceptOf.throw]
    | some t =>
      have : ¬ 5 < r.test.toNat := by
        have := (Test.ofCode?_isSome_iff r.test.toNat).mp (by simp [ht]); omega
      simp only [this, checkTarget_eq, ← narrow_violated_iff, gt_iff_lt]
      -- the remaining four checks each either fail with their fault or fall through
      split_ifs <;> simp_all [bind, Except.bind, throw, throwThe, MonadExceptOf.throw, pure,
        Except.pure, Node.Decodes]

theorem compileNode_eq_ok_iff {i count : Nat} {r : RuleRecord} {n : Node} :
    compileNode i count r = .ok n ↔ r.Valid i count ∧ n.Decodes r := by
  rw [← RuleRecord.fault_eq_none_iff]
  rcases compileNode_cases i count r with ⟨hf, n₀, hc, hd⟩ | ⟨e, hf, hc⟩
  · rw [hc, hf]
    exact ⟨fun h => by cases h; exact ⟨rfl, hd⟩, fun h => by rw [hd.unique h.2]⟩
  · simp [hc, hf]

theorem compileNode_exists_ok_iff {i count : Nat} {r : RuleRecord} :
    (∃ n, compileNode i count r = .ok n) ↔ r.fault i count = none := by
  rcases compileNode_cases i count r with ⟨hf, n₀, hc, _⟩ | ⟨e, hf, hc⟩
  · simp [hc, hf]
  · simp [hc, hf]

theorem compileNode_eq_error_iff {i count : Nat} {r : RuleRecord} {e : FilterError} :
    compileNode i count r = .error e ↔ r.fault i count = some e := by
  rcases compileNode_cases i count r with ⟨hf, n₀, hc, hd⟩ | ⟨e', hf, hc⟩
  · simp [hc, hf]
  · rw [hc, hf]
    simp

/-! ## Traversals in `Except`

A traversal succeeds when every element does, and fails with the error of the first element
that fails. -/

section Traversal

variable {α β ε : Type} {f : α → Except ε β}

theorem mapM_eq_ok_iff {l : List α} {ys : List β} :
    l.mapM f = .ok ys ↔ List.Forall₂ (fun a b => f a = .ok b) l ys := by
  induction l generalizing ys with
  | nil => cases ys <;> simp [pure, Except.pure]
  | cons a l ih =>
    rw [List.mapM_cons]
    cases h : f a with
    | error e => cases ys <;> simp [bind, Except.bind, h]
    | ok b =>
      cases ht : l.mapM f with
      | error e => cases ys <;> simp [bind, Except.bind, ← ih, ht]
      | ok bs => cases ys <;> simp [bind, Except.bind, pure, Except.pure, ← ih, ht, h]

theorem mapM_eq_error_iff {l : List α} {e : ε} :
    l.mapM f = .error e ↔
      ∃ k, ∃ hk : k < l.length, (∀ j (hj : j < k), ∃ b, f l[j] = .ok b) ∧ f l[k] = .error e := by
  induction l with
  | nil => simp [pure, Except.pure]
  | cons a l ih =>
    rw [List.mapM_cons]
    cases h : f a with
    | error e' =>
      simp only [bind, Except.bind, Except.error.injEq]
      constructor
      · rintro rfl
        exact ⟨0, by simp, fun j hj => absurd hj (Nat.not_lt_zero j), h⟩
      · rintro ⟨k, hk, hpre, hk'⟩
        cases k with
        | zero => simpa [h] using hk'
        | succ k => obtain ⟨b, hb⟩ := hpre 0 (by omega); simp [h] at hb
    | ok b =>
      -- the head succeeds, so the traversal fails exactly when the tail's does
      have hrest : (l.mapM f >>= fun bs => pure (b :: bs)) = Except.error e ↔
          l.mapM f = .error e := by
        cases l.mapM f <;> simp [bind, Except.bind, pure, Except.pure]
      change (l.mapM f >>= fun bs => pure (b :: bs)) = Except.error e ↔ _
      rw [hrest, ih]
      constructor
      · rintro ⟨k, hk, hpre, hk'⟩
        refine ⟨k + 1, by simpa using hk, fun j hj => ?_, by simpa using hk'⟩
        cases j with
        | zero => exact ⟨b, h⟩
        | succ j => simpa using hpre j (by omega)
      · rintro ⟨k, hk, hpre, hk'⟩
        cases k with
        | zero => simp [h] at hk'
        | succ k =>
          exact ⟨k, by simpa using hk, fun j hj => by simpa using hpre (j + 1) (by omega),
            by simpa using hk'⟩

end Traversal

/-! ## The whole list -/

theorem compileRecords_eq (rs : List RuleRecord) :
    compileRecords rs =
      if rs = [] then .error .emptyList
      else if 255 < rs.length then .error (.tooManyRules rs.length)
      else Program.mk <$> rs.zipIdx.mapM fun x => compileNode x.2 rs.length x.1 := by
  unfold compileRecords
  by_cases h0 : rs = []
  · simp [h0, throw, throwThe, MonadExceptOf.throw, bind, Except.bind]
  · by_cases hn : 255 < rs.length
    · simp [h0, hn, maxRules, throw, throwThe, MonadExceptOf.throw, bind, Except.bind]
    · simp [h0, hn, maxRules, bind, Except.bind, Functor.map, Except.map, pure, Except.pure]

theorem forall₂_compileNode_iff {rs : List RuleRecord} {ns : List Node} :
    List.Forall₂ (fun x n => compileNode x.2 rs.length x.1 = .ok n) rs.zipIdx ns ↔
      (∀ i (h : i < rs.length), rs[i].Valid i rs.length) ∧ List.Forall₂ Node.Decodes rs ns := by
  simp only [List.forall₂_iff_get, List.length_zipIdx, List.get_eq_getElem, List.getElem_zipIdx,
    compileNode_eq_ok_iff, Nat.zero_add]
  constructor
  · rintro ⟨hlen, h⟩
    exact ⟨fun i hi => (h i (by simpa using hi) (by omega)).1, hlen,
      fun i h₁ h₂ => (h i (by simpa using h₁) h₂).2⟩
  · rintro ⟨hv, hlen, h⟩
    exact ⟨hlen, fun i h₁ h₂ => ⟨hv i (by simpa using h₁), h i (by simpa using h₁) h₂⟩⟩

theorem Program.map_mk_eq_ok_iff {m : Except FilterError (List Node)} {p : Program} :
    Program.mk <$> m = .ok p ↔ m = .ok p.nodes := by
  cases m <;> cases p <;> simp [Functor.map, Except.map]

theorem Program.map_mk_eq_error_iff {m : Except FilterError (List Node)} {e : FilterError} :
    Program.mk <$> m = .error e ↔ m = .error e := by
  cases m <;> simp [Functor.map, Except.map]

/-- **`compileRecords` accepts exactly the valid lists**, and decodes them rule by rule. -/
theorem compileRecords_eq_ok_iff {rs : List RuleRecord} {p : Program} :
    compileRecords rs = .ok p ↔ RuleList.Valid rs ∧ List.Forall₂ Node.Decodes rs p.nodes := by
  rw [compileRecords_eq]
  by_cases h0 : rs = []
  · simp [h0, RuleList.Valid]
  · by_cases hn : 255 < rs.length
    · simp only [h0, hn, if_true, if_false, reduceCtorEq, false_iff]
      exact fun h => by have := h.1.2.1; omega
    · have hlen : 1 ≤ rs.length := List.length_pos_iff.mpr h0
      simp only [h0, hn, if_false, Program.map_mk_eq_ok_iff, mapM_eq_ok_iff,
        forall₂_compileNode_iff, RuleList.Valid]
      exact ⟨fun ⟨hv, hd⟩ => ⟨⟨hlen, by omega, hv⟩, hd⟩, fun ⟨⟨_, _, hv⟩, hd⟩ => ⟨hv, hd⟩⟩

/-- **`compileRecords` reports the first fault.** -/
theorem compileRecords_eq_error_iff {rs : List RuleRecord} {e : FilterError} :
    compileRecords rs = .error e ↔ RuleList.FirstFault rs e := by
  rw [compileRecords_eq]
  unfold RuleList.FirstFault
  by_cases h0 : rs = []
  · simp [h0, eq_comm]
  · by_cases hn : 255 < rs.length
    · simp only [h0, hn, if_false, if_true, Except.error.injEq, false_and, false_or, true_and]
      exact ⟨fun h => .inl h.symm, fun h => h.elim Eq.symm fun h' => absurd h'.1 (by omega)⟩
    · simp only [h0, hn, if_false, false_and, false_or]
      simp only [Program.map_mk_eq_error_iff, mapM_eq_error_iff, List.length_zipIdx,
        List.getElem_zipIdx, Nat.zero_add, compileNode_exists_ok_iff, compileNode_eq_error_iff]
      exact ⟨fun h => ⟨h0, by omega, h⟩, fun h => h.2.2⟩

theorem recordsOf_length (b : Bytes) : (recordsOf b).length = b.length / recordSize := by
  simp [recordsOf]

/-- **Compiling wire bytes is decoding, then compiling the records**: the count check made on the
    bytes reports what `compileRecords` would. -/
theorem compile_eq_bind (b : Bytes) : compile b = decodeRules b >>= compileRecords := by
  unfold compile decodeRules
  by_cases hr : b.length % recordSize = 0
  · by_cases hn : b.length / recordSize > maxRules
    · have hne : recordsOf b ≠ [] := by
        rw [← List.length_pos_iff, recordsOf_length]; simp only [maxRules] at hn; omega
      have : compileRecords (recordsOf b) = .error (.tooManyRules (b.length / recordSize)) := by
        rw [compileRecords_eq, if_neg hne, recordsOf_length, if_pos (by simpa [maxRules] using hn)]
      simp [hr, hn, this, bind, Except.bind, throw, throwThe, MonadExceptOf.throw]
    · simp [hr, hn, bind, Except.bind]
  · simp [hr, bind, Except.bind, throw, throwThe, MonadExceptOf.throw]

/-- **The compiler's contract**: it accepts exactly the valid lists and decodes them; it reports
    the first fault of any other; on wire bytes, a ragged length comes first and the rest is
    `compileRecords` of the decoded records. -/
theorem compile_iff_valid_first_fault (rs : List RuleRecord) (p : Program) (e : FilterError)
    (b : Bytes) :
    (compileRecords rs = .ok p ↔ RuleList.Valid rs ∧ List.Forall₂ Node.Decodes rs p.nodes) ∧
      (compileRecords rs = .error e ↔ RuleList.FirstFault rs e) ∧
      compile b = decodeRules b >>= compileRecords :=
  ⟨compileRecords_eq_ok_iff, compileRecords_eq_error_iff, compile_eq_bind b⟩

/-! ## Compiled programs point forward -/

theorem Target.Admissible.forward {i count raw : Nat} (h : Target.Admissible i count raw) :
    Program.ForwardTarget count i (Target.ofRaw raw) := by
  unfold Target.ofRaw
  split_ifs with ha hr
  · trivial
  · trivial
  · -- a raw code other than ACCEPT and REJECT is admissible only as a later node
    simp only [Target.acceptRaw, Target.rejectRaw] at ha hr
    rcases h with h | h | h
    · exact absurd h ha
    · exact absurd h hr
    · exact h

/-- **A compiled program has 1 to 255 nodes, and every target points forward.** -/
theorem compileRecords_forward {rs : List RuleRecord} {p : Program}
    (h : compileRecords rs = .ok p) : p.Forward ∧ 1 ≤ p.length ∧ p.length ≤ 255 := by
  obtain ⟨⟨hlo, hhi, hv⟩, hd⟩ := compileRecords_eq_ok_iff.mp h
  have hlen : p.nodes.length = rs.length := hd.length_eq.symm
  refine ⟨fun i hi => ?_, by simp [Program.length, hlen, hlo], by simp [Program.length, hlen, hhi]⟩
  have hi' : i < rs.length := hlen ▸ hi
  obtain ⟨-, -, -, hm, hmm⟩ := (List.forall₂_iff_get.mp hd).2 i hi' hi
  simp only [List.get_eq_getElem] at hm hmm
  rw [hlen, hm, hmm]
  exact ⟨(hv i hi').onMatch.forward, (hv i hi').onMismatch.forward⟩

end Diversion
