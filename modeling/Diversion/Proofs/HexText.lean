import Mathlib.Tactic.IntervalCases
import Mathlib.Tactic.Tauto
import Diversion.Text.Hex

/-!
# `Proofs.HexText` — reading hex text inverts writing it

Hex text is read byte by byte: the bytes of its UTF-8 form that are ASCII whitespace or `:` are
dropped, and what is left must be an even number of ASCII hex digits, in either case. Writing
gives two lowercase digits per byte. The two agree both ways: reading what was written gives the
bytes back (`parseHex_formatHex`), and text reads exactly when its digits are an even number of
hex digits, the bytes read being written again as those digits lowercased
(`parseHex_isOk_iff`, `formatHex_of_parseHex`).

One digit carries both directions. A hex digit reads as the value whose lowercase digit it is
(`nibble_spec`), and the digit of a value reads as that value (`nibble_digitByte`). A byte is
written as the digits of its two halves (`formatHex_toList`), all of them ASCII, so the UTF-8 form
of the text is those digits' bytes (`toUTF8_formatHex`). The pair reader is peeled one pair at a
time by its inversion lemma (`pairs_eq_ok_iff`).
-/

namespace Diversion

namespace Hex

/-! ## Digits and separators -/

/-- **An ASCII hex digit**: `0`–`9`, `A`–`F` or `a`–`f`. -/
def IsHexDigit (b : UInt8) : Prop :=
  (48 ≤ b.toNat ∧ b.toNat ≤ 57) ∨ (65 ≤ b.toNat ∧ b.toNat ≤ 70) ∨ (97 ≤ b.toNat ∧ b.toNat ≤ 102)

instance (b : UInt8) : Decidable (IsHexDigit b) :=
  inferInstanceAs (Decidable ((48 ≤ b.toNat ∧ b.toNat ≤ 57) ∨ (65 ≤ b.toNat ∧ b.toNat ≤ 70) ∨
    (97 ≤ b.toNat ∧ b.toNat ≤ 102)))

/-- The bytes hex text may hold around its digits: the ASCII whitespace bytes (tab, line feed,
    form feed, carriage return, space) and `:`. -/
def separators : List UInt8 := [9, 10, 12, 13, 32, 58]

/-- **The digits of hex text**: the bytes of its UTF-8 form that are no separator. -/
def digitsOf (t : String) : List UInt8 := t.toUTF8.toList.filter (· ∉ separators)

/-- A digit byte lowercased, as a character. -/
def lowerChar (b : UInt8) : Char := (Char.ofNat b.toNat).toLower

/-- The byte of the lowercase digit of `d`. -/
def digitByte (d : Nat) : UInt8 := UInt8.ofNat (Nat.digitChar d).toNat

theorem keep_eq_not_separator (b : UInt8) :
    (!isBlank b && b != 58) = decide (b ∉ separators) := by
  rw [Bool.eq_iff_iff]
  simp [isBlank, separators]
  tauto

theorem parseHex_eq (t : String) :
    parseHex t = if (digitsOf t).length % 2 ≠ 0 then .error "hex string has an odd number of digits"
      else pairs (digitsOf t) := by
  have hdigits : (t.toUTF8.toList.filter fun b => !isBlank b && b != 58) = digitsOf t :=
    List.filter_congr fun b _ => keep_eq_not_separator b
  unfold parseHex
  rw [hdigits]

/-- **A hex digit reads as the value whose lowercase digit it is.** -/
theorem nibble_spec {b : UInt8} {v : Nat} (h : nibble b = .ok v) :
    v < 16 ∧ Nat.digitChar v = lowerChar b := by
  unfold nibble at h
  unfold lowerChar
  have hb := b.toNat_lt
  simp only [UInt8.le_iff_toNat_le, UInt8.reduceToNat] at h
  generalize b.toNat = n at *
  -- one range of digits per branch, each digit checked on its own
  split_ifs at h with h1 h2 h3 <;> cases h
  · obtain ⟨h1, h2⟩ := h1
    interval_cases n <;> decide
  · obtain ⟨h1, h2⟩ := h2
    interval_cases n <;> decide
  · obtain ⟨h1, h2⟩ := h3
    interval_cases n <;> decide

theorem nibble_isOk_iff (b : UInt8) : (∃ v, nibble b = .ok v) ↔ IsHexDigit b := by
  unfold nibble IsHexDigit
  simp only [UInt8.le_iff_toNat_le, UInt8.reduceToNat]
  split_ifs with h1 h2 h3
  · exact ⟨fun _ => .inl h1, fun _ => ⟨_, rfl⟩⟩
  · exact ⟨fun _ => .inr (.inr h2), fun _ => ⟨_, rfl⟩⟩
  · exact ⟨fun _ => .inr (.inl h3), fun _ => ⟨_, rfl⟩⟩
  · exact ⟨fun ⟨_, h⟩ => (nomatch h), fun h => by omega⟩

/-- **The digit of a value reads as that value.** -/
theorem nibble_digitByte {d : Nat} (hd : d < 16) : nibble (digitByte d) = .ok d := by
  interval_cases d <;> rfl

theorem digitByte_not_separator {d : Nat} (hd : d < 16) : digitByte d ∉ separators := by
  interval_cases d <;> decide

theorem utf8EncodeChar_digitChar {d : Nat} (hd : d < 16) :
    String.utf8EncodeChar (Nat.digitChar d) = [digitByte d] := by
  interval_cases d <;> rfl

/-! ## Pairs of digits -/

/-- **A pair of digits reads as one byte**, and the rest of the text reads on its own. -/
theorem pairs_eq_ok_iff {a b : UInt8} {rest bs : List UInt8} :
    pairs (a :: b :: rest) = .ok bs ↔ ∃ hi lo r, nibble a = .ok hi ∧ nibble b = .ok lo ∧
      pairs rest = .ok r ∧ bs = UInt8.ofNat (hi * 16 + lo) :: r := by
  cases ha : nibble a <;> cases hb : nibble b <;> cases hr : pairs rest <;>
    simp [pairs, ha, hb, hr, bind, Except.bind, pure, Except.pure, eq_comm]

/-- An even run of bytes reads as pairs exactly when all of them are hex digits. -/
theorem pairs_isOk_iff : ∀ {l : List UInt8}, l.length % 2 = 0 →
    ((∃ bs, pairs l = .ok bs) ↔ ∀ b ∈ l, IsHexDigit b)
  | [], _ => ⟨fun _ b hb => (nomatch hb), fun _ => ⟨[], rfl⟩⟩
  | [_], h => nomatch h
  | a :: b :: rest, h => by
    have ih := pairs_isOk_iff (l := rest) (by simp at h; omega)
    simp only [List.mem_cons, forall_eq_or_imp]
    rw [← nibble_isOk_iff a, ← nibble_isOk_iff b, ← ih]
    constructor
    · rintro ⟨bs, hbs⟩
      obtain ⟨hi, lo, r, ha, hb, hr, -⟩ := pairs_eq_ok_iff.mp hbs
      exact ⟨⟨hi, ha⟩, ⟨lo, hb⟩, ⟨r, hr⟩⟩
    · rintro ⟨⟨hi, ha⟩, ⟨lo, hb⟩, ⟨r, hr⟩⟩
      exact ⟨_, pairs_eq_ok_iff.mpr ⟨hi, lo, r, ha, hb, hr, rfl⟩⟩

/-- The two lowercase digits a byte is written as. -/
def hexChars (x : UInt8) : List Char := [Nat.digitChar (x.toNat / 16), Nat.digitChar (x.toNat % 16)]

/-- **Bytes read from pairs are written back as the digits they were read from, lowercased.** -/
theorem flatMap_hexChars_of_pairs : ∀ {l bs : List UInt8}, l.length % 2 = 0 → pairs l = .ok bs →
    bs.flatMap hexChars = l.map lowerChar
  | [], bs, _, h => by cases h; rfl
  | [_], bs, hl, _ => nomatch hl
  | a :: b :: rest, bs, hl, h => by
    obtain ⟨hi, lo, r, ha, hb, hr, rfl⟩ := pairs_eq_ok_iff.mp h
    obtain ⟨hhi, hca⟩ := nibble_spec ha
    obtain ⟨hlo, hcb⟩ := nibble_spec hb
    -- the byte's halves are the two digit values
    have hx : (UInt8.ofNat (hi * 16 + lo)).toNat = hi * 16 + lo :=
      UInt8.toNat_ofNat_of_lt' (by rw [UInt8.size]; omega)
    have hdiv : (hi * 16 + lo) / 16 = hi := by omega
    have hmod : (hi * 16 + lo) % 16 = lo := by omega
    simp only [List.flatMap_cons, hexChars, hx, hdiv, hmod, hca, hcb,
      flatMap_hexChars_of_pairs (by simp at hl; omega) hr, List.map_cons, List.cons_append,
      List.nil_append]

/-! ## Written text -/

/-- Two digits for a byte: a byte below 16 gets a leading zero. -/
theorem pad_toDigits {n : Nat} (h : n < 256) :
    List.replicate (2 - (Nat.toDigits 16 n).length) '0' ++ Nat.toDigits 16 n =
      [Nat.digitChar (n / 16), Nat.digitChar (n % 16)] := by
  by_cases hn : n < 16
  · rw [Nat.toDigits_of_lt_base hn, Nat.div_eq_of_lt hn, Nat.mod_eq_of_lt hn]
    rfl
  · rw [Nat.toDigits_of_base_le (by decide) (by omega), Nat.toDigits_of_lt_base (by omega)]
    rfl

/-- **Hex text of bytes is the digits of their halves.** -/
theorem formatHex_toList (bs : Bytes) : (formatHex bs).toList = bs.flatMap hexChars := by
  simp only [formatHex, String.toList_join, List.flatMap_map, String.toList_ofList]
  congr 1
  funext x
  exact pad_toDigits x.toNat_lt

theorem formatHex_eq_ofList (bs : Bytes) : formatHex bs = String.ofList (bs.flatMap hexChars) := by
  rw [← formatHex_toList, String.ofList_toList]

theorem byteArray_toList_loop (a : ByteArray) (i : Nat) (r : List UInt8) :
    ByteArray.toList.loop a i r = r.reverse ++ a.data.toList.drop i := by
  induction i, r using ByteArray.toList.loop.induct a with
  | case1 i r hi ih =>
    rw [ByteArray.toList.loop, if_pos hi, ih]
    have hi' : i < a.data.toList.length := by simpa using hi
    rw [List.drop_eq_getElem_cons hi']
    simp [ByteArray.get!, hi]
  | case2 i r hi =>
    rw [ByteArray.toList.loop, if_neg hi, List.drop_eq_nil_of_le (by simpa using hi)]
    simp

/-- The UTF-8 bytes of a string built from characters are their encodings in turn. -/
theorem toUTF8_ofList (cs : List Char) :
    (String.ofList cs).toUTF8.toList = cs.flatMap String.utf8EncodeChar := by
  simp [ByteArray.toList, byteArray_toList_loop, List.utf8Encode]

/-- **The UTF-8 form of hex text is its digits' bytes**: every digit is ASCII. -/
theorem toUTF8_formatHex (bs : Bytes) :
    (formatHex bs).toUTF8.toList =
      bs.flatMap fun x => [digitByte (x.toNat / 16), digitByte (x.toNat % 16)] := by
  rw [formatHex_eq_ofList, toUTF8_ofList, List.flatMap_assoc]
  congr 1
  funext x
  have hx := x.toNat_lt
  simp [hexChars, utf8EncodeChar_digitChar (show x.toNat / 16 < 16 by omega),
    utf8EncodeChar_digitChar (show x.toNat % 16 < 16 by omega)]

theorem digitsOf_formatHex (bs : Bytes) :
    digitsOf (formatHex bs) =
      bs.flatMap fun x => [digitByte (x.toNat / 16), digitByte (x.toNat % 16)] := by
  rw [digitsOf, toUTF8_formatHex, List.filter_eq_self]
  intro b hb
  obtain ⟨x, -, hb⟩ := List.mem_flatMap.mp hb
  have hx := x.toNat_lt
  simp only [List.mem_cons, List.not_mem_nil, or_false] at hb
  rcases hb with rfl | rfl
  · simpa using digitByte_not_separator (show x.toNat / 16 < 16 by omega)
  · simpa using digitByte_not_separator (show x.toNat % 16 < 16 by omega)

/-- The digits of written bytes read back as the bytes. -/
theorem pairs_digits : ∀ bs : Bytes,
    pairs (bs.flatMap fun x => [digitByte (x.toNat / 16), digitByte (x.toNat % 16)]) = .ok bs
  | [] => rfl
  | x :: rest => by
    have hx := x.toNat_lt
    have hbyte : UInt8.ofNat (x.toNat / 16 * 16 + x.toNat % 16) = x := by
      rw [show x.toNat / 16 * 16 + x.toNat % 16 = x.toNat by omega, UInt8.ofNat_toNat]
    rw [List.flatMap_cons, List.cons_append, List.cons_append, List.nil_append, pairs_eq_ok_iff]
    exact ⟨_, _, rest, nibble_digitByte (by omega), nibble_digitByte (by omega), pairs_digits rest,
      by rw [hbyte]⟩

/-! ## Reading and writing -/

/-- **Reading written hex text gives the bytes back.** -/
theorem parseHex_formatHex (bs : Bytes) : parseHex (formatHex bs) = .ok bs := by
  have heven : (digitsOf (formatHex bs)).length % 2 = 0 := by
    simp only [digitsOf_formatHex, List.length_flatMap, List.length_cons, List.length_nil,
      List.map_const', List.sum_replicate_nat]
    omega
  rw [parseHex_eq, if_neg (by omega), digitsOf_formatHex, pairs_digits]

/-- **Text reads as hex exactly when its digits are an even number of hex digits.** -/
theorem parseHex_isOk_iff (t : String) :
    (∃ bs, parseHex t = .ok bs) ↔
      (digitsOf t).length % 2 = 0 ∧ ∀ b ∈ digitsOf t, IsHexDigit b := by
  rw [parseHex_eq]
  by_cases hodd : (digitsOf t).length % 2 = 0
  · rw [if_neg (by omega), pairs_isOk_iff hodd]
    exact ⟨fun h => ⟨hodd, h⟩, fun h => h.2⟩
  · rw [if_pos hodd]
    exact ⟨fun ⟨_, h⟩ => (nomatch h), fun h => absurd h.1 hodd⟩

/-- **Bytes read from hex text are written back as its digits, lowercased.** -/
theorem formatHex_of_parseHex {t : String} {bs : Bytes} (h : parseHex t = .ok bs) :
    formatHex bs = String.ofList ((digitsOf t).map lowerChar) := by
  rw [parseHex_eq] at h
  split at h
  · cases h
  · next hodd => rw [formatHex_eq_ofList, flatMap_hexChars_of_pairs (by omega) h]

/-- **Hex parsing and formatting are inverse.** Reading written bytes gives them back; text reads
    exactly when, with the ASCII whitespace and `:` bytes of its UTF-8 form deleted, an even number
    of bytes is left and each is an ASCII hex digit; and the bytes read are then written as those
    digits lowercased. -/
theorem hex_text_round_trip :
    (∀ bs : Bytes, parseHex (formatHex bs) = .ok bs) ∧
      ∀ t : String,
        ((∃ bs, parseHex t = .ok bs) ↔
          (digitsOf t).length % 2 = 0 ∧ ∀ b ∈ digitsOf t, IsHexDigit b) ∧
        ∀ bs, parseHex t = .ok bs → formatHex bs = String.ofList ((digitsOf t).map lowerChar) :=
  ⟨parseHex_formatHex, fun t => ⟨parseHex_isOk_iff t, fun _ h => formatHex_of_parseHex h⟩⟩

end Hex

end Diversion
