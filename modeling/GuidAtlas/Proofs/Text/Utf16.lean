import GuidAtlas.Proofs.Text.Utf8
import GuidAtlas.Text.Utf16

/-!
Decoding the UTF-16 form undoes encoding: a character beyond the first plane is two units, a high
surrogate and a low one, and every unit is two bytes.
-/

namespace GuidAtlas.Text

theorem lt_of_mem_encodeUnits {c : Char} {u : Nat} (h : u ∈ encodeUnits c) : u < 0x10000 := by
  have hvalid : c.toNat < 0xD800 ∨ 0xDFFF < c.toNat ∧ c.toNat < 0x110000 := c.valid
  simp only [encodeUnits] at h
  split at h
  case isTrue hsmall =>
    rw [List.mem_singleton.1 h]
    exact hsmall
  case isFalse hlarge =>
    simp only [List.mem_cons, List.not_mem_nil, or_false] at h
    omega

theorem units_unitBytes {u : Nat} (h : u < 0x10000) (bytes : List UInt8) :
    units (unitBytes u ++ bytes) = u :: units bytes := by
  have hunit : u % 256 + 256 * (u / 256) = u := Nat.mod_add_div u 256
  rw [unitBytes, List.cons_append, List.cons_append, List.nil_append, units,
    toNat_toUInt8 (by omega), toNat_toUInt8 (by omega), hunit]

/-- Less than two bytes behind the units are no unit. -/
theorem units_flatMap_unitBytes {us : List Nat} (h : ∀ u ∈ us, u < 0x10000) {tail : List UInt8}
    (htail : tail.length ≤ 1) : units (us.flatMap unitBytes ++ tail) = us := by
  induction us with
  | nil =>
      match tail with
      | [] => rfl
      | [_] => rfl
  | cons u us ih =>
      obtain ⟨hu, hus⟩ := List.forall_mem_cons.1 h
      rw [List.flatMap_cons, List.append_assoc, units_unitBytes hu, ih hus]

theorem decodeUnits_encodeUnits (c : Char) (rest : List Nat) :
    decodeUnits none (encodeUnits c ++ rest) = c :: decodeUnits none rest := by
  have hvalid : c.toNat < 0xD800 ∨ 0xDFFF < c.toNat ∧ c.toNat < 0x110000 := c.valid
  have hc : Char.ofNat c.toNat = c := Char.ofNat_toNat c
  simp only [encodeUnits]
  split
  case isTrue hsmall =>
    have hhigh : isHighSurrogate c.toNat = false := by
      simp only [isHighSurrogate, Bool.and_eq_false_iff, decide_eq_false_iff_not]
      omega
    have hlow : isLowSurrogate c.toNat = false := by
      simp only [isLowSurrogate, Bool.and_eq_false_iff, decide_eq_false_iff_not]
      omega
    rw [List.singleton_append, decodeUnits, hhigh, hlow, hc]
    rfl
  case isFalse hlarge =>
    have hhigh : isHighSurrogate (0xD800 + (c.toNat - 0x10000) / 1024) = true := by
      simp only [isHighSurrogate, Bool.and_eq_true, decide_eq_true_eq]
      omega
    have hlow : isLowSurrogate (0xDC00 + (c.toNat - 0x10000) % 1024) = true := by
      simp only [isLowSurrogate, Bool.and_eq_true, decide_eq_true_eq]
      omega
    have hbits : 0x10000 + (0xD800 + (c.toNat - 0x10000) / 1024 - 0xD800) * 1024 +
        (0xDC00 + (c.toNat - 0x10000) % 1024 - 0xDC00) = c.toNat := by
      omega
    rw [List.cons_append, List.singleton_append, decodeUnits, if_pos hhigh, decodeUnits,
      if_pos hlow, hbits, hc]

theorem decodeUnits_flatMap (t : Text) : decodeUnits none (t.flatMap encodeUnits) = t := by
  induction t with
  | nil => rfl
  | cons c t ih => rw [List.flatMap_cons, decodeUnits_encodeUnits, ih]

/-- A stray byte behind the text does not matter. -/
theorem decode16_encode16 (t : Text) {tail : List UInt8} (htail : tail.length ≤ 1) :
    decode16 (encode16 t ++ tail) = t := by
  have hunits : ∀ u ∈ t.flatMap encodeUnits, u < 0x10000 := by
    intro u hu
    obtain ⟨c, -, hu⟩ := List.mem_flatMap.1 hu
    exact lt_of_mem_encodeUnits hu
  rw [decode16, encode16, units_flatMap_unitBytes hunits htail, decodeUnits_flatMap]

end GuidAtlas.Text
