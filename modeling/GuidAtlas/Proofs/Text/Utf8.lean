import GuidAtlas.Text.Utf8
import Mathlib.Data.List.Basic

/-!
Decoding undoes encoding. A character is decoded byte by byte: the lead byte says how many bytes
follow, and each of these adds six bits to the ones collected so far. The encoding is the one that
strings have, and byte positions between characters cut a text like it.
-/

namespace GuidAtlas.Text

theorem toNat_toUInt8 {n : Nat} (h : n < 256) : n.toUInt8.toNat = n := by
  simp [Nat.mod_eq_of_lt h]

theorem decodeFrom_single {n : Nat} (h : n < 0x80) (bytes : List UInt8) :
    decodeFrom none (n.toUInt8 :: bytes) = some (Char.ofNat n) :: decodeFrom none bytes := by
  rw [decodeFrom, toNat_toUInt8 (by omega), if_pos h]

theorem decodeFrom_lead {n : Nat} {lead : Lead} (hn : 0x80 ≤ n) (hbyte : n < 256)
    (hlead : lead? n.toUInt8 = some lead) (bytes : List UInt8) :
    decodeFrom none (n.toUInt8 :: bytes) = decodeFrom (some lead) bytes := by
  rw [decodeFrom, toNat_toUInt8 hbyte, if_neg (by omega), hlead]

theorem decodeFrom_last {n bits low high : Nat} (hlow : low ≤ n) (hhigh : n ≤ high) (hn : n < 256)
    (bytes : List UInt8) :
    decodeFrom (some ⟨bits, 1, low, high⟩) (n.toUInt8 :: bytes) =
      some (Char.ofNat (bits * 64 + n % 64)) :: decodeFrom none bytes := by
  rw [decodeFrom, toNat_toUInt8 hn, if_pos ⟨hlow, hhigh⟩]
  rfl

theorem decodeFrom_more {n bits more low high : Nat} (hlow : low ≤ n) (hhigh : n ≤ high)
    (hn : n < 256) (bytes : List UInt8) :
    decodeFrom (some ⟨bits, more + 2, low, high⟩) (n.toUInt8 :: bytes) =
      decodeFrom (some ⟨bits * 64 + n % 64, more + 1, 0x80, 0xBF⟩) bytes := by
  rw [decodeFrom, toNat_toUInt8 hn, if_pos ⟨hlow, hhigh⟩]
  simp

theorem lead?_two {n : Nat} (hlow : 0x80 ≤ n) (hhigh : n < 0x800) :
    lead? (0xC0 + n / 64).toUInt8 = some ⟨n / 64, 1, 0x80, 0xBF⟩ := by
  rw [lead?, toNat_toUInt8 (by omega), if_pos (by omega)]
  simp

/-- The lead byte of three excludes short forms and surrogates by the bounds of the next byte. -/
theorem lead?_three {n : Nat} (hlow : 0x800 ≤ n) (hhigh : n < 0x10000)
    (hsurrogate : n < 0xD800 ∨ 0xDFFF < n) :
    ∃ low high, lead? (0xE0 + n / 4096).toUInt8 = some ⟨n / 4096, 2, low, high⟩ ∧
      low ≤ 0x80 + n / 64 % 64 ∧ 0x80 + n / 64 % 64 ≤ high := by
  rw [lead?, toNat_toUInt8 (by omega), if_neg (by omega)]
  by_cases hfirst : 0xE0 + n / 4096 = 0xE0
  case pos =>
    rw [if_pos hfirst]
    exact ⟨0xA0, 0xBF, by simp; omega, by omega, by omega⟩
  case neg =>
    rw [if_neg hfirst]
    by_cases hlast : 0xE0 + n / 4096 = 0xED
    case pos =>
      rw [if_pos hlast]
      exact ⟨0x80, 0x9F, by simp; omega, by omega, by omega⟩
    case neg =>
      rw [if_neg hlast, if_pos (by omega)]
      exact ⟨0x80, 0xBF, by simp, by omega, by omega⟩

/-- The lead byte of four excludes short forms and what lies beyond the last character. -/
theorem lead?_four {n : Nat} (hlow : 0x10000 ≤ n) (hhigh : n < 0x110000) :
    ∃ low high, lead? (0xF0 + n / 262144).toUInt8 = some ⟨n / 262144, 3, low, high⟩ ∧
      low ≤ 0x80 + n / 4096 % 64 ∧ 0x80 + n / 4096 % 64 ≤ high := by
  rw [lead?, toNat_toUInt8 (by omega), if_neg (by omega), if_neg (by omega), if_neg (by omega),
    if_neg (by omega)]
  by_cases hfirst : 0xF0 + n / 262144 = 0xF0
  case pos =>
    rw [if_pos hfirst]
    exact ⟨0x90, 0xBF, by simp; omega, by omega, by omega⟩
  case neg =>
    rw [if_neg hfirst]
    by_cases hlast : 0xF0 + n / 262144 = 0xF4
    case pos =>
      rw [if_neg (by omega), if_pos hlast]
      exact ⟨0x80, 0x8F, by simp; omega, by omega, by omega⟩
    case neg =>
      rw [if_pos (by omega)]
      exact ⟨0x80, 0xBF, by simp, by omega, by omega⟩

theorem decodeFrom_encodeChar (c : Char) (bytes : List UInt8) :
    decodeFrom none (encodeChar c ++ bytes) = some c :: decodeFrom none bytes := by
  have hvalid : c.toNat < 0xD800 ∨ 0xDFFF < c.toNat ∧ c.toNat < 0x110000 := c.valid
  have hc : Char.ofNat c.toNat = c := Char.ofNat_toNat c
  -- One case for each number of bytes, six bits in each one after the first.
  simp only [encodeChar]
  split
  case isTrue hone => rw [List.cons_append, List.nil_append, decodeFrom_single hone, hc]
  case isFalse hone =>
    split
    case isTrue htwo =>
      have hbits : c.toNat / 64 * 64 + (0x80 + c.toNat % 64) % 64 = c.toNat := by omega
      simp only [List.cons_append, List.nil_append]
      rw [decodeFrom_lead (by omega) (by omega) (lead?_two (by omega) htwo),
        decodeFrom_last (by omega) (by omega) (by omega), hbits, hc]
    case isFalse htwo =>
      split
      case isTrue hthree =>
        obtain ⟨low, high, hlead, hlow, hhigh⟩ := lead?_three (by omega) hthree (by omega)
        have hbits : (c.toNat / 4096 * 64 + (0x80 + c.toNat / 64 % 64) % 64) * 64 +
            (0x80 + c.toNat % 64) % 64 = c.toNat := by omega
        simp only [List.cons_append, List.nil_append]
        rw [decodeFrom_lead (by omega) (by omega) hlead, decodeFrom_more hlow hhigh (by omega),
          decodeFrom_last (by omega) (by omega) (by omega), hbits, hc]
      case isFalse hthree =>
        obtain ⟨low, high, hlead, hlow, hhigh⟩ :=
          lead?_four (n := c.toNat) (by omega) (by omega)
        have hbits : ((c.toNat / 262144 * 64 + (0x80 + c.toNat / 4096 % 64) % 64) * 64 +
            (0x80 + c.toNat / 64 % 64) % 64) * 64 + (0x80 + c.toNat % 64) % 64 = c.toNat := by
          omega
        simp only [List.cons_append, List.nil_append]
        rw [decodeFrom_lead (by omega) (by omega) hlead, decodeFrom_more hlow hhigh (by omega),
          decodeFrom_more (by omega) (by omega) (by omega),
          decodeFrom_last (by omega) (by omega) (by omega), hbits, hc]

theorem decodeFrom_encode (t : Text) : decodeFrom none (encode t) = t.map some := by
  induction t with
  | nil => rfl
  | cons c t ih =>
      rw [encode, List.flatMap_cons, decodeFrom_encodeChar, List.map_cons]
      exact congrArg (some c :: ·) ih

theorem decode?_encode (t : Text) : decode? (encode t) = some t := by
  rw [decode?, decodeFrom_encode]
  induction t with
  | nil => rfl
  | cons c t ih => simp [List.mapM_cons, ih]

theorem decodeLossy_encode (t : Text) : decodeLossy (encode t) = t := by
  rw [decodeLossy, decodeFrom_encode, List.map_map]
  exact List.map_id t

theorem encodeChar_eq_utf8EncodeChar (c : Char) : encodeChar c = String.utf8EncodeChar c := by
  have hvalid : c.toNat < 0xD800 ∨ 0xDFFF < c.toNat ∧ c.toNat < 0x110000 := c.valid
  have hnat : c.val.toNat = c.toNat := rfl
  have hbyte {m n : Nat} (h : m = n) : m.toUInt8 = UInt8.ofNat n := congrArg UInt8.ofNat h
  simp only [encodeChar, String.utf8EncodeChar, hnat]
  -- One case for each number of bytes; both sides cut the bits out in the same way.
  by_cases hone : c.toNat < 0x80
  case pos =>
    have hmax : c.toNat ≤ 0x7F := by omega
    rw [if_pos hone, if_pos hmax, hbyte rfl]
  case neg =>
    have hmin : ¬c.toNat ≤ 0x7F := by omega
    rw [if_neg hone, if_neg hmin]
    by_cases htwo : c.toNat < 0x800
    case pos =>
      have hmax : c.toNat ≤ 0x7FF := by omega
      rw [if_pos htwo, if_pos hmax]
      simp only [List.cons.injEq, and_true]
      exact ⟨hbyte (by omega), hbyte (by omega)⟩
    case neg =>
      have hmin : ¬c.toNat ≤ 0x7FF := by omega
      rw [if_neg htwo, if_neg hmin]
      by_cases hthree : c.toNat < 0x10000
      case pos =>
        have hmax : c.toNat ≤ 0xFFFF := by omega
        rw [if_pos hthree, if_pos hmax]
        simp only [List.cons.injEq, and_true]
        exact ⟨hbyte (by omega), hbyte (by omega), hbyte (by omega)⟩
      case neg =>
        have hmin : ¬c.toNat ≤ 0xFFFF := by omega
        rw [if_neg hthree, if_neg hmin]
        simp only [List.cons.injEq, and_true]
        exact ⟨hbyte (by omega), hbyte (by omega), hbyte (by omega), hbyte (by omega)⟩

/-- The bytes of a text are those of the string with its characters. -/
theorem encode_eq_utf8Encode (t : Text) : encode t = (String.ofList t).toByteArray.data.toList := by
  rw [encode, String.toByteArray_ofList, List.utf8Encode, List.toList_data_toByteArray]
  exact congrArg (t.flatMap ·) (funext encodeChar_eq_utf8EncodeChar)

@[simp] theorem utf8Length_nil : utf8Length [] = 0 := rfl

@[simp] theorem utf8Length_cons (c : Char) (t : Text) :
    utf8Length (c :: t) = c.utf8Size + utf8Length t := rfl

theorem utf8Length_append (s t : Text) : utf8Length (s ++ t) = utf8Length s + utf8Length t := by
  induction s with
  | nil => simp [utf8Length]
  | cons c s ih => rw [List.cons_append, utf8Length_cons, utf8Length_cons, ih, Nat.add_assoc]

theorem dropBytes_utf8Length (s t : Text) : dropBytes (utf8Length s) (s ++ t) = t := by
  induction s with
  | nil => simp [utf8Length, dropBytes]
  | cons c s ih =>
      obtain ⟨n, hn⟩ : ∃ n, utf8Length (c :: s) = n + 1 :=
        Nat.exists_eq_add_one.2 (by have := c.utf8Size_pos; simp only [utf8Length_cons]; omega)
      rw [utf8Length_cons] at hn
      have hle : c.utf8Size ≤ n + 1 := by omega
      have hsub : n + 1 - c.utf8Size = utf8Length s := by omega
      rw [utf8Length_cons, hn, List.cons_append, dropBytes, if_pos hle, hsub, ih]

/-- What follows a part of a text behind an offset stands behind the bytes of that part. -/
theorem dropBytes_add {n : Nat} {t s rest : Text} (h : dropBytes n t = s ++ rest) :
    dropBytes (n + utf8Length s) t = rest := by
  fun_induction dropBytes n t with
  | case1 t => rw [h, Nat.zero_add, dropBytes_utf8Length]
  | case2 n =>
      obtain ⟨rfl, rfl⟩ := List.append_eq_nil_iff.1 h.symm
      rfl
  | case3 n c t hle ih =>
      have hsum : n + 1 + utf8Length s = (n + utf8Length s) + 1 := by omega
      have hwide : c.utf8Size ≤ (n + utf8Length s) + 1 := by omega
      have hrest : (n + utf8Length s) + 1 - c.utf8Size =
          (n + 1 - c.utf8Size) + utf8Length s := by
        omega
      rw [hsum, dropBytes, if_pos hwide, hrest, ih h]
  | case4 n c t hlt =>
      obtain ⟨rfl, rfl⟩ := List.append_eq_nil_iff.1 h.symm
      have hnil : n + 1 + utf8Length [] = n + 1 := rfl
      rw [hnil, dropBytes, if_neg hlt]

end GuidAtlas.Text
