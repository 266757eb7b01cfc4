import GuidAtlas.Number.Binary64
import GuidAtlas.Proofs.Text.Digits
import GuidAtlas.Proofs.Text.Search

/-!
The characters that a text has if it is read as a number.
-/

namespace GuidAtlas.Binary64

open Text

/-- The characters of written numbers, with large letters made small. -/
def numberChars : Text := "0123456789+-.aefinty"

theorem mem_numberChars_of_number? {t : Text} {n : Nat} (h : number? 10 t = some n) :
    ∀ c ∈ t, c ∈ numberChars := by
  intro c hc
  obtain ⟨d, hd, hdigit⟩ := (number?_eq_some_iff.1 h).1.digit c hc
  unfold digitValue? at hdigit
  split at hdigit
  case isTrue hrange =>
    have hall : ∀ n < 58, 48 ≤ n → Char.ofNat n ∈ numberChars := by decide
    have hbounds : 48 ≤ c.toNat ∧ c.toNat ≤ 57 := hrange
    rw [← Char.ofNat_toNat c]
    exact hall c.toNat (by omega) hbounds.1
  case isFalse =>
    split at hdigit
    case isTrue hrange =>
      have hbound : 97 ≤ c.toNat := hrange.1
      have hvalue := Option.some.inj hdigit
      omega
    case isFalse =>
      split at hdigit
      case isTrue hrange =>
        have hbound : 65 ≤ c.toNat := hrange.1
        have hvalue := Option.some.inj hdigit
        omega
      case isFalse => cases hdigit

theorem mem_numberChars_of_signedInteger? {t : Text} {n : Int}
    (h : signedInteger? t = some n) : ∀ c ∈ t, c ∈ numberChars := by
  have hdigits {digits : Text} (hsome : number? 10 digits ≠ none) :
      ∀ c ∈ digits, c ∈ numberChars := by
    obtain ⟨m, hm⟩ := Option.ne_none_iff_exists'.1 hsome
    exact mem_numberChars_of_number? hm
  unfold signedInteger? at h
  split at h
  case h_1 t =>
    refine List.forall_mem_cons.2 ⟨by decide, hdigits fun hnone => ?_⟩
    rw [hnone] at h
    cases h
  case h_2 t =>
    refine List.forall_mem_cons.2 ⟨by decide, hdigits fun hnone => ?_⟩
    rw [hnone] at h
    cases h
  case h_3 =>
    refine hdigits fun hnone => ?_
    rw [hnone] at h
    cases h

theorem mem_numberChars_of_mantissa? {t : Text} {m : Nat × Int}
    (h : mantissa? t = some m) : ∀ c ∈ t, c ∈ numberChars := by
  unfold mantissa? at h
  have hjoin := join_splitAt '.' t
  split at h
  case h_1 whole hpieces =>
    obtain ⟨n, hn, -⟩ := Option.map_eq_some_iff.1 h
    rw [hpieces, join_singleton] at hjoin
    rw [← hjoin]
    exact mem_numberChars_of_number? hn
  case h_2 whole part hpieces =>
    obtain ⟨n, hn, -⟩ := Option.map_eq_some_iff.1 h
    have hdigits := mem_numberChars_of_number? hn
    rw [hpieces, join_cons_cons, join_singleton] at hjoin
    rw [← hjoin]
    intro c hc
    rcases List.mem_append.1 hc with hc | hc
    · rcases List.mem_append.1 hc with hc | hc
      · exact hdigits c (List.mem_append_left part hc)
      · rw [List.mem_singleton.1 hc]
        decide
    · exact hdigits c (List.mem_append_right whole hc)
  case h_3 => cases h

theorem mem_numberChars_of_magnitude? {negative : Bool} {t : Text} {x : Binary64}
    (h : magnitude? negative t = some x) : ∀ c ∈ lowerAscii t, c ∈ numberChars := by
  unfold magnitude? at h
  simp only at h
  split at h
  case isTrue hname =>
    rcases Bool.or_eq_true_iff.1 hname with hname | hname
    · rw [of_decide_eq_true hname]
      exact forall_mem_of_all (by decide)
    · rw [of_decide_eq_true hname]
      exact forall_mem_of_all (by decide)
  case isFalse =>
    split at h
    case isTrue hname =>
      rw [hname]
      exact forall_mem_of_all (by decide)
    case isFalse =>
      obtain ⟨m, hmantissa, h⟩ := Option.bind_eq_some_iff.1 h
      have hfront := mem_numberChars_of_mantissa? hmantissa
      rw [← List.takeWhile_append_dropWhile (p := (· ≠ 'e')) (l := lowerAscii t)]
      refine List.forall_mem_append.2 ⟨hfront, ?_⟩
      split at h
      case h_1 hback =>
        rw [hback]
        exact List.forall_mem_nil _
      case h_2 e shift hback =>
        obtain ⟨n, hshift, -⟩ := Option.bind_eq_some_iff.1 h
        have he : (e :: shift).head? = some e := rfl
        have hstop := List.head?_dropWhile_not (· ≠ 'e') (lowerAscii t)
        rw [hback] at hstop ⊢
        have hmark : e = 'e' := by simpa using hstop
        refine List.forall_mem_cons.2 ⟨?_, mem_numberChars_of_signedInteger? hshift⟩
        rw [hmark]
        decide

theorem toLower_mem_of_parse? {t : Text} {x : Binary64} (h : parse? t = some x) :
    ∀ c ∈ t, c.toLower ∈ numberChars := by
  have hmagnitude {negative : Bool} {t : Text} (h : magnitude? negative t = some x) :
      ∀ c ∈ t, c.toLower ∈ numberChars := by
    intro c hc
    exact mem_numberChars_of_magnitude? h _ (List.mem_map_of_mem hc)
  unfold parse? at h
  split at h
  case h_1 t => exact List.forall_mem_cons.2 ⟨by decide, hmagnitude h⟩
  case h_2 t => exact List.forall_mem_cons.2 ⟨by decide, hmagnitude h⟩
  case h_3 => exact hmagnitude h

end GuidAtlas.Binary64
