import GuidAtlas.Text.Basic
import Mathlib.Algebra.Group.Nat.Defs
import Mathlib.Data.List.Induction

/-!
Written numbers: their digits, and the numbers that digits spell.
-/

namespace GuidAtlas.Text

theorem exists_digit_of_mem {base : Nat} (hbase : 0 < base) {fuel n : Nat} {c : Char}
    (h : c ∈ digitsBelow base fuel n) : ∃ d < base, c = digit d := by
  induction fuel generalizing n with
  | zero => cases h
  | succ fuel ih =>
      simp only [digitsBelow] at h
      split at h
      case isTrue hn => exact ⟨n, hn, by simpa using h⟩
      case isFalse =>
        rcases List.mem_append.1 h with h | h
        · exact ih h
        · exact ⟨n % base, Nat.mod_lt _ hbase, by simpa using h⟩

theorem mem_decimal {n : Nat} {c : Char} (h : c ∈ decimal n) : c ∈ ("0123456789" : Text) := by
  obtain ⟨d, hd, rfl⟩ := exists_digit_of_mem (by decide) h
  exact (by decide : ∀ d < 10, digit d ∈ ("0123456789" : Text)) d hd

def valueOf (base : Nat) (digits : Text) : Nat :=
  digits.foldl (fun n c => n * base + (digitValue? c).getD 0) 0

/-- One or more digits of a base, in any case. -/
structure IsDigits (base : Nat) (digits : Text) : Prop where
  ne_nil : digits ≠ []
  digit : ∀ c ∈ digits, ∃ d < base, digitValue? c = some d

instance (base : Nat) (digits : Text) : Decidable (IsDigits base digits) :=
  decidable_of_iff (digits ≠ [] ∧ digits.all (fun c => (digitValue? c).any (· < base)) = true) <| by
    have hdigit (c : Char) : (digitValue? c).any (· < base) = true ↔
        ∃ d < base, digitValue? c = some d := by
      cases digitValue? c <;> simp
    rw [List.all_eq_true]
    simp only [hdigit]
    exact ⟨fun h => ⟨h.1, h.2⟩, fun h => ⟨h.ne_nil, h.digit⟩⟩

/-- Characters are read behind a number exactly if all of them are digits, and what is read is then
the number with these digits behind it. -/
theorem foldlM_digits_eq_some_iff {base start n : Nat} {t : Text} :
    t.foldlM (fun n c => do
      let d ← digitValue? c
      if d < base then some (n * base + d) else none) start = some n ↔
      (∀ c ∈ t, ∃ d < base, digitValue? c = some d) ∧
        t.foldl (fun n c => n * base + (digitValue? c).getD 0) start = n := by
  induction t generalizing start with
  | nil => simp
  | cons c t ih =>
      rw [List.foldlM_cons, List.foldl_cons, List.forall_mem_cons]
      cases hd : digitValue? c with
      | none => simp
      | some d =>
          by_cases hlt : d < base
          · simpa [hlt] using ih
          · simp [hlt]

theorem number?_eq_some_iff {base n : Nat} {digits : Text} :
    number? base digits = some n ↔ IsDigits base digits ∧ valueOf base digits = n := by
  rw [number?]
  split
  case isTrue hempty =>
    have hnot : ¬IsDigits base digits := fun h => h.ne_nil (List.isEmpty_iff.1 hempty)
    simp [hnot]
  case isFalse hne =>
    have hdigits : IsDigits base digits ↔ ∀ c ∈ digits, ∃ d < base, digitValue? c = some d :=
      ⟨IsDigits.digit, fun h => ⟨by simpa using hne, h⟩⟩
    rw [hdigits, foldlM_digits_eq_some_iff]
    rfl

theorem number?_eq {base : Nat} {digits : Text} (h : IsDigits base digits) :
    number? base digits = some (valueOf base digits) :=
  number?_eq_some_iff.2 ⟨h, rfl⟩

theorem valueOf_append_singleton (base : Nat) (digits : Text) (c : Char) :
    valueOf base (digits ++ [c]) = valueOf base digits * base + (digitValue? c).getD 0 := by
  simp [valueOf]

theorem valueOf_lt {base : Nat} {digits : Text}
    (h : ∀ c ∈ digits, ∃ d < base, digitValue? c = some d) :
    valueOf base digits < base ^ digits.length := by
  induction digits using List.reverseRecOn with
  | nil => simp [valueOf]
  | append_singleton digits c ih =>
      obtain ⟨d, hlt, hd⟩ := h c (by simp)
      have hrest := ih fun x hx => h x (by simp [hx])
      rw [valueOf_append_singleton, hd, Option.getD_some, List.length_append, List.length_singleton,
        Nat.pow_succ]
      calc valueOf base digits * base + d < valueOf base digits * base + base := by omega
        _ = (valueOf base digits + 1) * base := by rw [Nat.add_mul, Nat.one_mul]
        _ ≤ base ^ digits.length * base := Nat.mul_le_mul_right base hrest

theorem valueOf_map_digitsBelow {base : Nat} {change : Char → Char}
    (hchange : ∀ d < base, digitValue? (change (digit d)) = some d) (hbase : 1 < base)
    {fuel n : Nat} (hfuel : n < fuel) :
    valueOf base ((digitsBelow base fuel n).map change) = n := by
  induction fuel generalizing n with
  | zero => omega
  | succ fuel ih =>
      rw [digitsBelow]
      split
      case isTrue hn => simp [valueOf, hchange n hn]
      case isFalse hn =>
        have hmod : n % base < base := Nat.mod_lt n (by omega)
        have hdiv : n / base < fuel := by
          have := Nat.div_lt_self (n := n) (by omega) hbase
          omega
        rw [List.map_append, List.map_singleton, valueOf_append_singleton, ih hdiv,
          hchange _ hmod, Option.getD_some, Nat.div_add_mod']

theorem length_digitsBelow_le {base fuel n width : Nat} (h : n < base ^ (width + 1)) :
    (digitsBelow base fuel n).length ≤ width + 1 := by
  induction fuel generalizing n width with
  | zero => simp [digitsBelow]
  | succ fuel ih =>
      rw [digitsBelow]
      split
      case isTrue => simp
      case isFalse hn =>
        -- A number that needs a second digit is not below the base.
        cases width with
        | zero => exact absurd (by simpa using h) hn
        | succ width =>
            have hdiv : n / base < base ^ (width + 1) :=
              Nat.div_lt_of_lt_mul (by rwa [Nat.mul_comm, ← Nat.pow_succ])
            simpa using ih hdiv

theorem digitsBelow_ne_nil (base fuel n : Nat) : digitsBelow base (fuel + 1) n ≠ [] := by
  rw [digitsBelow]
  split <;> simp

theorem digitValue?_digit : ∀ d < 10, digitValue? (digit d) = some d := by decide

theorem isDigits_decimal (n : Nat) : IsDigits 10 (decimal n) where
  ne_nil := digitsBelow_ne_nil 10 n n
  digit c hc := by
    obtain ⟨d, hd, rfl⟩ := exists_digit_of_mem (by decide) hc
    exact ⟨d, hd, digitValue?_digit d hd⟩

theorem valueOf_decimal (n : Nat) : valueOf 10 (decimal n) = n := by
  have hdigit : ∀ d < 10, digitValue? (id (digit d)) = some d := digitValue?_digit
  have hvalue := valueOf_map_digitsBelow hdigit (by decide) (Nat.lt_succ_self n)
  rwa [List.map_id] at hvalue

theorem number?_decimal (n : Nat) : number? 10 (decimal n) = some n :=
  number?_eq_some_iff.2 ⟨isDigits_decimal n, valueOf_decimal n⟩

theorem decimal_injective : Function.Injective decimal := fun n m h => by
  have hnumber := number?_decimal n
  rw [h, number?_decimal] at hnumber
  exact (Option.some.inj hnumber).symm

theorem digitValue?_lowerDigit : ∀ d < 16, digitValue? (digit d).toLower = some d := by decide

theorem isDigits_lowerHex (n : Nat) : IsDigits 16 (lowerHex n) where
  ne_nil := by simpa [lowerHex] using digitsBelow_ne_nil 16 n n
  digit c hc := by
    obtain ⟨d, hd, rfl⟩ := List.mem_map.1 hc
    obtain ⟨value, hvalue, rfl⟩ := exists_digit_of_mem (by decide) hd
    exact ⟨value, hvalue, digitValue?_lowerDigit value hvalue⟩

theorem number?_lowerHex (n : Nat) : number? 16 (lowerHex n) = some n := by
  rw [number?_eq (isDigits_lowerHex n), lowerHex,
    valueOf_map_digitsBelow digitValue?_lowerDigit (by decide) (Nat.lt_succ_self n)]

end GuidAtlas.Text
