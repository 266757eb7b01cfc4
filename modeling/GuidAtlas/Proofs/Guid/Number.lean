import GuidAtlas.Guid.Number
import GuidAtlas.Proofs.Guid.Canonical
import GuidAtlas.Proofs.Text.Blank
import GuidAtlas.Proofs.Text.Digits
import Mathlib.Algebra.GroupWithZero.Nat
import Mathlib.Data.List.Forall2

/-!
GUIDs as lists of numerals. The numbers of a written GUID are those of its groups of digits, two
digits for each byte; numerals that spell them are read back as the GUID in upper case.
-/

namespace GuidAtlas.Guid

open Text

/-- A decimal or hexadecimal numeral of a number, as in source text. -/
inductive Numeral : Text → Nat → Prop
  | decimal {digits suffix : Text} (hdigits : IsDigits 10 digits)
      (hsuffix : ∀ c ∈ suffix, c = 'L' ∨ c = 'l') :
      Numeral (digits ++ suffix) (valueOf 10 digits)
  | hex {mark : Char} {digits suffix : Text} (hmark : mark = 'x' ∨ mark = 'X')
      (hdigits : IsDigits 16 digits) (hsuffix : ∀ c ∈ suffix, c = 'L' ∨ c = 'l') :
      Numeral ('0' :: mark :: digits ++ suffix) (valueOf 16 digits)

def numeralChars : Text := "0123456789abcdefABCDEFxXlL"

variable {base n : Nat} {digits part guid : Text}

theorem isHexDigit_of_isDigits (h : IsDigits base digits) {c : Char} (hc : c ∈ digits) :
    isHexDigit c = true := by
  obtain ⟨d, -, hd⟩ := h.digit c hc
  rw [isHexDigit, hd]
  rfl

theorem mem_numeralChars_of_isDigits (h : IsDigits base digits) {c : Char} (hc : c ∈ digits) :
    c ∈ numeralChars := by
  have hall : hexDigits.all (numeralChars.elem ·) = true := by decide
  simpa using hexDigit_induction hall (isHexDigit_of_isDigits h hc)

theorem Numeral.mem (h : Numeral part n) {c : Char} (hc : c ∈ part) : c ∈ numeralChars := by
  have hsuffix {suffix : Text} (hsuffix : ∀ c ∈ suffix, c = 'L' ∨ c = 'l') (hc : c ∈ suffix) :
      c ∈ numeralChars := by
    rcases hsuffix c hc with rfl | rfl <;> decide
  cases h with
  | decimal hdigits hends =>
      rcases List.mem_append.1 hc with hc | hc
      · exact mem_numeralChars_of_isDigits hdigits hc
      · exact hsuffix hends hc
  | hex hmark hdigits hends =>
      rcases List.mem_append.1 hc with hc | hc
      · rcases List.mem_cons.1 hc with rfl | hc
        · decide
        · rcases List.mem_cons.1 hc with rfl | hc
          · rcases hmark with rfl | rfl <;> decide
          · exact mem_numeralChars_of_isDigits hdigits hc
      · exact hsuffix hends hc

theorem Numeral.ne_nil (h : Numeral part n) : part ≠ [] := by
  cases h with
  | decimal hdigits _ => exact List.append_ne_nil_of_left_ne_nil hdigits.ne_nil _
  | hex => simp

theorem Numeral.induction {p : Char → Bool} (hall : numeralChars.all p = true)
    (h : Numeral part n) {c : Char} (hc : c ∈ part) : p c = true :=
  List.all_eq_true.1 hall c (h.mem hc)

theorem valueOf_map_toUpper (h : ∀ c ∈ digits, isHexDigit c = true) :
    valueOf base (digits.map Char.toUpper) = valueOf base digits := by
  have hall : hexDigits.all (fun c => digitValue? c.toUpper = digitValue? c) = true := by decide
  rw [valueOf, valueOf, List.foldl_map]
  refine List.foldl_ext _ _ _ fun n c hc => ?_
  have hvalue := hexDigit_induction hall (h c hc)
  rw [of_decide_eq_true hvalue]

theorem isDigits_map_toUpper (h : IsDigits base digits) :
    IsDigits base (digits.map Char.toUpper) := by
  have hall : hexDigits.all (fun c => digitValue? c.toUpper = digitValue? c) = true := by decide
  refine ⟨by simpa using h.ne_nil, fun c hc => ?_⟩
  obtain ⟨d, hd, rfl⟩ := List.mem_map.1 hc
  obtain ⟨value, hlt, hvalue⟩ := h.digit d hd
  have hupper := hexDigit_induction hall (isHexDigit_of_isDigits h hd)
  exact ⟨value, hlt, (of_decide_eq_true hupper).trans hvalue⟩

theorem Numeral.upper_trim (h : Numeral part n) : upper (trim part) = part.map Char.toUpper := by
  have hascii {c : Char} (hc : c ∈ part) : c.toNat < 128 :=
    of_decide_eq_true (h.induction (p := fun c => decide (c.toNat < 128)) (by decide) hc)
  have hblank {c : Char} (hc : c ∈ part) : isBlank c = false := by
    simpa using h.induction (p := (!isBlank ·)) (by decide) hc
  rw [trim, trimOf_eq_self (fun c hc => hblank (List.mem_of_head? hc))
    (fun c hc => hblank (List.mem_of_getLast? hc)), upper_eq_map_toUpper fun c hc => hascii hc]

/-- Only the suffix of a numeral in upper case is trimmed away. -/
theorem trimEndOf_suffix {suffix : Text} (hdigits : ∀ c ∈ digits.getLast?, isHexDigit c = true)
    (hsuffix : ∀ c ∈ suffix, c = 'L' ∨ c = 'l') :
    trimEndOf (· = 'L') (digits ++ suffix.map Char.toUpper) = digits := by
  have hall : hexDigits.all (fun c => !decide (c = 'L')) = true := by decide
  rw [trimEndOf_append, trimEndOf_eq_self]
  · intro c hc
    simpa using hexDigit_induction hall (hdigits c hc)
  · intro c hc
    obtain ⟨d, hd, rfl⟩ := List.mem_map.1 hc
    rcases hsuffix d hd with rfl | rfl <;> rfl

theorem signedNumber?_eq (h : IsDigits base digits) :
    signedNumber? base digits = some (valueOf base digits) := by
  have hplus : hexDigits.all (fun c => !decide (c = '+')) = true := by decide
  cases digits with
  | nil => exact absurd rfl h.ne_nil
  | cons c digits =>
      have hc : c ≠ '+' := by
        simpa using hexDigit_induction hplus (isHexDigit_of_isDigits h List.mem_cons_self)
      rw [signedNumber?, number?_eq h]
      rintro rest heq
      cases heq
      exact hc rfl

theorem getLast?_isHexDigit (h : IsDigits base digits) (before : Text) :
    ∀ c ∈ (before ++ digits).getLast?, isHexDigit c = true := by
  intro c hc
  rw [List.getLast?_append_of_ne_nil _ h.ne_nil] at hc
  exact isHexDigit_of_isDigits h (List.mem_of_getLast? hc)

theorem fieldNumber?_numeral (h : Numeral part n) : fieldNumber? part = some n := by
  have hupper := h.upper_trim
  cases h with
  | @decimal digits suffix hdigits hsuffix =>
      have hvalue : valueOf 10 (digits.map Char.toUpper) = valueOf 10 digits :=
        valueOf_map_toUpper fun c hc => isHexDigit_of_isDigits hdigits hc
      have hdigits := isDigits_map_toUpper hdigits
      have htrim := trimEndOf_suffix (getLast?_isHexDigit hdigits []) hsuffix
      have hmark : afterStart? "0X" (digits.map Char.toUpper) = none := by
        rw [afterStart?_eq_none_iff]
        rintro ⟨rest, hrest⟩
        have hx := isHexDigit_of_isDigits hdigits (c := 'X') (by simp [← hrest])
        cases hx
      rw [List.nil_append] at htrim
      rw [fieldNumber?, hupper, List.map_append, htrim, hmark, ← hvalue]
      exact signedNumber?_eq hdigits
  | @hex mark digits suffix hmark hdigits hsuffix =>
      have hvalue : valueOf 16 (digits.map Char.toUpper) = valueOf 16 digits :=
        valueOf_map_toUpper fun c hc => isHexDigit_of_isDigits hdigits hc
      have hdigits := isDigits_map_toUpper hdigits
      have htrim := trimEndOf_suffix (getLast?_isHexDigit hdigits ['0', 'X']) hsuffix
      have hpart : ('0' :: mark :: digits ++ suffix).map Char.toUpper =
          (['0', 'X'] ++ digits.map Char.toUpper) ++ suffix.map Char.toUpper := by
        rcases hmark with rfl | rfl <;> simp
      rw [fieldNumber?, hupper, hpart, htrim, ← hvalue]
      exact signedNumber?_eq hdigits

def takeWidths : List Nat → Text → List Text
  | [], _ => []
  | width :: widths, t => t.take width :: takeWidths widths (t.drop width)

def fieldWidths : List Nat := [8, 4, 4, 2, 2, 2, 2, 2, 2, 2, 2]

def fieldsOf (guid : Text) : List Nat :=
  (takeWidths fieldWidths (guid.filter (· ≠ '-'))).map (valueOf 16)

theorem length_fieldsOf (guid : Text) : (fieldsOf guid).length = 11 := by
  simp [fieldsOf, fieldWidths, takeWidths]

/-- The members of a list of numbers in the groups of an initializer. -/
theorem exists_members {numbers : List Text} (h : numbers.length = 11) :
    ∃ l w₁ w₂ first rest, numbers = l :: w₁ :: w₂ :: first :: rest := by
  match numbers, h with
  | l :: w₁ :: w₂ :: first :: rest, _ => exact ⟨l, w₁, w₂, first, rest, rfl⟩

theorem exists_numeral_of_forall₂ {parts : List Text} {values : List Nat}
    (h : List.Forall₂ Numeral parts values) : ∀ part ∈ parts, ∃ n, Numeral part n := by
  intro part hpart
  obtain ⟨i, hi, rfl⟩ := List.getElem_of_mem hpart
  exact ⟨_, (List.forall₂_iff_get.1 h).2 i hi (h.length_eq ▸ hi)⟩

theorem exists_digit_of_isHexDigit {c : Char} (h : isHexDigit c = true) :
    ∃ d < 16, digitValue? c = some d := by
  have hall : hexDigits.all (fun c => decide ((digitValue? c).getD 16 < 16)) = true := by decide
  obtain ⟨d, hd⟩ := Option.isSome_iff_exists.1 h
  have hlt := of_decide_eq_true (hexDigit_induction hall h)
  rw [hd] at hlt
  exact ⟨d, hlt, hd⟩

theorem hexFixed_valueOf (h : ∀ c ∈ digits, isHexDigit c = true) :
    hexFixed digits.length (valueOf 16 digits) = digits.map Char.toUpper := by
  have hall : hexDigits.all (fun c => digit ((digitValue? c).getD 16) = c.toUpper) = true := by
    decide
  induction digits using List.reverseRecOn with
  | nil => rfl
  | append_singleton digits c ih =>
      have hc := h c (by simp)
      obtain ⟨d, hlt, hd⟩ := exists_digit_of_isHexDigit hc
      have hdigit := of_decide_eq_true (hexDigit_induction hall hc)
      rw [hd, Option.getD_some] at hdigit
      have hdiv : (valueOf 16 digits * 16 + d) / 16 = valueOf 16 digits := by omega
      have hmod : (valueOf 16 digits * 16 + d) % 16 = d := by omega
      rw [valueOf_append_singleton, hd, Option.getD_some, List.length_append, List.length_singleton,
        hexFixed, hdiv, hmod, ih fun x hx => h x (by simp [hx]), hdigit, List.map_append]
      rfl

theorem forall₂_takeWidths {widths : List Nat} (h : ∀ c ∈ digits, isHexDigit c = true)
    (hlength : digits.length = widths.sum) :
    List.Forall₂ (fun value width => value < 16 ^ width)
      ((takeWidths widths digits).map (valueOf 16)) widths := by
  induction widths generalizing digits with
  | nil => exact .nil
  | cons width widths ih =>
      rw [List.sum_cons] at hlength
      have htake : (digits.take width).length = width := by
        rw [List.length_take]
        omega
      have hlt : valueOf 16 (digits.take width) < 16 ^ (digits.take width).length :=
        valueOf_lt fun c hc => exists_digit_of_isHexDigit (h c (List.mem_of_mem_take hc))
      rw [htake] at hlt
      exact .cons hlt (ih (fun c hc => h c (List.mem_of_mem_drop hc))
        (by rw [List.length_drop]; omega))

theorem Grouped.exists_first {n m : Nat} {sizes : List Nat} {t : Text}
    (h : Grouped (n :: m :: sizes) t) : ∃ digits rest, t = digits ++ '-' :: rest ∧
      (∀ c ∈ digits, isHexDigit c = true) ∧ digits.length = n ∧ Grouped (m :: sizes) rest := by
  generalize hsizes : n :: m :: sizes = all at h
  cases h with
  | nil => cases hsizes
  | last => cases hsizes
  | @more digits _ _ rest hdigits hrest =>
      cases hsizes
      exact ⟨digits, rest, rfl, hdigits, rfl, hrest⟩

theorem Grouped.of_single {n : Nat} {t : Text} (h : Grouped [n] t) :
    (∀ c ∈ t, isHexDigit c = true) ∧ t.length = n := by
  generalize hsizes : [n] = all at h
  cases h with
  | nil => cases hsizes
  | last hdigits =>
      cases hsizes
      exact ⟨hdigits, rfl⟩
  | more => cases hsizes

theorem exists_groups (h : isCanonical guid = true) :
    ∃ l w₁ w₂ b bytes : Text,
      guid = l ++ '-' :: (w₁ ++ '-' :: (w₂ ++ '-' :: (b ++ '-' :: bytes))) ∧
      (∀ c ∈ l ++ (w₁ ++ (w₂ ++ (b ++ bytes))), isHexDigit c = true) ∧
      l.length = 8 ∧ w₁.length = 4 ∧ w₂.length = 4 ∧ b.length = 4 ∧ bytes.length = 12 := by
  obtain ⟨l, _, rfl, hl, hlLength, h⟩ := (isCanonical_iff.1 h).exists_first
  obtain ⟨w₁, _, rfl, hw₁, hw₁Length, h⟩ := h.exists_first
  obtain ⟨w₂, _, rfl, hw₂, hw₂Length, h⟩ := h.exists_first
  obtain ⟨b, bytes, rfl, hb, hbLength, h⟩ := h.exists_first
  obtain ⟨hbytes, hbytesLength⟩ := h.of_single
  refine ⟨l, w₁, w₂, b, bytes, rfl, fun c hc => ?_, hlLength, hw₁Length, hw₂Length, hbLength,
    hbytesLength⟩
  simp only [List.mem_append] at hc
  rcases hc with hc | hc | hc | hc | hc
  · exact hl c hc
  · exact hw₁ c hc
  · exact hw₂ c hc
  · exact hb c hc
  · exact hbytes c hc

theorem takeWidths_append {width : Nat} {first : Text} (h : first.length = width)
    (widths : List Nat) (rest : Text) :
    takeWidths (width :: widths) (first ++ rest) = first :: takeWidths widths rest := by
  rw [takeWidths, List.take_left' h, List.drop_left' h]

theorem flatMap_takeWidths {width count : Nat} {t : Text} (h : t.length = width * count)
    (hdigits : ∀ c ∈ t, isHexDigit c = true) :
    ((takeWidths (List.replicate count width) t).map (valueOf 16)).flatMap (hexFixed width) =
      t.map Char.toUpper := by
  induction count generalizing t with
  | zero =>
      have ht : t = [] := List.eq_nil_of_length_eq_zero (by simpa using h)
      simp [ht, takeWidths]
  | succ count ih =>
      have htake : (t.take width).length = width := by
        rw [List.length_take, h, Nat.mul_succ]
        omega
      have hfirst := hexFixed_valueOf fun c hc => hdigits c (List.mem_of_mem_take (i := width) hc)
      rw [htake] at hfirst
      have hrest := ih (t := t.drop width) (by rw [List.length_drop, h, Nat.mul_succ]; omega)
        fun c hc => hdigits c (List.mem_of_mem_drop hc)
      rw [List.replicate_succ, takeWidths, List.map_cons, List.flatMap_cons, hfirst, hrest,
        ← List.map_append, List.take_append_drop]

theorem filter_dashes {t : Text} (h : ∀ c ∈ t, isHexDigit c = true) : t.filter (· ≠ '-') = t := by
  have hall : hexDigits.all (· ≠ '-') = true := by decide
  exact List.filter_eq_self.2 fun c hc => hexDigit_induction hall (h c hc)

theorem fieldsOf_eq {l w₁ w₂ b bytes : Text}
    (hdigits : ∀ c ∈ l ++ (w₁ ++ (w₂ ++ (b ++ bytes))), isHexDigit c = true) (hl : l.length = 8)
    (hw₁ : w₁.length = 4) (hw₂ : w₂.length = 4) (hb : b.length = 4) :
    fieldsOf (l ++ '-' :: (w₁ ++ '-' :: (w₂ ++ '-' :: (b ++ '-' :: bytes)))) =
      valueOf 16 l :: valueOf 16 w₁ :: valueOf 16 w₂ :: valueOf 16 (b.take 2) ::
        valueOf 16 (b.drop 2) :: (takeWidths (List.replicate 6 2) bytes).map (valueOf 16) := by
  have hfilter : (l ++ '-' :: (w₁ ++ '-' :: (w₂ ++ '-' :: (b ++ '-' :: bytes)))).filter (· ≠ '-') =
      l ++ (w₁ ++ (w₂ ++ (b.take 2 ++ (b.drop 2 ++ bytes)))) := by
    rw [← List.append_assoc (b.take 2), List.take_append_drop, ← filter_dashes hdigits]
    simp
  have hwidths : fieldWidths = 8 :: 4 :: 4 :: 2 :: 2 :: List.replicate 6 2 := rfl
  rw [fieldsOf, hfilter, hwidths, takeWidths_append hl, takeWidths_append hw₁,
    takeWidths_append hw₂, takeWidths_append (by simp [hb]), takeWidths_append (by simp [hb])]
  rfl

theorem ofFields_fieldsOf (h : isCanonical guid = true) :
    ofFields (fieldsOf guid) = upper guid := by
  obtain ⟨l, w₁, w₂, b, bytes, rfl, hdigits, hl, hw₁, hw₂, hb, hbytes⟩ := exists_groups h
  have hgroup {t : Text} (ht : t ⊆ l ++ (w₁ ++ (w₂ ++ (b ++ bytes)))) {width : Nat}
      (hwidth : t.length = width) : hexFixed width (valueOf 16 t) = t.map Char.toUpper := by
    rw [← hwidth]
    exact hexFixed_valueOf fun c hc => hdigits c (ht hc)
  -- The fourth group is two fields, the last group six.
  have hbytes : ((takeWidths (List.replicate 6 2) bytes).map (valueOf 16)).flatMap (hexFixed 2) =
      bytes.map Char.toUpper :=
    flatMap_takeWidths hbytes fun c hc => hdigits c (by simp [hc])
  have hb₁ : hexFixed 2 (valueOf 16 (b.take 2)) = (b.take 2).map Char.toUpper :=
    hgroup (fun c hc => by simp [List.mem_of_mem_take hc]) (by simp [hb])
  have hb₂ : hexFixed 2 (valueOf 16 (b.drop 2)) = (b.drop 2).map Char.toUpper :=
    hgroup (fun c hc => by simp [List.mem_of_mem_drop hc]) (by simp [hb])
  have hbUpper : (b.take 2).map Char.toUpper ++ (b.drop 2).map Char.toUpper =
      b.map Char.toUpper := by
    rw [← List.map_append, List.take_append_drop]
  rw [upper_eq_map h, fieldsOf_eq hdigits hl hw₁ hw₂ hb, ofFields,
    hgroup (fun c hc => by simp [hc]) hl, hgroup (fun c hc => by simp [hc]) hw₁,
    hgroup (fun c hc => by simp [hc]) hw₂, hb₁, hb₂, hbytes]
  have hdash : '-'.toUpper = '-' := by decide
  simp only [List.map_append, List.map_cons, hdash, ← hbUpper, List.append_assoc, List.cons_append]

theorem fields?_numerals {parts : List Text} {values bounds : List Nat}
    (h : List.Forall₂ Numeral parts values) (hbounds : List.Forall₂ (· < ·) values bounds) :
    fields? bounds parts = some values := by
  induction h generalizing bounds with
  | nil =>
      cases hbounds
      rfl
  | cons hnumeral _ ih =>
      cases hbounds with
      | cons hlt hrest => simp [fields?, fieldNumber?_numeral hnumeral, hlt, ih hrest]

theorem fieldsOf_lt (h : isCanonical guid = true) :
    List.Forall₂ (· < ·) (fieldsOf guid) fieldBounds := by
  have hbounds : fieldBounds = fieldWidths.map (16 ^ ·) := by decide
  obtain ⟨l, w₁, w₂, b, bytes, rfl, hdigits, hl, hw₁, hw₂, hb, hbytes⟩ := exists_groups h
  have hfilter : (l ++ '-' :: (w₁ ++ '-' :: (w₂ ++ '-' :: (b ++ '-' :: bytes)))).filter (· ≠ '-') =
      l ++ (w₁ ++ (w₂ ++ (b ++ bytes))) := by
    rw [← filter_dashes hdigits]
    simp
  rw [hbounds, List.forall₂_map_right_iff, fieldsOf, hfilter]
  exact forall₂_takeWidths hdigits (by simp [hl, hw₁, hw₂, hb, hbytes, fieldWidths])

/-- Numerals of the fields of a GUID are read back as the GUID in upper case. -/
theorem ofNumbers?_numerals {parts : List Text} (h : isCanonical guid = true)
    (hparts : List.Forall₂ Numeral parts (fieldsOf guid)) :
    ofNumbers? parts = some (upper guid) := by
  rw [ofNumbers?, fields?_numerals hparts (fieldsOf_lt h), Option.map_some, ofFields_fieldsOf h]

@[simp] theorem length_hexFixed (width n : Nat) : (hexFixed width n).length = width := by
  induction width generalizing n with
  | zero => rfl
  | succ width ih => rw [hexFixed, List.length_append, ih, List.length_singleton]

def upperDigits : Text := "0123456789ABCDEF"

theorem mem_upperDigits {width n : Nat} {c : Char} (h : c ∈ hexFixed width n) :
    c ∈ upperDigits := by
  have hdigit : ∀ d < 16, digit d ∈ upperDigits := by decide
  induction width generalizing n with
  | zero => cases h
  | succ width ih =>
      rcases List.mem_append.1 h with h | h
      · exact ih h
      · rw [List.mem_singleton.1 h]
        exact hdigit _ (Nat.mod_lt _ (by decide))

theorem length_of_fields? {bounds values : List Nat} {parts : List Text}
    (h : fields? bounds parts = some values) : values.length = bounds.length := by
  fun_induction fields? bounds parts generalizing values with
  | case1 =>
      cases h
      rfl
  | case2 bound bounds part parts ih =>
      obtain ⟨n, -, h⟩ := Option.bind_eq_some_iff.1 h
      split at h
      · obtain ⟨rest, hrest, rfl⟩ := Option.map_eq_some_iff.1 h
        rw [List.length_cons, List.length_cons, ih hrest]
      · cases h
  | case3 => cases h

theorem isCanonical_ofFields {fields : List Nat} (h : fields.length = 11) :
    isCanonical (ofFields fields) = true ∧ ∀ c ∈ ofFields fields, c ∈ '-' :: upperDigits := by
  obtain ⟨l, w₁, w₂, b₁, b₂, bytes, rfl, hbytes⟩ : ∃ l w₁ w₂ b₁ b₂ bytes,
      fields = l :: w₁ :: w₂ :: b₁ :: b₂ :: bytes ∧ bytes.length = 6 := by
    match fields, h with
    | l :: w₁ :: w₂ :: b₁ :: b₂ :: bytes, h =>
        exact ⟨l, w₁, w₂, b₁, b₂, bytes, rfl, by simpa using h⟩
  have hlength : (bytes.flatMap (hexFixed 2)).length = 12 := by
    simp [List.length_flatMap, hbytes]
  have htext : ofFields (l :: w₁ :: w₂ :: b₁ :: b₂ :: bytes) =
      hexFixed 8 l ++ '-' :: (hexFixed 4 w₁ ++ '-' :: (hexFixed 4 w₂ ++
        '-' :: ((hexFixed 2 b₁ ++ hexFixed 2 b₂) ++ '-' :: bytes.flatMap (hexFixed 2)))) := by
    simp [ofFields]
  have hhex {digits : Text} (h : digits ⊆ upperDigits) : ∀ c ∈ digits, isHexDigit c = true :=
    fun c hc => List.all_eq_true.1 (by decide : upperDigits.all isHexDigit = true) c (h hc)
  have hfixed (width n : Nat) : hexFixed width n ⊆ upperDigits := fun _ => mem_upperDigits
  have hfour : hexFixed 2 b₁ ++ hexFixed 2 b₂ ⊆ upperDigits :=
    List.append_subset.2 ⟨hfixed 2 b₁, hfixed 2 b₂⟩
  have hlast : bytes.flatMap (hexFixed 2) ⊆ upperDigits :=
    fun c hc => by
      obtain ⟨byte, -, hc⟩ := List.mem_flatMap.1 hc
      exact hfixed 2 byte hc
  rw [htext]
  constructor
  · refine isCanonical_iff.2 ?_
    refine .cons (hhex (hfixed 8 l)) (length_hexFixed 8 l) ?_
    refine .cons (hhex (hfixed 4 w₁)) (length_hexFixed 4 w₁) ?_
    refine .cons (hhex (hfixed 4 w₂)) (length_hexFixed 4 w₂) ?_
    refine .cons (hhex hfour) (by simp) ?_
    exact hlength ▸ .last (hhex hlast)
  · have := hfixed 8 l
    have := hfixed 4 w₁
    have := hfixed 4 w₂
    grind

/-- Eleven numbers are put together to a GUID in upper case. -/
theorem isCanonical_of_ofNumbers? {parts : List Text} {guid : Text}
    (h : ofNumbers? parts = some guid) : isCanonical guid = true ∧ upper guid = guid := by
  obtain ⟨fields, hfields, rfl⟩ := Option.map_eq_some_iff.1 h
  obtain ⟨hcanonical, hchars⟩ := isCanonical_ofFields (length_of_fields? hfields)
  have hall : ('-' :: upperDigits).all (!·.isLower) = true := by decide
  refine ⟨hcanonical, upper_eq_self (fun _ => toNat_lt_of_isCanonical hcanonical) fun c hc => ?_⟩
  simpa using List.all_eq_true.1 hall c (hchars c hc)

/-- A character of a member of an initializer. -/
def isMemberChar (c : Char) : Bool := !isBlank c && !([',', '{', '}'].elem c)

theorem not_mem_of_isMemberChar {t : Text} (h : ∀ c ∈ t, isMemberChar c = true) :
    ',' ∉ t ∧ '{' ∉ t ∧ '}' ∉ t :=
  ⟨fun hc => absurd (h _ hc) (by decide), fun hc => absurd (h _ hc) (by decide),
    fun hc => absurd (h _ hc) (by decide)⟩

/-- The initializer as it is printed: the last eight numbers between braces of their own. -/
def initializerText (l w₁ w₂ : Text) (bytes : List Text) : Text :=
  "\x7b " ++ (l ++ (", " ++ (w₁ ++ (", " ++ (w₂ ++ (", \x7b " ++
    (join ", " bytes ++ " \x7d \x7d;")))))))

theorem filter_initializerText {l w₁ w₂ : Text} {bytes : List Text}
    (hparts : ∀ part ∈ l :: w₁ :: w₂ :: bytes, ∀ c ∈ part, isMemberChar c = true) :
    (initializerText l w₁ w₂ bytes).filter (fun c => !isBlank c) =
      '{' :: (l ++ ',' :: (w₁ ++ ',' :: (w₂ ++ ',' :: '{' :: join [','] bytes))) ++
        '}' :: ['}'] ++ [';'] := by
  have hfilter {part : Text} (hpart : part ∈ l :: w₁ :: w₂ :: bytes) :
      part.filter (fun c => !isBlank c) = part := by
    refine List.filter_eq_self.2 fun c hc => ?_
    have hmember := hparts part hpart c hc
    rw [isMemberChar, Bool.and_eq_true] at hmember
    exact hmember.1
  have hspace : isBlank ' ' = true := by decide
  have hcomma : isBlank ',' = false := by decide
  have hbytes : (join [',', ' '] bytes).filter (fun c => !isBlank c) = join [','] bytes := by
    have hmap : bytes.map (·.filter fun c => !isBlank c) = bytes.map id :=
      List.map_congr_left fun part hpart => hfilter (by simp [hpart])
    rw [filter_join, hmap, List.map_id]
    simp [hspace, hcomma]
  have hopen : isBlank '{' = false := by decide
  have hclose : isBlank '}' = false := by decide
  have hsemicolon : isBlank ';' = false := by decide
  simp [initializerText, hbytes, hfilter, hspace, hcomma, hopen, hclose, hsemicolon]

/-- The members between the first opening brace and the two closing ones. -/
theorem ofInitializer?_eq {t before body after : Text}
    (htext : t.filter (fun c => !isBlank c) = before ++ '{' :: body ++ '}' :: ['}'] ++ after)
    (hopen : '{' ∉ before) (hclose : '}' ∉ before ++ body) :
    ofInitializer? t = ofNumbers? (splitAt ',' (body.filter (· ≠ '{'))) := by
  have hcut : cut? ['}', '}'] (before ++ '{' :: body ++ '}' :: ['}'] ++ after) =
      some (before ++ '{' :: body, after) := by
    refine cut?_append ?_ after
    simpa using hclose
  have hdrop : (before ++ '{' :: body).dropWhile (· ≠ '{') = '{' :: body := by
    rw [List.dropWhile_append_of_pos]
    · simp
    · exact fun c hc => decide_eq_true fun heq => hopen (heq ▸ hc)
  have hbody : ('{' :: body).filter (· ≠ '{') = body.filter (· ≠ '{') := rfl
  rw [ofInitializer?, htext]
  show (cut? ['}', '}'] _).bind _ = _
  rw [hcut, Option.bind_some]
  simp only [hdrop, hbody]
  rfl

/-- Members with commas between them, the last ones behind a brace of their own. -/
theorem ofInitializer?_members {t before after l w₁ w₂ : Text} {bytes : List Text}
    (htext : t.filter (fun c => !isBlank c) =
      before ++ '{' :: (l ++ ',' :: (w₁ ++ ',' :: (w₂ ++ ',' :: '{' :: join [','] bytes))) ++
        '}' :: ['}'] ++ after)
    (hbefore : '{' ∉ before ∧ '}' ∉ before) (hne : bytes ≠ [])
    (hparts : ∀ part ∈ l :: w₁ :: w₂ :: bytes, ∀ c ∈ part, isMemberChar c = true) :
    ofInitializer? t = ofNumbers? (l :: w₁ :: w₂ :: bytes) := by
  obtain ⟨first, rest, rfl⟩ := List.exists_cons_of_ne_nil hne
  have hpart {part : Text} (hmem : part ∈ l :: w₁ :: w₂ :: first :: rest) :=
    not_mem_of_isMemberChar (hparts part hmem)
  let members := join [','] (l :: w₁ :: w₂ :: first :: rest)
  have hopen : '{' ∉ members := not_mem_join (by decide) fun part hmem => (hpart hmem).2.1
  have hclose : '}' ∉ members := not_mem_join (by decide) fun part hmem => (hpart hmem).2.2
  -- Without its inner brace the body is the members with commas between them.
  let body := l ++ ',' :: (w₁ ++ ',' :: (w₂ ++ ',' :: '{' :: join [','] (first :: rest)))
  have hbody : body.filter (· ≠ '{') = members := by
    have hjoin :
        members = l ++ ',' :: (w₁ ++ ',' :: (w₂ ++ ',' :: join [','] (first :: rest))) := by
      simp [members, join_cons_cons]
    calc body.filter (· ≠ '{') = members.filter (· ≠ '{') := by simp [body, hjoin]
      _ = members :=
          List.filter_eq_self.2 fun c hc => decide_eq_true fun heq => hopen (heq ▸ hc)
  have hbodyClose : '}' ∉ body := fun hmem =>
    hclose (hbody ▸ List.mem_filter.2 ⟨hmem, by decide⟩)
  have hsplit : splitAt ',' members = l :: w₁ :: w₂ :: first :: rest := by
    have hpieces := @splitAt_join ',' [] (by simp) _ _ fun part hmem => (hpart hmem).1
    simpa using hpieces
  have hnot : '}' ∉ before ++ body := fun hmem =>
    (List.mem_append.1 hmem).elim hbefore.2 hbodyClose
  rw [ofInitializer?_eq htext hbefore.1 hnot, hbody, hsplit]

theorem ofInitializer?_initializerText {before l w₁ w₂ : Text} {bytes : List Text}
    (hbefore : '{' ∉ before ∧ '}' ∉ before) (hne : bytes ≠ [])
    (hparts : ∀ part ∈ l :: w₁ :: w₂ :: bytes, ∀ c ∈ part, isMemberChar c = true) :
    ofInitializer? (before ++ initializerText l w₁ w₂ bytes) =
      ofNumbers? (l :: w₁ :: w₂ :: bytes) := by
  let stripped := before.filter fun c => !isBlank c
  have hstripped (c : Char) (hc : c ∉ before) : c ∉ stripped :=
    fun hmem => hc (List.mem_filter.1 hmem).1
  have htext : (before ++ initializerText l w₁ w₂ bytes).filter (fun c => !isBlank c) =
      stripped ++ '{' :: (l ++ ',' :: (w₁ ++ ',' :: (w₂ ++ ',' :: '{' :: join [','] bytes))) ++
        '}' :: ['}'] ++ [';'] := by
    rw [List.filter_append, filter_initializerText hparts]
    simp [stripped]
  exact ofInitializer?_members htext ⟨hstripped '{' hbefore.1, hstripped '}' hbefore.2⟩ hne hparts

end GuidAtlas.Guid
