import GuidAtlas.Guid.Basic
import GuidAtlas.Proofs.Text.Case
import GuidAtlas.Proofs.Text.Search
import GuidAtlas.Proofs.Text.Trim

/-!
The shape of a written GUID: groups of hexadecimal digits with dashes between them. What is said
here of one character of a GUID is a check of the twenty-two digits and the dash.
-/

namespace GuidAtlas.Guid

open Text

def hexDigits : Text := "0123456789abcdefABCDEF"

theorem isHexDigit_iff_mem {c : Char} : isHexDigit c = true ↔ c ∈ hexDigits := by
  have hsmall : ∀ n < 128, isHexDigit (Char.ofNat n) = true → Char.ofNat n ∈ hexDigits := by
    decide
  constructor
  · intro h
    have hlt : c.toNat < 128 := by
      have h9 : '9'.toNat = 57 := rfl
      have hF : 'F'.toNat = 70 := rfl
      have hf : 'f'.toNat = 102 := rfl
      simp only [isHexDigit, digitValue?, Char.le_def, UInt32.le_iff_toNat_le, Char.toNat_val] at h
      grind
    simpa using hsmall c.toNat hlt (by simpa using h)
  · exact List.all_eq_true.1 (by decide : hexDigits.all isHexDigit = true) c

theorem hexDigit_induction {p : Char → Bool} (h : hexDigits.all p = true) {c : Char}
    (hc : isHexDigit c = true) : p c = true :=
  List.all_eq_true.1 h c (isHexDigit_iff_mem.1 hc)

theorem afterDigits?_append {digits : Text} (h : ∀ c ∈ digits, isHexDigit c = true) (rest : Text) :
    afterDigits? digits.length (digits ++ rest) = some rest := by
  induction digits with
  | nil => rfl
  | cons c digits ih =>
      simp [afterDigits?, h c, ih fun d hd => h d (List.mem_cons_of_mem _ hd)]

theorem eq_append_of_afterDigits? {n : Nat} {t rest : Text} (h : afterDigits? n t = some rest) :
    ∃ digits, (∀ c ∈ digits, isHexDigit c = true) ∧ digits.length = n ∧ t = digits ++ rest := by
  fun_induction afterDigits? n t with
  | case1 t =>
      cases h
      exact ⟨[], List.forall_mem_nil _, rfl, rfl⟩
  | case2 => cases h
  | case3 n c t hc ih =>
      obtain ⟨digits, hdigits, rfl, rfl⟩ := ih h
      exact ⟨c :: digits, List.forall_mem_cons.2 ⟨hc, hdigits⟩, rfl, rfl⟩
  | case4 => cases h

/-- Groups of hexadecimal digits of the given sizes, with dashes between them. -/
inductive Grouped : List Nat → Text → Prop
  | nil : Grouped [] []
  | last {digits : Text} : (∀ c ∈ digits, isHexDigit c = true) → Grouped [digits.length] digits
  | more {digits : Text} {n : Nat} {sizes : List Nat} {t : Text} :
      (∀ c ∈ digits, isHexDigit c = true) → Grouped (n :: sizes) t →
        Grouped (digits.length :: n :: sizes) (digits ++ '-' :: t)

theorem afterGroups?_append {sizes : List Nat} {t : Text} (h : Grouped sizes t) (rest : Text) :
    afterGroups? sizes (t ++ rest) = some rest := by
  induction h with
  | nil => rfl
  | last hdigits => exact afterDigits?_append hdigits rest
  | more hdigits _ ih =>
      rw [afterGroups?.eq_def]
      simp [afterDigits?_append hdigits, afterStart?, ih]

theorem eq_append_of_afterGroups? {sizes : List Nat} {t rest : Text}
    (h : afterGroups? sizes t = some rest) :
    ∃ groups, Grouped sizes groups ∧ t = groups ++ rest := by
  fun_induction afterGroups? sizes t with
  | case1 t =>
      cases h
      exact ⟨[], .nil, rfl⟩
  | case2 n t =>
      obtain ⟨digits, hdigits, rfl, rfl⟩ := eq_append_of_afterDigits? h
      exact ⟨digits, .last hdigits, rfl⟩
  | case3 n sizes t hsizes ih =>
      obtain ⟨afterFirst, hfirst, h⟩ := Option.bind_eq_some_iff.1 h
      obtain ⟨inner, hdash, hinner⟩ := Option.bind_eq_some_iff.1 h
      obtain ⟨digits, hdigits, rfl, rfl⟩ := eq_append_of_afterDigits? hfirst
      obtain ⟨groups, hgroups, rfl⟩ := ih _ hinner
      rw [afterStart?_eq_some_iff.1 hdash]
      cases sizes with
      | nil => exact absurd rfl hsizes
      | cons m sizes => exact ⟨digits ++ '-' :: groups, .more hdigits hgroups, by simp⟩

theorem isCanonical_iff {t : Text} : isCanonical t = true ↔ Grouped groupSizes t := by
  rw [isCanonical, decide_eq_true_eq]
  constructor
  · intro h
    obtain ⟨groups, hgroups, rfl⟩ := eq_append_of_afterGroups? h
    simpa using hgroups
  · intro h
    simpa using afterGroups?_append h []

theorem Grouped.mem {sizes : List Nat} {t : Text} (h : Grouped sizes t) {c : Char} (hc : c ∈ t) :
    isHexDigit c = true ∨ c = '-' := by
  induction h with
  | nil => simp at hc
  | last hdigits => exact .inl (hdigits c hc)
  | more hdigits _ ih =>
      rcases List.mem_append.1 hc with hc | hc
      · exact .inl (hdigits c hc)
      · rcases List.mem_cons.1 hc with hc | hc
        · exact .inr hc
        · exact ih hc

def guidChars : Text := '-' :: hexDigits

theorem mem_guidChars {guid : Text} (h : isCanonical guid = true) {c : Char} (hc : c ∈ guid) :
    c ∈ guidChars := by
  rcases (isCanonical_iff.1 h).mem hc with hhex | rfl
  · exact List.mem_cons_of_mem _ (isHexDigit_iff_mem.1 hhex)
  · exact List.mem_cons_self

theorem length_of_isCanonical {guid : Text} (h : isCanonical guid = true) : guid.length = 36 := by
  have hlength {sizes : List Nat} {t : Text} (h : Grouped sizes t) :
      t.length + 1 = sizes.sum + max 1 sizes.length := by
    induction h with
    | nil => rfl
    | last => simp
    | more _ _ ih =>
        simp at ih ⊢
        omega
  have := hlength (isCanonical_iff.1 h)
  simp [groupSizes] at this
  omega

theorem guidChars_induction {p : Char → Bool} (h : guidChars.all p = true) {guid : Text}
    (hguid : isCanonical guid = true) {c : Char} (hc : c ∈ guid) : p c = true :=
  List.all_eq_true.1 h c (mem_guidChars hguid hc)

theorem toNat_lt_of_isCanonical {guid : Text} (h : isCanonical guid = true) {c : Char}
    (hc : c ∈ guid) : c.toNat < 128 := by
  simpa using guidChars_induction (p := fun c => decide (c.toNat < 128)) (by decide) h hc

theorem upper_eq_map {guid : Text} (h : isCanonical guid = true) :
    upper guid = guid.map Char.toUpper :=
  upper_eq_map_toUpper fun _ hc => toNat_lt_of_isCanonical h hc

/-- No GUID starts in a text without dashes that does not end in a digit. -/
theorem afterGroups?_eq_none {t : Text} (hne : t ≠ []) (hdash : '-' ∉ t)
    (hlast : ∀ c ∈ t.getLast?, isHexDigit c = false) (rest : Text) :
    afterGroups? groupSizes (t ++ rest) = none := by
  cases hgroups : afterGroups? groupSizes (t ++ rest) with
  | none => rfl
  | some after =>
      obtain ⟨afterFirst, hfirst, hafter⟩ := Option.bind_eq_some_iff.1 hgroups
      obtain ⟨inner, hinner, -⟩ := Option.bind_eq_some_iff.1 hafter
      obtain ⟨digits, hdigits, -, htext⟩ := eq_append_of_afterDigits? hfirst
      rw [afterStart?_eq_some_iff.1 hinner] at htext
      have hmore : ¬t <+: digits := by
        intro hpart
        have hhex := hdigits _ (hpart.subset (List.getLast_mem hne))
        rw [hlast _ (List.getLast?_eq_some_getLast hne)] at hhex
        cases hhex
      -- The first group ends inside `t`, so the dash behind it is in `t` as well.
      rcases List.append_eq_append_iff.1 htext with ⟨more, rfl, -⟩ | ⟨more, rfl, hdashed⟩
      · exact absurd (List.prefix_append t more) hmore
      · cases more with
        | nil => simp at hmore
        | cons c more =>
            cases hdashed
            simp at hdash

/-- The first GUID of a text is the one behind a part without dashes that ends in no digit. -/
theorem first?_append {before guid : Text} (hguid : isCanonical guid = true) (hdash : '-' ∉ before)
    (hlast : ∀ c ∈ before.getLast?, isHexDigit c = false) (after : Text) :
    first? (before ++ guid ++ after) = some (before, guid) := by
  induction before with
  | nil =>
      have hlength := length_of_isCanonical hguid
      have hgroups := afterGroups?_append (isCanonical_iff.1 hguid) after
      cases guid with
      | nil => cases hlength
      | cons c guid =>
          rw [List.nil_append, List.cons_append, first?, ← List.cons_append, hgroups]
          simp only [← hlength, List.take_left']
  | cons c before ih =>
      have hnone := afterGroups?_eq_none (List.cons_ne_nil c before) hdash hlast (guid ++ after)
      have hrest : first? (before ++ (guid ++ after)) = some (before, guid) := by
        rw [← List.append_assoc]
        refine ih (fun hmem => hdash (List.mem_cons_of_mem _ hmem)) fun d hd => ?_
        cases before with
        | nil => cases hd
        | cons e before => exact hlast d (by simpa using hd)
      rw [List.append_assoc, List.cons_append, first?, ← List.cons_append, hnone, hrest]
      rfl

theorem Grouped.cons {digits t : Text} {n m : Nat} {sizes : List Nat}
    (hdigits : ∀ c ∈ digits, isHexDigit c = true) (hlength : digits.length = n)
    (h : Grouped (m :: sizes) t) : Grouped (n :: m :: sizes) (digits ++ '-' :: t) :=
  hlength ▸ .more hdigits h

theorem isHexDigit_toUpper {c : Char} (h : isHexDigit c = true) : isHexDigit c.toUpper = true :=
  hexDigit_induction (p := fun c => isHexDigit c.toUpper) (by decide) h

theorem Grouped.map_toUpper {sizes : List Nat} {t : Text} (h : Grouped sizes t) :
    Grouped sizes (t.map Char.toUpper) := by
  have hdash : '-'.toUpper = '-' := by decide
  have hupper {digits : Text} (h : ∀ c ∈ digits, isHexDigit c = true) :
      ∀ c ∈ digits.map Char.toUpper, isHexDigit c = true :=
    List.forall_mem_map.2 fun c hc => isHexDigit_toUpper (h c hc)
  induction h with
  | nil => exact .nil
  | @last digits hdigits =>
      have hlength : (digits.map Char.toUpper).length = digits.length := List.length_map _
      rw [← hlength]
      exact .last (hupper hdigits)
  | more hdigits _ ih =>
      rw [List.map_append, List.map_cons, hdash]
      exact .cons (hupper hdigits) (List.length_map _) ih

theorem isCanonical_upper {guid : Text} (h : isCanonical guid = true) :
    isCanonical (upper guid) = true := by
  rw [upper_eq_map h]
  exact isCanonical_iff.2 (isCanonical_iff.1 h).map_toUpper

theorem isCanonical_of_first? {t before guid : Text} (h : first? t = some (before, guid)) :
    isCanonical guid = true := by
  fun_induction first? t generalizing before with
  | case1 => cases h
  | case2 c t rest hgroups =>
      cases h
      obtain ⟨groups, hgrouped, heq⟩ := eq_append_of_afterGroups? hgroups
      have hcanonical := isCanonical_iff.2 hgrouped
      rwa [heq, List.take_left' (length_of_isCanonical hcanonical)]
  | case3 c t hgroups ih =>
      obtain ⟨⟨before, guid⟩, hfirst, heq⟩ := Option.map_eq_some_iff.1 h
      cases heq
      exact ih hfirst

theorem upper_eq_self_of_isCanonical {t : Text} (h : isCanonical (upper t) = true) :
    upper (upper t) = upper t :=
  upper_eq_self (fun _ hc => toNat_lt_of_isCanonical h hc)
    fun _ => isLower_of_mem_upper

theorem stripDecoration_of_isCanonical {guid : Text} (h : isCanonical guid = true) :
    stripDecoration guid = guid := by
  have hall : guidChars.all
      (fun c => !(c = '"' || c = ' ' || c = '{' || c = '}')) = true := by decide
  have hplain {c : Char} (hc : c ∈ guid) :
      (c = '"' || c = ' ' || c = '{' || c = '}') = false := by
    simpa using guidChars_induction hall h hc
  exact trimOf_eq_self (fun c hc => hplain (List.mem_of_head? hc))
    fun c hc => hplain (List.mem_of_getLast? hc)

theorem normalizeKey_of_isCanonical {guid : Text} (h : isCanonical (upper guid) = true) :
    normalizeKey guid = upper guid := by
  have hblank (c : Char) (hc : c ∈ guid) : isBlank c = false := by
    rw [← Bool.not_eq_true]
    intro hblank
    have hself : c ∈ upperChar c := by
      rw [upperChar_of_isBlank hblank]
      exact List.mem_singleton_self c
    have hmem : c ∈ upper guid := List.mem_flatMap.2 ⟨c, hc, hself⟩
    have hplain := guidChars_induction (p := (!isBlank ·)) (by decide) h hmem
    rw [hblank] at hplain
    cases hplain
  rw [normalizeKey, trim, trimOf_eq_self (fun c hc => hblank c (List.mem_of_head? hc))
    fun c hc => hblank c (List.mem_of_getLast? hc)]

end GuidAtlas.Guid
