import GuidAtlas.Proofs.Guid.Number
import GuidAtlas.Proofs.Text.Spelling

/-!
Which texts are the numbers of a GUID. Reading is exact: a list of texts gives a GUID if and only if
its members are numerals of eleven fields in their bounds, and the groups of the GUID show these
numbers. Initializers are read through the same lists.
-/

namespace GuidAtlas.Guid

open Text

/-- A text as its number is read: without blanks around it, in upper case and without a suffix. -/
def bareNumber (part : Text) : Text := trimEndOf (· = 'L') (upper (trim part))

/-- Decimal digits, or hexadecimal ones behind `0X`, with at most one plus sign before them. -/
inductive SpellsNumber : Text → Nat → Prop
  | decimal {sign digits : Text} (hsign : sign = [] ∨ sign = ['+']) (hdigits : IsDigits 10 digits) :
      SpellsNumber (sign ++ digits) (valueOf 10 digits)
  | hex {sign digits : Text} (hsign : sign = [] ∨ sign = ['+']) (hdigits : IsDigits 16 digits) :
      SpellsNumber ('0' :: 'X' :: (sign ++ digits)) (valueOf 16 digits)

/-- The sizes of the fields in bits: a double word, two words and eight bytes. -/
def fieldBits : List Nat := [32, 16, 16, 8, 8, 8, 8, 8, 8, 8, 8]

/-- The texts spell the eleven numbers of a GUID. -/
structure SpellFields (parts : List Text) (values : List Nat) : Prop where
  numbers : List.Forall₂ (fun part n => SpellsNumber (bareNumber part) n) parts values
  bounds : List.Forall₂ (fun n bits => n < 2 ^ bits) values fieldBits

/-- The tokens of an initializer: three members, and the others between braces of their own. -/
def initializerTokens (parts : List Text) : List Text :=
  ['{'] :: ((parts.take 3).flatMap (fun part => [part, [',']]) ++
    ['{'] :: ((parts.drop 3).intersperse [','] ++ [['}'], ['}']]))

variable {base n width : Nat} {part t guid before after : Text} {parts : List Text}
  {bounds values widths : List Nat}

theorem signedNumber?_eq_some_iff : signedNumber? base t = some n ↔
    ∃ sign digits, (sign = [] ∨ sign = ['+']) ∧ t = sign ++ digits ∧ IsDigits base digits ∧
      valueOf base digits = n := by
  constructor
  · intro h
    rw [signedNumber?.eq_def] at h
    split at h
    case h_1 digits =>
      obtain ⟨hdigits, hvalue⟩ := number?_eq_some_iff.1 h
      exact ⟨['+'], digits, .inr rfl, rfl, hdigits, hvalue⟩
    case h_2 =>
      obtain ⟨hdigits, hvalue⟩ := number?_eq_some_iff.1 h
      exact ⟨[], t, .inl rfl, rfl, hdigits, hvalue⟩
  · rintro ⟨sign, digits, rfl | rfl, rfl, hdigits, rfl⟩
    · exact signedNumber?_eq hdigits
    · exact number?_eq hdigits

theorem not_hexMark_signed {sign digits : Text} (hsign : sign = [] ∨ sign = ['+'])
    (hdigits : IsDigits 10 digits) : ¬"0X".toList <+: sign ++ digits := by
  intro hmark
  have hmem : 'X' ∈ sign ++ digits := hmark.subset (by decide)
  rcases hsign with rfl | rfl
  · exact absurd (isHexDigit_of_isDigits hdigits hmem) (by decide)
  · rcases List.mem_cons.1 hmem with hmem | hmem
    · cases hmem
    · exact absurd (isHexDigit_of_isDigits hdigits hmem) (by decide)

theorem fieldNumber?_eq_some_iff :
    fieldNumber? part = some n ↔ SpellsNumber (bareNumber part) n := by
  rw [fieldNumber?, ← bareNumber]
  generalize bareNumber part = t
  constructor
  · intro h
    cases hmark : afterStart? "0X" t with
    | some hex =>
        rw [hmark] at h
        obtain ⟨sign, digits, hsign, rfl, hdigits, rfl⟩ := signedNumber?_eq_some_iff.1 h
        rw [afterStart?_eq_some_iff.1 hmark]
        exact .hex hsign hdigits
    | none =>
        rw [hmark] at h
        obtain ⟨sign, digits, hsign, rfl, hdigits, rfl⟩ := signedNumber?_eq_some_iff.1 h
        exact .decimal hsign hdigits
  · intro h
    cases h with
    | @decimal sign digits hsign hdigits =>
        rw [afterStart?_eq_none_iff.2 (not_hexMark_signed hsign hdigits)]
        exact signedNumber?_eq_some_iff.2 ⟨sign, digits, hsign, rfl, hdigits, rfl⟩
    | @hex sign digits hsign hdigits =>
        have hmark : afterStart? "0X" ('0' :: 'X' :: (sign ++ digits)) = some (sign ++ digits) :=
          afterStart?_append "0X" _
        rw [hmark]
        exact signedNumber?_eq_some_iff.2 ⟨sign, digits, hsign, rfl, hdigits, rfl⟩

theorem fields?_eq_some_iff : fields? bounds parts = some values ↔
    List.Forall₂ (fun part n => SpellsNumber (bareNumber part) n) parts values ∧
      List.Forall₂ (· < ·) values bounds := by
  fun_induction fields? bounds parts generalizing values with
  | case1 => cases values <;> simp
  | case2 bound bounds part parts ih =>
      simp only [Option.bind_eq_bind, Option.bind_eq_some_iff, fieldNumber?_eq_some_iff]
      constructor
      · rintro ⟨n, hn, h⟩
        split at h
        case isTrue hlt =>
          obtain ⟨rest, hrest, rfl⟩ := Option.map_eq_some_iff.1 h
          obtain ⟨hnumbers, hbounds⟩ := ih.1 hrest
          exact ⟨.cons hn hnumbers, .cons hlt hbounds⟩
        case isFalse => cases h
      · rintro ⟨hnumbers, hbounds⟩
        cases hnumbers with
        | @cons _ n _ rest hn hnumbers =>
            cases hbounds with
            | cons hlt hbounds =>
                refine ⟨n, hn, ?_⟩
                rw [if_pos hlt, ih.2 ⟨hnumbers, hbounds⟩]
                rfl
  | case3 bounds parts hnil hcons =>
      refine iff_of_false (by simp) ?_
      rintro ⟨hnumbers, hbounds⟩
      cases hnumbers with
      | nil =>
          cases hbounds
          exact hnil rfl rfl
      | cons =>
          cases hbounds
          exact hcons _ _ _ _ rfl rfl

theorem spellFields_iff : SpellFields parts values ↔ fields? fieldBounds parts = some values := by
  have hbounds : fieldBounds = fieldBits.map (2 ^ ·) := by decide
  rw [fields?_eq_some_iff, hbounds, List.forall₂_map_right_iff]
  exact ⟨fun h => ⟨h.numbers, h.bounds⟩, fun h => ⟨h.1, h.2⟩⟩

theorem valueOf_hexFixed (h : n < 16 ^ width) : valueOf 16 (hexFixed width n) = n := by
  have hdigit : ∀ d < 16, digitValue? (digit d) = some d := by decide
  induction width generalizing n with
  | zero =>
      have hn : n = 0 := by simpa using h
      rw [hn]
      rfl
  | succ width ih =>
      have hdiv : n / 16 < 16 ^ width := by
        rw [Nat.pow_succ] at h
        omega
      rw [hexFixed, valueOf_append_singleton, ih hdiv, hdigit _ (Nat.mod_lt n (by decide)),
        Option.getD_some]
      omega

theorem takeWidths_flatten (h : parts.map List.length = widths) :
    takeWidths widths parts.flatten = parts := by
  subst h
  induction parts with
  | nil => rfl
  | cons part parts ih => rw [List.map_cons, List.flatten_cons, takeWidths_append rfl, ih]

theorem isHexDigit_of_mem_hexFixed (width n : Nat) :
    ∀ c ∈ hexFixed width n, isHexDigit c = true := fun _ hc =>
  List.all_eq_true.1 (by decide : upperDigits.all isHexDigit = true) _ (mem_upperDigits hc)

theorem filter_ofFields (h : values.length = 11) :
    (ofFields values).filter (· ≠ '-') = (List.zipWith hexFixed fieldWidths values).flatten := by
  have hfixed (width n : Nat) := filter_dashes (isHexDigit_of_mem_hexFixed width n)
  simp only [ne_eq, decide_not] at hfixed
  match values, h with
  | [l, w₁, w₂, b₁, b₂, b₃, b₄, b₅, b₆, b₇, b₈], _ => simp [ofFields, fieldWidths, hfixed]

/-- Digits in the widths of the fields spell the numbers that fit into them. -/
theorem map_valueOf_hexFixed
    (h : List.Forall₂ (fun n width => n < 16 ^ width) values widths) :
    (takeWidths widths (List.zipWith hexFixed widths values).flatten).map (valueOf 16) =
      values := by
  have hlengths : (List.zipWith hexFixed widths values).map List.length = widths := by
    induction h with
    | nil => rfl
    | cons _ _ ih => rw [List.zipWith_cons_cons, List.map_cons, length_hexFixed, ih]
  rw [takeWidths_flatten hlengths]
  clear hlengths
  induction h with
  | nil => rfl
  | cons hn _ ih => rw [List.zipWith_cons_cons, List.map_cons, valueOf_hexFixed hn, ih]

/-- The groups of a GUID that is made of eleven numbers show these numbers. -/
theorem fieldsOf_ofFields (h : List.Forall₂ (fun n bits => n < 2 ^ bits) values fieldBits) :
    fieldsOf (ofFields values) = values := by
  have hbits : fieldBits = fieldWidths.map (4 * ·) := by decide
  rw [hbits, List.forall₂_map_right_iff] at h
  have hwidths : List.Forall₂ (fun n width => n < 16 ^ width) values fieldWidths :=
    h.imp fun n width hn => by rwa [Nat.pow_mul] at hn
  rw [fieldsOf, filter_ofFields hwidths.length_eq, map_valueOf_hexFixed hwidths]

/-- A GUID is read from texts exactly if they spell its fields. -/
theorem ofNumbers?_eq_some_iff : ofNumbers? parts = some guid ↔
    (isCanonical guid = true ∧ upper guid = guid) ∧ SpellFields parts (fieldsOf guid) := by
  constructor
  · intro h
    refine ⟨isCanonical_of_ofNumbers? h, ?_⟩
    obtain ⟨values, hvalues, rfl⟩ := Option.map_eq_some_iff.1 h
    have hspell := spellFields_iff.2 hvalues
    rwa [fieldsOf_ofFields hspell.bounds]
  · rintro ⟨⟨hcanonical, hupper⟩, hspell⟩
    rw [ofNumbers?, spellFields_iff.1 hspell, Option.map_some, ofFields_fieldsOf hcanonical, hupper]

/-- No texts spell two lists of numbers. -/
theorem SpellFields.eq {others : List Nat} (h : SpellFields parts values)
    (hothers : SpellFields parts others) : values = others :=
  Option.some.inj ((spellFields_iff.1 h).symm.trans (spellFields_iff.1 hothers))

theorem SpellFields.ofNumbers?_eq (h : SpellFields parts values) :
    ofNumbers? parts = some (ofFields values) := by
  rw [ofNumbers?, spellFields_iff.1 h, Option.map_some]

theorem mem_initializerTokens {token : Text} (h : token ∈ initializerTokens parts) :
    token ∈ parts ∨ token ∈ [['{'], [','], ['}']] := by
  simp only [initializerTokens, List.mem_cons, List.mem_append, List.mem_flatMap,
    List.not_mem_nil, or_false] at h
  rcases h with rfl | ⟨part, hpart, rfl | rfl⟩ | rfl | h | rfl | rfl
  · exact .inr (by decide)
  · exact .inl (List.mem_of_mem_take hpart)
  · exact .inr (by decide)
  · exact .inr (by decide)
  · rcases mem_of_mem_intersperse h with rfl | h
    · exact .inr (by decide)
    · exact .inl (List.mem_of_mem_drop h)
  · exact .inr (by decide)
  · exact .inr (by decide)

theorem not_blank_of_mem_initializerTokens
    (hparts : ∀ part ∈ parts, ∀ c ∈ part, isMemberChar c = true) :
    ∀ token ∈ initializerTokens parts, ∀ c ∈ token, isBlank c = false := by
  have hmarks : ∀ mark ∈ [['{'], [','], ['}']], ∀ c ∈ mark, isBlank c = false := by
    have hall : [['{'], [','], ['}']].all (·.all (!isBlank ·)) = true := by decide
    intro mark hmark
    simpa using List.all_eq_true.1 hall mark hmark
  intro token htoken c hc
  rcases mem_initializerTokens htoken with hpart | hmark
  · have hmember := hparts token hpart c hc
    rw [isMemberChar, Bool.and_eq_true] at hmember
    simpa using hmember.1
  · exact hmarks token hmark c hc

/-- An initializer, with any blanks before its tokens and anything behind it, is read as its
members. -/
theorem ofInitializer?_spells (hlength : 3 < parts.length)
    (hparts : ∀ part ∈ parts, ∀ c ∈ part, isMemberChar c = true)
    (hbefore : '{' ∉ before ∧ '}' ∉ before) (hspells : Spells (initializerTokens parts) t)
    (after : Text) : ofInitializer? (before ++ t ++ after) = ofNumbers? parts := by
  have htokens := hspells.filter_of_not_blank (not_blank_of_mem_initializerTokens hparts)
  obtain ⟨l, w₁, w₂, first, bytes, rfl⟩ : ∃ l w₁ w₂ first bytes,
      parts = l :: w₁ :: w₂ :: first :: bytes := by
    match parts, hlength with
    | l :: w₁ :: w₂ :: first :: bytes, _ => exact ⟨l, w₁, w₂, first, bytes, rfl⟩
  let strip (text : Text) : Text := text.filter fun c => !isBlank c
  have hstrip {d : Char} (hd : d ∉ before) : d ∉ strip before :=
    fun hmem => hd (List.mem_filter.1 hmem).1
  have htext : strip (before ++ t ++ after) = strip before ++
      '{' :: (l ++ ',' :: (w₁ ++ ',' :: (w₂ ++ ',' :: '{' :: join [','] (first :: bytes)))) ++
        '}' :: ['}'] ++ strip after := by
    simp only [strip, List.filter_append, htokens]
    simp [initializerTokens, join, List.intercalate]
  exact ofInitializer?_members htext ⟨hstrip hbefore.1, hstrip hbefore.2⟩
    (List.cons_ne_nil first bytes) hparts

/-- Texts give a GUID exactly if they spell eleven numbers in the bounds of its fields. The GUID is
canonical and in upper case, its groups show the numbers, so that equal answers come from equal
numbers, and an initializer with these members gives the same answer. -/
theorem ofNumbers?_exact (parts : List Text) :
    ((ofNumbers? parts).isSome = true ↔ ∃ values, SpellFields parts values) ∧
    (∀ guid, ofNumbers? parts = some guid → isCanonical guid = true ∧ upper guid = guid ∧
      ∀ values, SpellFields parts values ↔ values = fieldsOf guid) ∧
    (∀ others values, ofNumbers? parts = ofNumbers? others →
      (SpellFields parts values ↔ SpellFields others values)) ∧
    (3 < parts.length → (∀ part ∈ parts, ∀ c ∈ part, isMemberChar c = true) →
      ∀ before t after, '{' ∉ before ∧ '}' ∉ before → Spells (initializerTokens parts) t →
        ofInitializer? (before ++ t ++ after) = ofNumbers? parts) := by
  have hanswer {parts : List Text} {values : List Nat} : SpellFields parts values ↔
      List.Forall₂ (fun n bits => n < 2 ^ bits) values fieldBits ∧
        ofNumbers? parts = some (ofFields values) := by
    refine ⟨fun h => ⟨h.bounds, h.ofNumbers?_eq⟩, fun ⟨hbounds, hparts⟩ => ?_⟩
    have hspell := (ofNumbers?_eq_some_iff.1 hparts).2
    rwa [fieldsOf_ofFields hbounds] at hspell
  refine ⟨?_, ?_, ?_, ?_⟩
  case refine_1 =>
    rw [Option.isSome_iff_exists]
    constructor
    · rintro ⟨guid, hguid⟩
      exact ⟨fieldsOf guid, (ofNumbers?_eq_some_iff.1 hguid).2⟩
    · rintro ⟨values, hvalues⟩
      exact ⟨ofFields values, hvalues.ofNumbers?_eq⟩
  case refine_2 =>
    intro guid hguid
    obtain ⟨⟨hcanonical, hupper⟩, hspell⟩ := ofNumbers?_eq_some_iff.1 hguid
    exact ⟨hcanonical, hupper, fun values => ⟨fun h => h.eq hspell, fun h => h ▸ hspell⟩⟩
  case refine_3 =>
    intro others values heq
    rw [hanswer, hanswer, heq]
  case refine_4 =>
    intro hlength hparts before t after hbefore hspells
    exact ofInitializer?_spells hlength hparts hbefore hspells after

def mixedNumbers : List Text :=
  ["0x1d262760L", "+58381", "0X+4F2C", "160", "0x7E", "73l", "0x2C", "0x0003A", "0xF6LL", "200",
    "+0"]

theorem ofNumbers?_mixedNumbers :
    ofNumbers? mixedNumbers = some "1D262760-E40D-4F2C-A07E-492C3AF6C800".toList ∧
    SpellFields mixedNumbers
      [0x1D262760, 0xE40D, 0x4F2C, 0xA0, 0x7E, 0x49, 0x2C, 0x3A, 0xF6, 0xC8, 0] ∧
    ofInitializer? ("guid_v<X>".toList ++
      (initializerTokens mixedNumbers).flatMap ("\n ".toList ++ ·) ++ " \x7d;".toList) =
        some "1D262760-E40D-4F2C-A07E-492C3AF6C800".toList := by
  have hguid : ofNumbers? mixedNumbers = some "1D262760-E40D-4F2C-A07E-492C3AF6C800".toList := by
    decide
  obtain ⟨-, hread, -, hinitializer⟩ := ofNumbers?_exact mixedNumbers
  refine ⟨hguid, ((hread _ hguid).2.2 _).2 (by decide), ?_⟩
  rw [← hguid]
  have hmembers : mixedNumbers.all (·.all isMemberChar) = true := by decide
  have hblanks : ∀ c ∈ "\n ".toList, isBlank c = true := forall_mem_of_all (by decide)
  refine hinitializer (by decide) (fun part hpart => ?_) _ _ _ (by decide)
    (spells_flatMap hblanks _)
  exact List.all_eq_true.1 (List.all_eq_true.1 hmembers part hpart)

end GuidAtlas.Guid
