import GuidAtlas.Proofs.Header.LongForm
import GuidAtlas.Proofs.Header.RoundTrip

/-!
A declaration whose tokens are spread over lines, with lines between them that are read over, is
read as the one on a single line.
-/

namespace GuidAtlas.Header

open Text

namespace LongForm

variable {name : Text} {numbers : List Text} {t closed : Text} {spelled : List Text}

theorem isDefineGuid_head (h : AreWords name numbers)
    (hspelled : spelled <+: call.tokens name numbers) (hspells : Spells spelled closed) :
    isDefineGuid (call.head name ++ closed) = true := by
  have hsolid := (call.separate_tokens h).isSolid
  have hhead {c : Char} (hc : isBlank c = false) (hopen : c ≠ '(') {rest : Text} :
      startsWith (call.head name ++ closed) ("DEFINE_GUID".toList ++ c :: rest) = false := by
    rw [← Bool.not_eq_true, startsWith_iff]
    intro hstart
    obtain ⟨after, rfl⟩ := (List.prefix_append_right_inj "DEFINE_GUID".toList).1 hstart
    rcases hspells.head?_cases (fun token htoken => hsolid token (hspelled.subset htoken))
      (c := c) rfl with hblank | ⟨token, htoken, hmem⟩
    · rw [hc] at hblank
      cases hblank
    · obtain ⟨rest, rfl⟩ := List.head?_eq_some_iff.1 htoken
      obtain ⟨rfl, -⟩ := List.cons_prefix_cons.1 hspelled
      exact hopen (List.mem_singleton.1 hmem)
  have hstruct : startsWith (call.head name ++ closed) "DEFINE_GUIDSTRUCT" = false := by
    have hname : "DEFINE_GUIDSTRUCT".toList = "DEFINE_GUID".toList ++ 'S' :: "TRUCT".toList := by
      decide
    rw [hname]
    exact hhead (by decide) (by decide)
  have hex : startsWith (call.head name ++ closed) "DEFINE_GUIDEX" = false := by
    have hname : "DEFINE_GUIDEX".toList = "DEFINE_GUID".toList ++ 'E' :: "X".toList := by decide
    rw [hname]
    exact hhead (by decide) (by decide)
  have hstart : startsWith (call.head name ++ closed) "DEFINE_GUID" = true :=
    startsWith_iff.2 (List.prefix_append _ closed)
  rw [isDefineGuid, hstart, hstruct, hex]
  rfl

variable {below later : List Text} {guid : Text}

theorem flatten_body_constant {l w₁ w₂ : Text} {bytes : List Text} :
    (constant.body name (l :: w₁ :: w₂ :: bytes)).flatten =
      '{' :: (l ++ ',' :: (w₁ ++ ',' :: (w₂ ++ ',' :: '{' :: join [','] bytes))) ++
        '}' :: ['}'] := by
  simp [body, opening, inner, closing, join, List.intercalate]

theorem ofInitializer?_spelled {guid : Text} {extra rest : List Text} (h : AreWords name numbers)
    (hguid : Guid.isCanonical guid = true)
    (hnumbers : List.Forall₂ Guid.Numeral numbers (Guid.fieldsOf guid))
    (hspells : Spells (constant.body name numbers ++ extra) t) (hextra : extra ++ rest = [[';']]) :
    Guid.ofInitializer? (constant.head name ++ t) = some (upper guid) := by
  have hsolid : ∀ token ∈ constant.body name numbers ++ extra, IsSolid token := by
    intro token htoken
    refine (constant.separate_tokens h).isSolid token ?_
    rw [tokens, ← hextra, ← List.append_assoc]
    exact List.mem_append_left rest htoken
  have hlength : numbers.length = 11 := hnumbers.length_eq.trans (Guid.length_fieldsOf guid)
  have hmember : ∀ part ∈ numbers, ∀ c ∈ part, Guid.isMemberChar c = true := by
    intro part hpart c hc
    obtain ⟨n, hn⟩ := Guid.exists_numeral_of_forall₂ hnumbers part hpart
    exact hn.induction (p := Guid.isMemberChar) (by decide) hc
  have hbefore {d : Char} (hd : identifierChars.all (· ≠ d) = true) (hfixed : d ∉ [' ', '=']) :
      d ∉ (constant.head name).filter fun c => !isBlank c :=
    fun hmem => constant.not_mem_head h hd hfixed (List.mem_filter.1 hmem).1
  obtain ⟨l, w₁, w₂, first, bytes, rfl⟩ := Guid.exists_members hlength
  have htext : (constant.head name ++ t).filter (fun c => !isBlank c) =
      (constant.head name).filter (fun c => !isBlank c) ++
        '{' :: (l ++ ',' :: (w₁ ++ ',' :: (w₂ ++ ',' :: '{' :: join [','] (first :: bytes)))) ++
          '}' :: ['}'] ++ extra.flatten := by
    rw [List.filter_append, hspells.filter hsolid, List.flatten_append, flatten_body_constant]
    simp only [List.append_assoc, List.cons_append]
  have hbraces := And.intro (hbefore (d := '{') (by decide) (by decide))
    (hbefore (d := '}') (by decide) (by decide))
  rw [Guid.ofInitializer?_members htext hbraces (List.cons_ne_nil _ _) hmember,
    Guid.ofNumbers?_numerals hguid hnumbers]

/-- What is read from the line at the start of a declaration: the values of its members, with the
lines up to the last of them. -/
theorem exists_readLine (form : LongForm) (projected : Bool) (above : List Text)
    (h : AreWords name numbers) (hguid : Guid.isCanonical guid = true)
    (hnumbers : List.Forall₂ Guid.Numeral numbers (Guid.fieldsOf guid))
    (hspells : Spells spelled closed) (hsplit : spelled ++ later = form.tokens name numbers)
    (hlined : Lined form.allowsBraces later below) :
    ∃ rest taken, readLine projected above (form.head name ++ closed) below =
        ⟨.found (upper guid) name, taken⟩ ∧ rest <:+ [[';']] ∧
      Lined form.allowsBraces rest (below.drop taken) := by
  cases form with
  | call =>
      have hstatic : afterStart? "static const UUID " (call.head name ++ closed) = none := rfl
      have hdefine := isDefineGuid_head h (hsplit ▸ List.prefix_append spelled later) hspells
      obtain ⟨t, extra, rest, taken, hgather, ht, hextra, hrest⟩ :=
        exists_gather (completesAt_call h) hspells hsplit hlined
      have hparen : '(' ∉ call.head name := call.not_mem_head h (by decide) (by decide)
      have hargs := @argumentsOf?_spelled (call.head name) t name numbers extra hparen ht
        fun word hword => (h.forall_mem word hword).1
      have hlength : (name :: numbers).length = 12 := by
        rw [List.length_cons, hnumbers.length_eq, Guid.length_fieldsOf]
      have hread : arguments 12 (call.head name ++ closed) below =
          ⟨some (name :: numbers), taken⟩ := by
        change gather hasParentheses false _ _ = _ at hgather
        rw [arguments, hgather, Option.bind_some, hargs]
        simp [hlength]
      refine ⟨rest, taken, ?_, ⟨extra, hextra⟩, hrest⟩
      rw [readLine, hstatic]
      simp only [hdefine, if_true, defineGuid, hread, Option.bind_eq_bind, Option.bind_some,
        List.head?_cons, List.tail_cons, Guid.ofNumbers?_numerals hguid hnumbers]
      rfl
  | constant =>
      have hstatic : afterStart? "static const UUID " (constant.head name ++ closed) =
          some (name ++ ' ' :: '=' :: closed) := by
        rw [head_constant, List.append_assoc, List.append_assoc, afterStart?_append]
        rfl
      have hequals : '=' ∉ closed := hspells.not_mem (by decide) fun token htoken =>
        (constant.separate_tokens h).not_mem (by decide) (by decide) token
          (hsplit ▸ List.mem_append_left later htoken)
      obtain ⟨t, extra, rest, taken, hgather, ht, hextra, hrest⟩ :=
        exists_gather (completesAt_constant h) hspells hsplit hlined
      have hvalue := ofInitializer?_spelled h hguid hnumbers ht hextra
      have hread : initializer (constant.head name ++ closed) below =
          ⟨some (upper guid), taken⟩ := by
        change gather closesTwice true _ _ = _ at hgather
        rw [initializer, hgather, Option.bind_some, hvalue]
      refine ⟨rest, taken, ?_, ⟨extra, hextra⟩, hrest⟩
      rw [readLine, hstatic]
      simp only [staticUuid, assigned?_append h.identifier hequals, hread]

end LongForm

/-- A declaration with what stands in front of each of its tokens. -/
structure Spread where
  form : LongForm
  guid : Text
  name : Text
  numbers : List Text
  gaps : List Gap

namespace Spread

variable (spread : Spread)

def tokens : List Text := spread.form.tokens spread.name spread.numbers

def pieces : List (Gap × Text) := spread.gaps.zip spread.tokens

def text : Text :=
  spread.form.head spread.name ++ spread.pieces.flatMap fun (gap, token) => gap.text ++ token

structure Fits : Prop where
  guid : Guid.isCanonical spread.guid = true
  identifier : IsIdentifier spread.name
  not_deprecated : ¬"DEPRECATED".toList <+: spread.name
  not_novtable : ¬"DECLSPEC_NOVTABLE".toList <:+: spread.name
  numbers : List.Forall₂ Guid.Numeral spread.numbers (Guid.fieldsOf spread.guid)
  length : spread.gaps.length = spread.tokens.length
  gaps : ∀ gap ∈ spread.gaps, gap.Fits

variable {spread}

theorem Fits.areWords (h : spread.Fits) : AreWords spread.name spread.numbers := by
  refine ⟨h.identifier, h.not_deprecated, h.not_novtable, fun number hnumber => ?_⟩
  obtain ⟨n, hn⟩ := Guid.exists_numeral_of_forall₂ h.numbers number hnumber
  have hchars : Guid.numeralChars.all (identifierChars.elem ·) = true := by decide
  have hplain : Guid.numeralChars.all (· ≠ 'P') = true := by decide
  refine ⟨⟨hn.ne_nil, fun c hc => ?_⟩, fun hmem => ?_⟩
  · simpa using hn.induction hchars hc
  · simpa using hn.induction hplain hmem

theorem Fits.exists_prepare (h : spread.Fits) : ∃ spelled closed later below,
    Spells spelled closed ∧ spelled ++ later = spread.tokens ∧
      Lined spread.form.allowsBraces later below ∧
      prepare spread.text = (spread.form.head spread.name ++ closed) :: below := by
  have hwords := h.areWords
  have htokens : spread.pieces.map Prod.snd = spread.tokens := List.map_snd_zip h.length.ge
  have hgaps : ∀ piece ∈ spread.pieces, piece.1.Fits :=
    fun piece hpiece => h.gaps piece.1 (List.of_mem_zip hpiece).1
  have hplain := spread.form.isPlain_tokens hwords
  have hseparate := spread.form.separate_tokens hwords
  change IsPlain (_ ++ spread.tokens.flatten) at hplain
  change Separate _ spread.tokens at hseparate
  rw [← htokens] at hplain hseparate
  obtain ⟨spelled, closed, later, below, hspells, hsplit, hlined, hprepares⟩ :=
    @exists_lined [] _ [] [] spread.pieces _ (spread.form.isTight_head hwords) .nil (by simp)
      hplain hseparate hgaps inlineBlanks_nil
  rw [List.nil_append] at hsplit hprepares
  rw [List.append_nil] at hprepares
  refine ⟨spelled, closed, later, below, hspells, hsplit.trans htokens, hlined, ?_⟩
  rw [text, ← join_rowsFrom]
  have hsolid : ∀ piece ∈ spread.pieces, IsSolid piece.2 := fun piece hpiece =>
    hseparate.isSolid piece.2 (List.mem_map_of_mem hpiece)
  have hhead : '\n' ∉ spread.form.head spread.name :=
    spread.form.not_mem_head hwords (by decide) (by decide)
  refine prepare_join hprepares ?_ ?_
  · exact not_lf_of_mem_rowsFrom hhead hgaps fun piece hpiece =>
      (hsolid piece hpiece).not_mem (by decide)
  · exact getLast?_rowsFrom_ne_nil (spread.form.isTight_head hwords).ne_nil
      fun piece hpiece => (hsolid piece hpiece).ne_nil

/-- A declaration is read in the same way in every layout of its tokens, at its first line and with
no diagnostic. -/
theorem read_spread (projected : Bool) (h : spread.Fits) :
    read projected spread.text = ⟨[⟨upper spread.guid, spread.name, 1⟩], []⟩ := by
  obtain ⟨spelled, closed, later, below, hspells, hsplit, hlined, hprepare⟩ := h.exists_prepare
  obtain ⟨rest, taken, hread, hrest, hleft⟩ :=
    spread.form.exists_readLine projected [] h.areWords h.guid h.numbers hspells hsplit hlined
  have hvalid : isValid (spread.form.head spread.name ++ closed) false = true := by
    cases spread.form <;> rfl
  obtain ⟨passed, hpassed⟩ := @exists_contentsFrom_drop projected taken
    [spread.form.head spread.name ++ closed] below
  rw [read, hprepare, contentsFrom, if_pos hvalid, hread]
  simp only [hpassed, contentsFrom_semicolon hrest hleft]
  rfl

end Spread

/-- A declaration of two lines with one line between them. -/
def sampleSpread (filler : Filler) : Spread where
  form := .call
  guid := sampleGuid
  name := "IID_A"
  numbers := sampleNumbers
  gaps := .inline [] :: .inline [] :: .inline [] :: .broken [] [filler] [] ::
    List.replicate 22 (.inline [' '])

theorem fits_sampleSpread {filler : Filler} (h : filler.Fits) : (sampleSpread filler).Fits where
  guid := fits_defineGuid.guid
  identifier := (by decide : IsIdentifier "IID_A")
  not_deprecated := (by decide : ¬"DEPRECATED".toList <+: "IID_A".toList)
  not_novtable := (by decide : ¬"DECLSPEC_NOVTABLE".toList <:+: "IID_A".toList)
  numbers := numerals_sample
  length := rfl
  gaps := by
    have hnone : (Gap.inline []).Fits := inlineBlanks_nil
    have hbroken : (Gap.broken [] [filler] []).Fits :=
      ⟨inlineBlanks_nil, by simp, List.forall_mem_singleton.2 h, inlineBlanks_nil⟩
    have hspaces : ∀ gap ∈ List.replicate 22 (Gap.inline [' ']), gap.Fits := by
      intro gap hgap
      rw [List.eq_of_mem_replicate hgap]
      exact inlineBlanks_space
    simp only [sampleSpread, List.forall_mem_cons]
    exact ⟨hnone, hnone, hnone, hbroken, hspaces⟩

theorem read_around_definition :
    let spread := sampleSpread (.definition [] "IID_B" [' '])
    spread.Fits ∧ read true spread.text = ⟨[⟨upper sampleGuid, "IID_A", 1⟩], []⟩ := by
  intro spread
  have hfits : spread.Fits :=
    fits_sampleSpread ⟨inlineBlanks_nil, by decide, by decide, inlineBlanks_space⟩
  exact ⟨hfits, Spread.read_spread true hfits⟩

/-- Two lines that are not read over: a comment that ends in a backslash and blanks, which goes on
in the line below it, and the definition of a marker that is deleted. -/
theorem not_read_around_continued_comment :
    let comment : Text := " note\\ "
    let marker : Text := "DECLSPEC_NOVTABLE"
    (∀ filler : Filler, filler.Fits → (sampleSpread filler).Fits) ∧
    comment.getLast? ≠ some '\\' ∧ IsIdentifier marker ∧
    ∀ filler ∈ [Filler.comment [] comment, Filler.definition [] marker []],
      read false (sampleSpread filler).text ≠ ⟨[⟨upper sampleGuid, "IID_A", 1⟩], []⟩ := by
  intro comment marker
  refine ⟨fun filler h => fits_sampleSpread h, by decide, by decide, ?_⟩
  have hcomment : read false (sampleSpread (.comment [] comment)).text = ⟨[], [1]⟩ := by
    decide +kernel
  have hmarker : read false (sampleSpread (.definition [] marker [])).text = ⟨[], [1]⟩ := by
    decide +kernel
  simp only [List.forall_mem_cons, hcomment, hmarker]
  simp

end GuidAtlas.Header
