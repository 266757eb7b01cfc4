import GuidAtlas.Proofs.Header.Prepare
import GuidAtlas.Proofs.Header.Word
import GuidAtlas.Proofs.Text.Spelling
import Mathlib.Data.List.Chain

/-!
Lines that spell tokens: how they are prepared, and that no token makes them lines that are skipped.
-/

namespace GuidAtlas.Header

open Text

def InlineBlanks (t : Text) : Prop := ∀ c ∈ t, isBlank c = true ∧ c ≠ '\n'

variable {s t first indent trail token closed : Text} {tokens others : List Text}
  {allowBraces : Bool}

theorem inlineBlanks_nil : InlineBlanks [] := List.forall_mem_nil _

theorem inlineBlanks_space : InlineBlanks [' '] := List.forall_mem_singleton.2 (by decide)

theorem InlineBlanks.not_lf (h : InlineBlanks t) : '\n' ∉ t := fun hmem => (h _ hmem).2 rfl

/-- What must not be in lines that are prepared as they are. -/
structure IsPlain (t : Text) : Prop where
  slash : '/' ∉ t
  backslash : '\\' ∉ t
  lineFeed : '\n' ∉ t
  paren : ¬"__declspec(novtable)".toList <:+: t
  word : ¬"DECLSPEC_NOVTABLE".toList <:+: t

theorem IsPlain.of_isInfix (h : IsPlain t) (hpart : s <:+: t) : IsPlain s where
  slash hmem := h.slash (hpart.subset hmem)
  backslash hmem := h.backslash (hpart.subset hmem)
  lineFeed hmem := h.lineFeed (hpart.subset hmem)
  paren hmarker := h.paren (hmarker.trans hpart)
  word hmarker := h.word (hmarker.trans hpart)

theorem IsPlain.split (h : IsPlain (first ++ (tokens ++ token :: others).flatten)) :
    IsPlain (first ++ tokens.flatten) ∧ IsPlain (token ++ others.flatten) := by
  rw [List.flatten_append, List.flatten_cons, ← List.append_assoc] at h
  exact ⟨h.of_isInfix (List.prefix_append _ _).isInfix,
    h.of_isInfix (List.suffix_append _ _).isInfix⟩

theorem IsPlain.of_spells (h : IsPlain (first ++ tokens.flatten)) (hspells : Spells tokens s)
    (hsolid : ∀ token ∈ tokens, IsSolid token) (hlf : '\n' ∉ s) : IsPlain (first ++ s) := by
  have hchar {c : Char} (hc : isBlank c = false) (hnot : c ∉ first ++ tokens.flatten) :
      c ∉ first ++ s := by
    simp only [List.mem_append, List.mem_flatten, not_or, not_exists, not_and] at hnot ⊢
    exact ⟨hnot.1, hspells.not_mem hc hnot.2⟩
  have hpart {part : Text} (hpart : ∀ c ∈ part, (!isBlank c) = true)
      (hnot : ¬part <:+: first ++ tokens.flatten) : ¬part <:+: first ++ s := by
    intro hwhole
    rw [← hspells.filter hsolid] at hnot
    exact hnot (infix_append_filter hpart hwhole)
  exact
    { slash := hchar (by decide) h.slash
      backslash := hchar (by decide) h.backslash
      lineFeed := by
        have hfirst := h.lineFeed
        simp only [List.mem_append, not_or] at hfirst ⊢
        exact ⟨hfirst.1, hlf⟩
      paren := hpart (List.all_eq_true.1 (by decide)) h.paren
      word := hpart (List.all_eq_true.1 (by decide)) h.word }

/-- A line that starts with a tight text and spells tokens behind it is prepared to such a line. -/
theorem exists_prepares (hfirst : IsTight first) (h : Spells tokens s)
    (hsolid : ∀ token ∈ tokens, IsSolid token) (hplain : IsPlain (first ++ s))
    (hindent : InlineBlanks indent) (htrail : InlineBlanks trail) :
    ∃ closed, Spells tokens closed ∧
      Prepares (indent ++ (first ++ s) ++ trail) (first ++ closed) := by
  obtain ⟨closed, hclosed, hcollapse⟩ := h.exists_collapse hsolid hfirst
  have hhead : ∀ c ∈ (first ++ s).head?, isBlank c = false := by
    intro c hc
    rw [List.head?_append_of_ne_nil _ hfirst.ne_nil] at hc
    exact hfirst.head?_not_blank c hc
  have hlast : ∀ c ∈ (first ++ s).getLast?, isBlank c = false := by
    intro c hc
    rw [List.getLast?_append] at hc
    rcases Option.or_eq_some_iff.1 hc with hc | ⟨-, hc⟩
    · exact h.getLast?_not_blank hsolid c hc
    · exact hfirst.getLast?_not_blank c hc
  have htrim : trim (indent ++ (first ++ s) ++ trail) = first ++ s :=
    trimOf_append (fun c hc => (hindent c hc).1) (fun c hc => (htrail c hc).1) hhead hlast
  refine ⟨closed, hclosed, ?_, first ++ s, ?_, ?_⟩
  · rw [htrim]
    exact beforeBackslash?_eq_none fun hslash => hplain.backslash (List.mem_of_getLast? hslash)
  · rw [htrim, uncomment_eq_self hplain.slash]
  · rw [withoutMarkers_eq_self hplain.paren hplain.word, hcollapse]

def markChars : Text := "(),;\x7b\x7d"

def marks : List Text := markChars.map fun c => [c]

/-- Names, numbers and marks as a line can hold them: no two words are next to each other. -/
structure Separate (allowBraces : Bool) (tokens : List Text) : Prop where
  kinds : ∀ token ∈ tokens, IsIdentifier token ∨ token ∈ marks
  apart : List.IsChain (fun first second => first ∈ marks ∨ second ∈ marks) tokens
  not_deprecated : ∀ token ∈ tokens, ¬"DEPRECATED".toList <+: token
  braces : allowBraces = true ∨ ∀ token ∈ tokens, '{' ∉ token ∧ '}' ∉ token

theorem Separate.of_isInfix (h : Separate allowBraces tokens) (hpart : others <:+: tokens) :
    Separate allowBraces others where
  kinds token htoken := h.kinds token (hpart.subset htoken)
  apart := List.IsChain.infix h.apart hpart
  not_deprecated token htoken := h.not_deprecated token (hpart.subset htoken)
  braces := h.braces.imp_right fun hnot token htoken => hnot token (hpart.subset htoken)

theorem IsIdentifier.isSolid (h : IsIdentifier t) : IsSolid t :=
  ⟨h.ne_nil, fun _ hc => h.not_blank hc⟩

theorem mem_of_mem_marks (h : token ∈ marks) {c : Char} (hc : c ∈ token) : c ∈ markChars := by
  obtain ⟨d, hd, rfl⟩ := List.mem_map.1 h
  rwa [List.mem_singleton.1 hc]

theorem isSolid_of_mem_marks (h : token ∈ marks) : IsSolid token where
  ne_nil := by
    have hnil : [] ∉ marks := by decide
    rintro rfl
    exact hnil h
  not_blank c hc := by
    have hall : markChars.all (!isBlank ·) = true := by decide
    simpa using List.all_eq_true.1 hall c (mem_of_mem_marks h hc)

theorem Separate.isSolid (h : Separate allowBraces tokens) : ∀ token ∈ tokens, IsSolid token := by
  intro token htoken
  rcases h.kinds token htoken with hname | hmark
  · exact hname.isSolid
  · exact isSolid_of_mem_marks hmark

/-- No character of a token is one that neither a word nor a mark has. -/
theorem Separate.not_mem (h : Separate allowBraces tokens) {d : Char}
    (hname : identifierChars.all (· ≠ d) = true) (hmark : d ∉ markChars) :
    ∀ token ∈ tokens, d ∉ token := by
  intro token htoken hd
  rcases h.kinds token htoken with hword | hkind
  · exact hword.not_mem hname hd
  · exact hmark (mem_of_mem_marks hkind hd)

theorem separate_nil (allowBraces : Bool) : Separate allowBraces [] :=
  ⟨by simp, .nil, by simp, by simp⟩

theorem Separate.cons_mark (h : Separate allowBraces tokens) (hmark : token ∈ marks)
    (hbraces : allowBraces = true ∨ '{' ∉ token ∧ '}' ∉ token) :
    Separate allowBraces (token :: tokens) where
  kinds := List.forall_mem_cons.2 ⟨.inr hmark, h.kinds⟩
  apart := List.isChain_cons.2 ⟨fun _ _ => .inl hmark, h.apart⟩
  not_deprecated := by
    have hmarks : ∀ mark ∈ marks, ¬"DEPRECATED".toList <+: mark := by decide
    exact List.forall_mem_cons.2 ⟨hmarks token hmark, h.not_deprecated⟩
  braces := by
    rcases hbraces, h.braces with ⟨hallow | hnot, hallow | hrest⟩
    · exact .inl hallow
    · exact .inl hallow
    · exact .inl hallow
    · exact .inr (List.forall_mem_cons.2 ⟨hnot, hrest⟩)

theorem Separate.cons_word {mark : Text} (h : Separate allowBraces (mark :: tokens))
    (hmark : mark ∈ marks) (hword : IsIdentifier token)
    (hdeprecated : ¬"DEPRECATED".toList <+: token) :
    Separate allowBraces (token :: mark :: tokens) where
  kinds := List.forall_mem_cons.2 ⟨.inl hword, h.kinds⟩
  apart := List.isChain_cons_cons.2 ⟨.inr hmark, h.apart⟩
  not_deprecated := List.forall_mem_cons.2 ⟨hdeprecated, h.not_deprecated⟩
  braces := h.braces.imp_right fun hnot =>
    List.forall_mem_cons.2 ⟨⟨hword.not_mem (by decide), hword.not_mem (by decide)⟩, hnot⟩

theorem Separate.append_words {mark : Text} (h : Separate allowBraces (mark :: tokens))
    (hmark : mark ∈ marks) (words : List Text)
    (hwords : ∀ word ∈ words, IsIdentifier word ∧ ¬"DEPRECATED".toList <+: word) :
    Separate allowBraces (words.intersperse [','] ++ mark :: tokens) := by
  induction words with
  | nil => exact h
  | cons first words ih =>
      obtain ⟨⟨hfirst, hdeprecated⟩, hwords⟩ := List.forall_mem_cons.1 hwords
      cases words with
      | nil => exact h.cons_word hmark hfirst hdeprecated
      | cons second words =>
          have hcomma : [','] ∈ marks := by decide
          have hrest := (ih hwords).cons_mark hcomma (.inr (by decide))
          rw [List.intersperse_cons_cons]
          exact hrest.cons_word hcomma hfirst hdeprecated

/-- A text without marks is a part of the tokens only as a part of one of them. -/
theorem Separate.exists_mem_part (h : Separate allowBraces tokens) {part : Text} (hne : part ≠ [])
    (hplain : ∀ c ∈ part, c ∉ markChars) (hpart : part <:+: tokens.flatten) :
    ∃ token ∈ tokens, part <:+: token := by
  have hmarked {mark : Text} (hmark : mark ∈ marks) : ∃ d, mark = [d] ∧ d ∉ part := by
    obtain ⟨d, hd, rfl⟩ := List.mem_map.1 hmark
    exact ⟨d, rfl, fun hmem => hplain d hmem hd⟩
  induction tokens with
  | nil => exact absurd (List.infix_nil.1 hpart) hne
  | cons token tokens ih =>
      have hrest (hpart : part <:+: tokens.flatten) :
          ∃ other ∈ token :: tokens, part <:+: other := by
        obtain ⟨other, hother, hpart⟩ :=
          ih (h.of_isInfix (List.suffix_cons _ _).isInfix) hpart
        exact ⟨other, List.mem_cons_of_mem _ hother, hpart⟩
      rw [List.flatten_cons] at hpart
      by_cases hmark : token ∈ marks
      case pos =>
        obtain ⟨d, rfl, hd⟩ := hmarked hmark
        rcases @infix_append_cons part [] _ d hpart hd with hpart | hpart
        · exact absurd (List.infix_nil.1 hpart) hne
        · exact hrest hpart
      case neg =>
        cases tokens with
        | nil => exact ⟨token, List.mem_cons_self, by simpa using hpart⟩
        | cons second tokens =>
            have hsecond := (List.isChain_cons_cons.1 h.apart).1.resolve_left hmark
            obtain ⟨d, rfl, hd⟩ := hmarked hsecond
            rcases infix_append_cons hpart hd with hpart | hpart
            · exact ⟨token, List.mem_cons_self, hpart⟩
            · exact hrest (List.infix_cons hpart)

/-- No skipped word is written by tokens that do not begin with it: a word is followed by a mark. -/
theorem Separate.not_deprecated_append (h : Separate allowBraces (token :: tokens))
    (hspells : Spells tokens closed) : ¬"DEPRECATED".toList <+: token ++ closed := by
  have hsolid := h.isSolid
  have hplain {c : Char} (hc : c ∈ "DEPRECATED".toList) : isBlank c = false ∧ c ∉ markChars := by
    have hall : "DEPRECATED".toList.all (fun c => !isBlank c && !markChars.elem c) = true := by
      decide
    simpa using List.all_eq_true.1 hall c hc
  intro hpart
  rcases prefix_append_cases hpart with hpart | ⟨rest, hword, hrest⟩
  · exact h.not_deprecated token List.mem_cons_self hpart
  · have htoken : token ∉ marks := by
      intro hmark
      have hne := (hsolid token List.mem_cons_self).ne_nil
      obtain ⟨c, chars, hcons⟩ := List.exists_cons_of_ne_nil hne
      have hc : c ∈ token := by simp [hcons]
      exact (hplain (hword ▸ List.mem_append_left rest hc)).2 (mem_of_mem_marks hmark hc)
    cases rest with
    | nil =>
        rw [List.append_nil] at hword
        exact h.not_deprecated token List.mem_cons_self (hword ▸ List.prefix_rfl)
    | cons c rest =>
        obtain ⟨hblank, hmark⟩ := @hplain c (hword ▸ by simp)
        obtain ⟨after, rfl⟩ := hrest
        have hbehind := (List.forall_mem_cons.1 hsolid).2
        rcases hspells.head?_cases hbehind (c := c) rfl with hc | ⟨second, hsecond, hc⟩
        · rw [hblank] at hc
          cases hc
        · have happart := (List.isChain_cons.1 h.apart).1 second hsecond
          exact hmark (mem_of_mem_marks (happart.resolve_left htoken) hc)

theorem Separate.isValid (h : Separate allowBraces (token :: tokens))
    (hspells : Spells tokens closed) : isValid (token ++ closed) allowBraces = true := by
  have hdeprecated := h.not_deprecated_append hspells
  have hhash : '#' ∉ token := h.not_mem (by decide) (by decide) token List.mem_cons_self
  have hnone : allowBraces = true ∨ '{' ∉ token ∧ '}' ∉ token :=
    h.braces.imp_right fun hnot => hnot token List.mem_cons_self
  obtain ⟨c, rest, rfl⟩ := List.exists_cons_of_ne_nil (h.isSolid token List.mem_cons_self).ne_nil
  rw [← startsWith_iff, Bool.not_eq_true] at hdeprecated
  have hskipped : ∀ start ∈ skippedStarts, startsWith (c :: (rest ++ closed)) start = false := by
    have hother (t : Text) : startsWith (c :: (rest ++ closed)) ('#' :: t) = false := by
      rw [← Bool.not_eq_true, startsWith_iff, List.cons_prefix_cons]
      rintro ⟨rfl, -⟩
      exact hhash List.mem_cons_self
    simp only [skippedStarts, List.forall_mem_cons]
    exact ⟨hother _, hother _, hother _, hdeprecated, by simp⟩
  have hbrace : allowBraces = true ∨ startsWithBrace (c :: (rest ++ closed)) = false := by
    refine hnone.imp_right fun hnot => ?_
    simp only [List.mem_cons, not_or] at hnot
    simp [startsWithBrace, Ne.symm hnot.1.1, Ne.symm hnot.2.1]
  simpa [Header.isValid] using ⟨hskipped, hbrace⟩

end GuidAtlas.Header
