import GuidAtlas.Proofs.Header.Gathering

/-!
The two forms of declarations whose numbers may stand on lines of their own, as lists of tokens. The
tokens are words and marks, they hold nothing that is skipped or deleted, and a declaration is
complete as soon as its closing token is there.
-/

namespace GuidAtlas.Header

open Text

/-- The forms whose numbers may stand on the lines below their first one. -/
inductive LongForm where
  | call
  | constant

/-- A name and numbers that begin with nothing that is skipped and have nothing that is deleted. -/
structure AreWords (name : Text) (numbers : List Text) : Prop where
  identifier : IsIdentifier name
  not_deprecated : ¬"DEPRECATED".toList <+: name
  not_novtable : ¬"DECLSPEC_NOVTABLE".toList <:+: name
  number : ∀ number ∈ numbers, IsIdentifier number ∧ 'P' ∉ number

theorem AreWords.forall_mem {name : Text} {numbers : List Text} (h : AreWords name numbers) :
    ∀ word ∈ name :: numbers, IsIdentifier word ∧ ¬"DEPRECATED".toList <+: word := by
  refine List.forall_mem_cons.2 ⟨⟨h.identifier, h.not_deprecated⟩, fun number hnumber => ?_⟩
  obtain ⟨hword, hnot⟩ := h.number number hnumber
  exact ⟨hword, fun hstart => hnot (hstart.subset (by decide))⟩

namespace LongForm

variable (form : LongForm) (name : Text) (numbers : List Text)

def head : Text :=
  match form with
  | .call => "DEFINE_GUID"
  | .constant => "static const UUID ".toList ++ (name ++ " =".toList)

def opening : Char :=
  match form with
  | .call => '('
  | .constant => '{'

/-- The tokens between the opening one and the last two, the closing one and a semicolon. -/
def inner : List Text :=
  match form with
  | .call => (name :: numbers).intersperse [',']
  | .constant => (numbers.take 3).intersperse [','] ++
      [','] :: ['{'] :: ((numbers.drop 3).intersperse [','] ++ [['}']])

def closing : Char :=
  match form with
  | .call => ')'
  | .constant => '}'

def body : List Text := [form.opening] :: form.inner name numbers ++ [[form.closing]]

def tokens : List Text := form.body name numbers ++ [[';']]

def allowsBraces : Bool :=
  match form with
  | .call => false
  | .constant => true

variable {form name numbers} {t token closed : Text} {spelled : List Text}

theorem mem_inner (h : token ∈ form.inner name numbers) :
    token = name ∨ token ∈ numbers ∨ token ∈ [[','], ['{'], ['}']] := by
  have hargs {parts : List Text} (h : token ∈ parts.intersperse [',']) :
      token ∈ parts ∨ token ∈ [[','], ['{'], ['}']] := by
    rcases mem_of_mem_intersperse h with rfl | h
    · exact .inr (by decide)
    · exact .inl h
  cases form with
  | call =>
      rcases hargs h with h | h
      · exact (List.mem_cons.1 h).imp_right .inl
      · exact .inr (.inr h)
  | constant =>
      refine .inr ?_
      simp only [inner, List.mem_append, List.mem_cons] at h
      rcases h with h | rfl | rfl | h | h
      · exact (hargs h).imp_left List.mem_of_mem_take
      · exact .inr (by decide)
      · exact .inr (by decide)
      · exact (hargs h).imp_left List.mem_of_mem_drop
      · exact .inr (by simp_all)

theorem mem_tokens (h : token ∈ form.tokens name numbers) :
    token = name ∨ token ∈ numbers ∨ token ∈ marks := by
  simp only [tokens, body, List.mem_append, List.mem_cons, List.not_mem_nil, or_false] at h
  rcases h with ((rfl | h) | rfl) | rfl
  · exact .inr (.inr (by cases form <;> decide))
  · have hmarks : [[','], ['{'], ['}']] ⊆ marks := by decide
    exact (mem_inner h).imp_right (.imp_right fun hmark => hmarks hmark)
  · exact .inr (.inr (by cases form <;> decide))
  · exact .inr (.inr (by decide))

theorem separate_tokens (form : LongForm) (h : AreWords name numbers) :
    Separate form.allowsBraces (form.tokens name numbers) := by
  have hend (allowBraces : Bool) : Separate allowBraces [[';']] :=
    (separate_nil allowBraces).cons_mark (by decide) (.inr (by decide))
  cases form with
  | call =>
      have hclosed : Separate false [[')'], [';']] :=
        (hend false).cons_mark (by decide) (.inr (by decide))
      have hargs := hclosed.append_words (by decide) _ h.forall_mem
      have htokens : Separate false (['('] :: _) := hargs.cons_mark (by decide) (.inr (by decide))
      simpa [tokens, body, opening, inner, closing, allowsBraces] using htokens
  | constant =>
      have hnumbers := (List.forall_mem_cons.1 h.forall_mem).2
      have hclosed : Separate true [['}'], ['}'], [';']] :=
        ((hend true).cons_mark (by decide) (.inl rfl)).cons_mark (by decide) (.inl rfl)
      have hbytes := hclosed.append_words (by decide) (numbers.drop 3)
        fun word hword => hnumbers word (List.mem_of_mem_drop hword)
      have hopened : Separate true ([','] :: ['{'] :: _) :=
        (hbytes.cons_mark (by decide) (.inl rfl)).cons_mark (by decide) (.inl rfl)
      have hmembers := hopened.append_words (by decide) (numbers.take 3)
        fun word hword => hnumbers word (List.mem_of_mem_take hword)
      have htokens : Separate true (['{'] :: _) := hmembers.cons_mark (by decide) (.inl rfl)
      simpa [tokens, body, opening, inner, closing, allowsBraces] using htokens

theorem head_constant (name : Text) :
    constant.head name = "static const UUID ".toList ++ (name ++ " =".toList) := rfl

theorem isTight_head (form : LongForm) (h : AreWords name numbers) : IsTight (form.head name) := by
  cases form with
  | call =>
      have hword : IsIdentifier "DEFINE_GUID" := by decide
      exact hword.isTight
  | constant =>
      have hstart : "static const UUID ".toList.foldl tighten (some false) = some false := by decide
      have hopen := foldl_tighten_of_not_blank (fun _ hc => h.identifier.not_blank hc)
        h.identifier.ne_nil false
      rw [head_constant, IsTight, List.foldl_append, List.foldl_append, hstart, hopen]
      decide

theorem not_mem_head (form : LongForm) (h : AreWords name numbers) {d : Char}
    (hd : identifierChars.all (· ≠ d) = true) (hfixed : d ∉ [' ', '=']) : d ∉ form.head name := by
  have hnot {t : Text} (ht : t.all (fun c => identifierChars.elem c || [' ', '='].elem c) = true) :
      d ∉ t := by
    intro hmem
    have hmem := List.all_eq_true.1 ht d hmem
    rcases Bool.or_eq_true_iff.1 hmem with hmem | hmem
    · simpa using List.all_eq_true.1 hd d (List.elem_iff.1 hmem)
    · exact hfixed (List.elem_iff.1 hmem)
  cases form with
  | call => exact hnot (t := "DEFINE_GUID") (by decide)
  | constant =>
      have hstart : d ∉ "static const UUID ".toList := hnot (by decide)
      have hequals : d ∉ " =".toList := hnot (by decide)
      rw [head_constant, List.mem_append, List.mem_append, not_or, not_or]
      exact ⟨hstart, h.identifier.not_mem hd, hequals⟩

theorem flatten_tokens (form : LongForm) (name : Text) (numbers : List Text) :
    (form.tokens name numbers).flatten = form.opening ::
      (form.inner name numbers ++ [[form.closing], [';']]).flatten := by
  simp [tokens, body]

theorem not_paren_behind_opening (form : LongForm) (h : AreWords name numbers) :
    '(' ∉ (form.inner name numbers ++ [[form.closing], [';']]).flatten := by
  have hclosing : '(' ∉ [form.closing] ∧ '(' ∉ [';'] := by cases form <;> decide
  simp only [List.mem_flatten, List.mem_append, not_exists, not_and]
  rintro token (htoken | htoken)
  · rcases mem_inner htoken with rfl | hnumber | hmark
    · exact h.identifier.not_mem (by decide)
    · exact (h.number token hnumber).1.not_mem (by decide)
    · have hmarks : ∀ mark ∈ [[','], ['{'], ['}']], '(' ∉ mark := by decide
      exact hmarks token hmark
  · simp only [List.mem_cons, List.not_mem_nil, or_false] at htoken
    rcases htoken with rfl | rfl
    · exact hclosing.1
    · exact hclosing.2

theorem not_declspec (form : LongForm) (h : AreWords name numbers) :
    ¬"__declspec(novtable)".toList <:+: form.head name ++ (form.tokens name numbers).flatten := by
  intro hpart
  have hhead : '(' ∉ form.head name := form.not_mem_head h (by decide) (by decide)
  have hrest := form.not_paren_behind_opening h
  rw [flatten_tokens] at hpart
  cases form with
  | call =>
      -- The only parenthesis stands behind the name of the macro.
      have hopen : "__declspec".toList ++ ['('] <:+: "__declspec(novtable)".toList := by decide
      have hsuffix := suffix_of_infix_append_cons (hopen.trans hpart) hhead hrest
      have hnot : ¬"__declspec".toList <:+ "DEFINE_GUID".toList := by decide
      exact hnot hsuffix
  | constant =>
      have hmem := hpart.subset (show '(' ∈ "__declspec(novtable)".toList by decide)
      simp only [List.mem_append, List.mem_cons] at hmem
      rcases hmem with hmem | hmem | hmem
      · exact hhead hmem
      · cases hmem
      · exact hrest hmem

theorem not_novtable_head (form : LongForm) (h : AreWords name numbers) :
    ¬"DECLSPEC_NOVTABLE".toList <:+: form.head name := by
  cases form with
  | call =>
      have hnot : ¬"DECLSPEC_NOVTABLE".toList <:+: "DEFINE_GUID".toList := by decide
      exact hnot
  | constant =>
      have hspace : ' ' ∉ "DECLSPEC_NOVTABLE".toList := by decide
      have hstart : ¬"DECLSPEC_NOVTABLE".toList <:+: "static const UUID".toList := by decide
      have hequals : ¬"DECLSPEC_NOVTABLE".toList <:+: ['='] := by decide
      have hwords : "static const UUID ".toList = "static const UUID".toList ++ [' '] := by decide
      rw [head_constant, hwords, List.append_assoc]
      intro hpart
      rcases infix_append_cons (a := "static const UUID") (d := ' ') hpart hspace with hpart | hpart
      · exact hstart hpart
      · rcases infix_append_cons (a := name) (d := ' ') hpart hspace with hpart | hpart
        · exact h.not_novtable hpart
        · exact hequals hpart

theorem not_novtable (form : LongForm) (h : AreWords name numbers) :
    ¬"DECLSPEC_NOVTABLE".toList <:+: form.head name ++ (form.tokens name numbers).flatten := by
  intro hpart
  have hopening : form.opening ∉ "DECLSPEC_NOVTABLE".toList := by cases form <;> decide
  have hplain : ∀ c ∈ "DECLSPEC_NOVTABLE".toList, c ∉ markChars := by
    have hall : "DECLSPEC_NOVTABLE".toList.all (!markChars.elem ·) = true := by decide
    simpa using hall
  have hmarks : ∀ mark ∈ marks, ¬"DECLSPEC_NOVTABLE".toList <:+: mark := by decide
  -- The head ends before a mark, so the word is in the head or in one of the tokens.
  have hcases : "DECLSPEC_NOVTABLE".toList <:+: form.head name ∨
      "DECLSPEC_NOVTABLE".toList <:+: (form.tokens name numbers).flatten := by
    rw [flatten_tokens] at hpart ⊢
    exact (infix_append_cons hpart hopening).imp_right List.infix_cons
  rcases hcases with hpart | hpart
  · exact form.not_novtable_head h hpart
  · obtain ⟨token, htoken, hpart⟩ :=
      (form.separate_tokens h).exists_mem_part (by decide) hplain hpart
    rcases mem_tokens htoken with hname | hnumber | hmark
    · exact h.not_novtable (hname ▸ hpart)
    · exact (h.number token hnumber).2 (hpart.subset (by decide))
    · exact hmarks token hmark hpart

/-- What is written has nothing that is prepared to something else. -/
theorem isPlain_tokens (form : LongForm) (h : AreWords name numbers) :
    IsPlain (form.head name ++ (form.tokens name numbers).flatten) := by
  have hnot {d : Char} (hd : identifierChars.all (· ≠ d) = true) (hmark : d ∉ markChars)
      (hfixed : d ∉ [' ', '=']) : d ∉ form.head name ++ (form.tokens name numbers).flatten := by
    simp only [List.mem_append, List.mem_flatten, not_or, not_exists, not_and]
    exact ⟨form.not_mem_head h hd hfixed, (form.separate_tokens h).not_mem hd hmark⟩
  exact
    { slash := hnot (by decide) (by decide) (by decide)
      backslash := hnot (by decide) (by decide) (by decide)
      lineFeed := hnot (by decide) (by decide) (by decide)
      paren := form.not_declspec h
      word := form.not_novtable h }

theorem not_mem_intersperse {parts : List Text} (hparts : ∀ part ∈ parts, IsIdentifier part)
    {d : Char} (hd : identifierChars.all (· ≠ d) = true) (hcomma : d ≠ ',') :
    d ∉ (parts.intersperse [',']).flatten := by
  simp only [List.mem_flatten, not_exists, not_and]
  intro token htoken
  rcases mem_of_mem_intersperse htoken with rfl | htoken
  · simpa using hcomma
  · exact (hparts token htoken).not_mem hd

theorem hasParentheses_head (name t : Text) :
    hasParentheses (call.head name ++ t) = (t.elem '(' && t.elem ')') := rfl

theorem closesTwice_head (h : AreWords name numbers) (t : Text) :
    closesTwice (constant.head name ++ t) = decide (2 ≤ t.count '}') := by
  have hhead : (constant.head name).count '}' = 0 :=
    List.count_eq_zero.2 (constant.not_mem_head h (by decide) (by decide))
  rw [closesTwice, List.count_append, hhead, Nat.zero_add]

theorem completesAt_call (h : AreWords name numbers) :
    CompletesAt hasParentheses (call.head name) (call.body name numbers) [[';']] := by
  have hsolid := (call.separate_tokens h).isSolid
  have hopen : ')' ∉ ([call.opening] :: call.inner name numbers).flatten := by
    have hargs := not_mem_intersperse (fun word hword => (h.forall_mem word hword).1)
      (d := ')') (by decide) (by decide)
    simpa [opening, inner] using hargs
  refine .of_concat (fun hpart hspells => ?_) (fun spelled hpart => ?_)
    fun spelled hpart => ?_
  · have hmem {c : Char} (hc : isBlank c = false) :=
      hspells.mem_iff (fun token htoken => hsolid token (hpart.subset htoken)) hc
    rw [hasParentheses_head, hasParentheses_head, Bool.eq_iff_iff]
    simp only [Bool.and_eq_true, List.elem_iff, hmem (c := '(') (by decide),
      hmem (c := ')') (by decide)]
  · have hnone : ')' ∉ spelled.flatten := fun hmem => hopen (hpart.flatten.subset hmem)
    simp [hasParentheses_head, hnone]
  · have hbody := hpart.flatten.subset
    have hopening : '(' ∈ spelled.flatten := hbody (by simp [opening])
    have hclosing : ')' ∈ spelled.flatten := hbody (by simp [closing])
    simp [hasParentheses_head, hopening, hclosing]

theorem completesAt_constant (h : AreWords name numbers) :
    CompletesAt closesTwice (constant.head name) (constant.body name numbers) [[';']] := by
  have hsolid := (constant.separate_tokens h).isSolid
  have hopen : ([constant.opening] :: constant.inner name numbers).flatten.count '}' = 1 := by
    have hnone {parts : List Text} (hparts : parts ⊆ numbers) :
        (parts.intersperse [',']).flatten.count '}' = 0 :=
      List.count_eq_zero.2 (not_mem_intersperse
        (fun part hpart => (h.number part (hparts hpart)).1) (by decide) (by decide))
    have hmembers := hnone (List.take_subset 3 numbers)
    have hbytes := hnone (List.drop_subset 3 numbers)
    simp [opening, inner, hmembers, hbytes]
  refine .of_concat (fun hpart hspells => ?_) (fun spelled hpart => ?_)
    fun spelled hpart => ?_
  · have hcount := hspells.count_eq (fun token htoken => hsolid token (hpart.subset htoken))
      (c := '}') (by decide)
    rw [closesTwice_head h, closesTwice_head h, hcount]
  · have hcount := hpart.flatten.sublist.count_le '}'
    rw [closesTwice_head h, decide_eq_false_iff_not]
    omega
  · have hcount := hpart.flatten.sublist.count_le '}'
    rw [List.flatten_append, List.count_append, hopen] at hcount
    rw [closesTwice_head h, decide_eq_true_eq]
    exact hcount

end LongForm

end GuidAtlas.Header
