import GuidAtlas.Proofs.Header.Form

/-!
The parts of printed lines that rules read: argument lists, initializers and assigned names.
-/

namespace GuidAtlas.Header

open Text Pieces

variable {values : Hole → Text} {head blanks tail : Text} {parts : List Text}
  {args : List Pieces}

theorem joined_cons_cons (sep : Text) (first second : Pieces) (parts : List Pieces) :
    joined sep (first :: second :: parts) = first ++ .lit sep :: joined sep (second :: parts) := by
  simp [joined, List.intercalate_cons_cons]

theorem mem_joined {sep : Text} {parts : List Pieces} {part : Pieces} {piece : Piece Hole}
    (hpart : part ∈ parts) (hpiece : piece ∈ part) : piece ∈ joined sep parts := by
  induction parts with
  | nil => cases hpart
  | cons first parts ih =>
      cases parts with
      | nil =>
          cases List.mem_singleton.1 hpart
          simpa [joined] using hpiece
      | cons second parts =>
          rw [joined_cons_cons, List.mem_append]
          rcases List.mem_cons.1 hpart with rfl | hpart
          · exact .inl hpiece
          · exact .inr (List.mem_cons_of_mem _ (ih hpart))

theorem fillAll_joined (values : Hole → Text) (sep : Text) (parts : List Pieces) :
    fillAll values (joined sep parts) = join sep (parts.map (fillAll values)) := by
  induction parts with
  | nil => rfl
  | cons first parts ih =>
      cases parts with
      | nil => simp [joined]
      | cons second parts =>
          rw [List.map_cons] at ih
          rw [joined_cons_cons, fillAll_append, fillAll_cons, ih, List.map_cons, List.map_cons,
            join_cons_cons, Piece.fill, List.append_assoc]

theorem fillAll_call (values : Hole → Text) (head sep : Text) (args : List Pieces) (tail : Text) :
    fillAll values (call head sep args tail) =
      head ++ '(' :: (join sep (args.map (fillAll values)) ++ ')' :: tail) := by
  simp [call, Piece.fill, fillAll_joined]

theorem map_fillAll_numbers {numbers : List Text} {first count : Nat}
    (hvalues : ∀ index, values (.number index) = numbers.getD index [])
    (hlength : first + count ≤ numbers.length) :
    (Pieces.numbers first count).map (fillAll values) = (numbers.drop first).take count := by
  refine List.ext_getElem (by simp [Pieces.numbers]; omega) fun i hi hi' => ?_
  have hlt : first + i < numbers.length := by
    simp only [Pieces.numbers, List.length_map, List.length_range'] at hi
    omega
  simp [Pieces.numbers, Piece.fill, hvalues, hlt]

def isArgumentChar (c : Char) : Bool := !isBlank c && !([',', ')'].elem c)

theorem trim_argument (hblanks : ∀ c ∈ blanks, isBlank c = true) {part : Text}
    (hpart : ∀ c ∈ part, isArgumentChar c = true) : trim (blanks ++ part) = part := by
  have hkept {c : Char} (hc : c ∈ part) : isBlank c = false := by
    have := hpart c hc
    rw [isArgumentChar, Bool.and_eq_true] at this
    simpa using this.1
  rw [trim, trimOf_append_left hblanks]
  exact trimOf_eq_self (fun c hc => hkept (List.mem_of_head? hc))
    fun c hc => hkept (List.mem_of_getLast? hc)

theorem argumentsOf?_append {inner : Text} (hhead : '(' ∉ head) (hinner : ')' ∉ inner)
    (tail : Text) : argumentsOf? (head ++ '(' :: (inner ++ ')' :: tail)) =
      some ((splitAt ',' inner).map trim) := by
  have hopened : cut? ['('] (head ++ '(' :: (inner ++ ')' :: tail)) =
      some (head, inner ++ ')' :: tail) := by
    simpa using @cut?_append '(' [] head hhead (inner ++ ')' :: tail)
  have hclosed : cut? [')'] (inner ++ ')' :: tail) = some (inner, tail) := by
    simpa using @cut?_append ')' [] inner hinner tail
  change (cut? ['('] _).bind _ = _
  rw [hopened, Option.bind_some]
  change (cut? [')'] _).bind _ = _
  rw [hclosed, Option.bind_some]
  rfl

theorem argumentsOf?_join (hhead : '(' ∉ head) (hblanks : ∀ c ∈ blanks, isBlank c = true)
    (hne : parts ≠ []) (hparts : ∀ part ∈ parts, ∀ c ∈ part, isArgumentChar c = true) :
    argumentsOf? (head ++ '(' :: (join (',' :: blanks) parts ++ ')' :: tail)) = some parts := by
  obtain ⟨first, rest, rfl⟩ := List.exists_cons_of_ne_nil hne
  have hchar {d : Char} (hd : isArgumentChar d = false) {part : Text}
      (hpart : part ∈ first :: rest) : d ∉ part := by
    intro hmem
    rw [hparts part hpart d hmem] at hd
    cases hd
  have hblank {d : Char} (hd : isBlank d = false) : d ∉ blanks := not_mem_of_blanks hblanks hd
  have hclose : ')' ∉ join (',' :: blanks) (first :: rest) := by
    refine not_mem_join ?_ fun part hpart => hchar (by decide) hpart
    simpa using hblank (d := ')') (by decide)
  have hsplit : splitAt ',' (join (',' :: blanks) (first :: rest)) =
      first :: rest.map (blanks ++ ·) :=
    splitAt_join (hblank (by decide)) fun part hpart => hchar (by decide) hpart
  have htrims : (first :: rest.map (blanks ++ ·)).map trim = first :: rest := by
    have hfirst := @trim_argument [] (by simp) first (hparts first List.mem_cons_self)
    have hrest : (rest.map (blanks ++ ·)).map trim = rest.map id := by
      rw [List.map_map]
      exact List.map_congr_left fun part hpart =>
        trim_argument hblanks (hparts part (List.mem_cons_of_mem _ hpart))
    rw [List.nil_append] at hfirst
    rw [List.map_cons, hfirst, hrest, List.map_id]
  rw [argumentsOf?_append hhead hclose, hsplit, htrims]

/-- The printed arguments of a macro are read on its line. -/
theorem arguments_call {sep : Text} (h : Fills values (call head sep args tail))
    (hhead : '(' ∉ head) (hsep : sep = ',' :: blanks) (hblanks : ∀ c ∈ blanks, isBlank c = true)
    (hne : args ≠ []) (hargs : args.all (litsAll isArgumentChar) = true) (below : List Text) :
    arguments args.length (fillAll values (call head sep args tail)) below =
      ⟨some (args.map (fillAll values)), 0⟩ := by
  have hparts : ∀ part ∈ args.map (fillAll values), ∀ c ∈ part, isArgumentChar c = true := by
    intro part hpart c hc
    obtain ⟨arg, harg, rfl⟩ := List.mem_map.1 hpart
    have hsubset : arg ⊆ call head sep args tail := by
      intro piece hpiece
      simp [call, mem_joined harg hpiece]
    exact of_mem_fillAll (h.of_subset hsubset) (List.all_eq_true.1 hargs arg harg) (by decide) hc
  have hread := @argumentsOf?_join head blanks tail (args.map (fillAll values)) hhead hblanks
    (by simpa using hne) hparts
  have hparens : hasParentheses (fillAll values (call head sep args tail)) = true := by
    simp [fillAll_call, hasParentheses]
  rw [arguments, gather, if_pos hparens, fillAll_call, hsep, Option.bind_some, hread]
  simp

theorem assigned?_append {name rest : Text} (hname : IsIdentifier name) (hrest : '=' ∉ rest) :
    assigned? (name ++ ' ' :: '=' :: rest) = some name := by
  have hequals : '=' ∉ name ++ [' '] := by
    simpa using hname.not_mem (d := '=') (by decide)
  have htrim : trim (name ++ [' ']) = name := by
    have hspace : ∀ c ∈ [' '], isBlank c = true := by
      intro c hc
      rw [List.mem_singleton.1 hc]
      decide
    rw [trim, trimOf_append_right hspace]
    exact trimOf_eq_self (fun c hc => hname.not_blank (List.mem_of_head? hc))
      fun c hc => hname.not_blank (List.mem_of_getLast? hc)
  have htext : name ++ ' ' :: '=' :: rest = name ++ [' '] ++ '=' :: rest := by simp
  rw [assigned?, htext, splitAt_append hequals, splitAt_of_not_mem hrest]
  exact congrArg some htrim

variable {numbers : List Text} {before guid : Text}

theorem fillAll_bracedNumbers (hvalues : ∀ index, values (.number index) = numbers.getD index [])
    (hlength : numbers.length = 11) :
    ∃ l w₁ w₂ first rest, numbers = l :: w₁ :: w₂ :: first :: rest ∧
      fillAll values bracedNumbers = Guid.initializerText l w₁ w₂ (first :: rest) := by
  have hfirst : (Pieces.numbers 0 3).map (fillAll values) = (numbers.drop 0).take 3 :=
    map_fillAll_numbers hvalues (by omega)
  have hrest : (Pieces.numbers 3 8).map (fillAll values) = (numbers.drop 3).take 8 :=
    map_fillAll_numbers hvalues (by omega)
  obtain ⟨l, w₁, w₂, first, rest, rfl⟩ := Guid.exists_members hlength
  have htake : rest.take 7 = rest := List.take_of_length_le (by simp at hlength; omega)
  refine ⟨l, w₁, w₂, first, rest, rfl, ?_⟩
  simp [bracedNumbers, fillAll_joined, hfirst, hrest, htake, Piece.fill, join_cons_cons,
    Guid.initializerText]

theorem closesTwice_initializerText (before l w₁ w₂ : Text) (bytes : List Text) :
    closesTwice (before ++ Guid.initializerText l w₁ w₂ bytes) = true := by
  have hclosing : (" \x7d \x7d;".toList).count '}' = 2 := by decide
  simp only [closesTwice, Guid.initializerText, List.count_append, hclosing, decide_eq_true_eq]
  omega

/-- Printed numbers in braces are read as the GUID they are the fields of. -/
theorem ofInitializer?_bracedNumbers
    (hvalues : ∀ index, values (.number index) = numbers.getD index [])
    (hguid : Guid.isCanonical guid = true)
    (hnumbers : List.Forall₂ Guid.Numeral numbers (Guid.fieldsOf guid))
    (hbefore : '{' ∉ before ∧ '}' ∉ before) :
    Guid.ofInitializer? (before ++ fillAll values bracedNumbers) = some (upper guid) := by
  obtain ⟨l, w₁, w₂, first, rest, hcons, hfill⟩ := fillAll_bracedNumbers hvalues
    (hnumbers.length_eq.trans (Guid.length_fieldsOf guid))
  rw [hcons] at hnumbers
  have hmember : ∀ part ∈ l :: w₁ :: w₂ :: first :: rest, ∀ c ∈ part,
      Guid.isMemberChar c = true := by
    intro part hpart c hc
    obtain ⟨n, hn⟩ := Guid.exists_numeral_of_forall₂ hnumbers part hpart
    exact hn.induction (p := Guid.isMemberChar) (by decide) hc
  rw [hfill, Guid.ofInitializer?_initializerText hbefore (List.cons_ne_nil first rest) hmember,
    Guid.ofNumbers?_numerals hguid hnumbers]

theorem initializer_bracedNumbers
    (hvalues : ∀ index, values (.number index) = numbers.getD index [])
    (hguid : Guid.isCanonical guid = true)
    (hnumbers : List.Forall₂ Guid.Numeral numbers (Guid.fieldsOf guid))
    (hbefore : '{' ∉ before ∧ '}' ∉ before) (below : List Text) :
    initializer (before ++ fillAll values bracedNumbers) below = ⟨some (upper guid), 0⟩ := by
  have hcloses : closesTwice (before ++ fillAll values bracedNumbers) = true := by
    obtain ⟨l, w₁, w₂, first, rest, -, hfill⟩ := fillAll_bracedNumbers hvalues
      (hnumbers.length_eq.trans (Guid.length_fieldsOf guid))
    rw [hfill]
    exact closesTwice_initializerText before l w₁ w₂ (first :: rest)
  rw [initializer, gather, if_pos hcloses, Option.bind_some,
    ofInitializer?_bracedNumbers hvalues hguid hnumbers hbefore]

end GuidAtlas.Header
