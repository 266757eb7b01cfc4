import GuidAtlas.Proofs.Text.Blank

/-!
Texts that spell tokens, with any blanks in front of each. Collapsing a text does not change what it
spells, texts one after the other spell their tokens together, and what lists of tokens are split
into are the tokens between the separators.
-/

namespace GuidAtlas.Text

/-- The tokens follow one another, with blanks in front of each. -/
inductive Spells : List Text → Text → Prop
  | nil : Spells [] []
  | cons {blanks token t : Text} {tokens : List Text} (hblanks : ∀ c ∈ blanks, isBlank c = true)
      (h : Spells tokens t) : Spells (token :: tokens) (blanks ++ (token ++ t))

structure IsSolid (t : Text) : Prop where
  ne_nil : t ≠ []
  not_blank : ∀ c ∈ t, isBlank c = false

variable {s t token blanks : Text} {tokens others : List Text}

theorem IsSolid.not_mem (h : IsSolid t) {c : Char} (hc : isBlank c = true) : c ∉ t := by
  intro hmem
  rw [h.not_blank c hmem] at hc
  cases hc

theorem Spells.append (hs : Spells tokens s) (ht : Spells others t) :
    Spells (tokens ++ others) (s ++ t) := by
  induction hs with
  | nil => exact ht
  | cons hblanks _ ih =>
      rw [List.append_assoc, List.append_assoc]
      exact .cons hblanks ih

theorem Spells.cons_self (h : Spells tokens t) (token : Text) :
    Spells (token :: tokens) (token ++ t) := by
  simpa using @Spells.cons [] token t tokens (by simp) h

theorem spells_flatMap (hblanks : ∀ c ∈ blanks, isBlank c = true) (tokens : List Text) :
    Spells tokens (tokens.flatMap (blanks ++ ·)) := by
  induction tokens with
  | nil => exact .nil
  | cons token tokens ih =>
      rw [List.flatMap_cons, List.append_assoc]
      exact .cons hblanks ih

theorem Spells.concat (h : Spells tokens t) (hblanks : ∀ c ∈ blanks, isBlank c = true)
    (token : Text) : Spells (tokens ++ [token]) (t ++ (blanks ++ token)) := by
  have hlast : Spells [token] (blanks ++ (token ++ [])) := .cons hblanks .nil
  rw [List.append_nil] at hlast
  exact h.append hlast

theorem Spells.exists_append (h : Spells (tokens ++ others) t) :
    ∃ s rest, t = s ++ rest ∧ Spells tokens s ∧ Spells others rest := by
  induction tokens generalizing t with
  | nil => exact ⟨[], t, rfl, .nil, h⟩
  | cons token tokens ih =>
      cases h with
      | @cons blanks _ t _ hblanks h =>
          obtain ⟨s, rest, rfl, hs, hrest⟩ := ih h
          exact ⟨blanks ++ (token ++ s), rest, by simp, .cons hblanks hs, hrest⟩

theorem Spells.mem (h : Spells tokens t) {c : Char} (hc : c ∈ t) :
    isBlank c = true ∨ ∃ token ∈ tokens, c ∈ token := by
  induction h with
  | nil => cases hc
  | @cons blanks token t tokens hblanks _ ih =>
      rcases List.mem_append.1 hc with hc | hc
      · exact .inl (hblanks c hc)
      · rcases List.mem_append.1 hc with hc | hc
        · exact .inr ⟨token, List.mem_cons_self, hc⟩
        · refine (ih hc).imp_right fun ⟨other, hother, hc⟩ => ?_
          exact ⟨other, List.mem_cons_of_mem _ hother, hc⟩

theorem Spells.not_mem (h : Spells tokens t) {c : Char} (hc : isBlank c = false)
    (htokens : ∀ token ∈ tokens, c ∉ token) : c ∉ t := by
  intro hmem
  rcases h.mem hmem with hblank | ⟨token, htoken, hmem⟩
  · rw [hc] at hblank
    cases hblank
  · exact htokens token htoken hmem

/-- A text starts with a blank or with its first token. -/
theorem Spells.head?_cases (h : Spells tokens t) (hsolid : ∀ token ∈ tokens, IsSolid token)
    {c : Char} (hc : c ∈ t.head?) : isBlank c = true ∨ ∃ token ∈ tokens.head?, c ∈ token := by
  cases h with
  | nil => cases hc
  | @cons blanks token t tokens hblanks =>
      rw [List.head?_append] at hc
      rcases Option.or_eq_some_iff.1 hc with hc | ⟨-, hc⟩
      · exact .inl (hblanks c (List.mem_of_head? hc))
      · rw [List.head?_append_of_ne_nil _ (hsolid token List.mem_cons_self).ne_nil] at hc
        exact .inr ⟨token, rfl, List.mem_of_head? hc⟩

theorem Spells.filter_of_not_blank (h : Spells tokens t)
    (htokens : ∀ token ∈ tokens, ∀ c ∈ token, isBlank c = false) :
    t.filter (fun c => !isBlank c) = tokens.flatten := by
  induction h with
  | nil => rfl
  | @cons blanks token t tokens hblanks _ ih =>
      obtain ⟨htoken, htokens⟩ := List.forall_mem_cons.1 htokens
      have hnone : blanks.filter (fun c => !isBlank c) = [] :=
        List.filter_eq_nil_iff.2 fun c hc => by simp [hblanks c hc]
      have hall : token.filter (fun c => !isBlank c) = token :=
        List.filter_eq_self.2 fun c hc => by simp [htoken c hc]
      rw [List.filter_append, List.filter_append, hnone, hall, ih htokens, List.nil_append,
        List.flatten_cons]

theorem Spells.filter (h : Spells tokens t) (hsolid : ∀ token ∈ tokens, IsSolid token) :
    t.filter (fun c => !isBlank c) = tokens.flatten :=
  h.filter_of_not_blank fun token htoken => (hsolid token htoken).not_blank

theorem Spells.count_eq (h : Spells tokens t) (hsolid : ∀ token ∈ tokens, IsSolid token) {c : Char}
    (hc : isBlank c = false) : t.count c = tokens.flatten.count c := by
  rw [← h.filter hsolid, List.count_filter (by simp [hc])]

theorem Spells.mem_iff (h : Spells tokens t) (hsolid : ∀ token ∈ tokens, IsSolid token) {c : Char}
    (hc : isBlank c = false) : c ∈ t ↔ c ∈ tokens.flatten := by
  rw [← List.count_pos_iff, ← List.count_pos_iff, h.count_eq hsolid hc]

theorem Spells.getLast?_not_blank (h : Spells tokens t) (hsolid : ∀ token ∈ tokens, IsSolid token) :
    ∀ c ∈ t.getLast?, isBlank c = false := by
  induction h with
  | nil => simp
  | @cons blanks token t tokens _ h ih =>
      obtain ⟨htoken, hsolid⟩ := List.forall_mem_cons.1 hsolid
      intro c hc
      rw [List.getLast?_append_of_ne_nil _ (by simp [htoken.ne_nil]), List.getLast?_append] at hc
      cases hlast : t.getLast? with
      | some d =>
          rw [hlast] at hc
          cases hc
          exact ih hsolid c hlast
      | none =>
          rw [hlast, Option.none_or] at hc
          exact htoken.not_blank c (List.mem_of_getLast? hc)

theorem IsSolid.isTight (h : IsSolid t) : IsTight t :=
  foldl_tighten_of_not_blank h.not_blank h.ne_nil false

theorem wordsFrom_nil_append (hblanks : ∀ c ∈ blanks, isBlank c = true) (t : Text) :
    wordsFrom [] (blanks ++ t) = wordsFrom [] t := by
  induction blanks with
  | nil => rfl
  | cons c blanks ih =>
      obtain ⟨hc, hblanks⟩ := List.forall_mem_cons.1 hblanks
      simp [wordsFrom, hc, ih hblanks]

/-- Behind an open word, collapsing leaves a text that spells the same tokens. -/
theorem Spells.exists_closed (h : Spells tokens t) (hsolid : ∀ token ∈ tokens, IsSolid token) :
    ∃ closed, Spells tokens closed ∧ ∀ w : Text, w ≠ [] →
      wordsFrom w t ≠ [] ∧ join [' '] (wordsFrom w t) = w.reverse ++ closed := by
  induction h with
  | nil => exact ⟨[], .nil, fun w hw => by simp [wordsFrom, hw]⟩
  | @cons blanks token t tokens hblanks _ ih =>
      obtain ⟨htoken, hsolid⟩ := List.forall_mem_cons.1 hsolid
      obtain ⟨closed, hclosed, hwords⟩ := ih hsolid
      cases blanks with
      | nil =>
          refine ⟨token ++ closed, @Spells.cons [] token closed tokens (by simp) hclosed,
            fun w hw => ?_⟩
          have hopen : token.foldl tighten (some !w.isEmpty) = some true :=
            foldl_tighten_of_not_blank htoken.not_blank htoken.ne_nil _
          have hjoined := join_words_append hwords hopen
          exact hjoined
      | cons c blanks =>
          obtain ⟨hc, hblanks⟩ := List.forall_mem_cons.1 hblanks
          have hspace : ∀ c ∈ [' '], isBlank c = true := by simp; decide
          refine ⟨[' '] ++ (token ++ closed), .cons hspace hclosed, fun w hw => ?_⟩
          obtain ⟨hne, hjoin⟩ := join_words_append (w := []) hwords htoken.isTight
          have hcut : wordsFrom w (c :: blanks ++ (token ++ t)) =
              w.reverse :: wordsFrom [] (token ++ t) := by
            rw [List.cons_append, wordsFrom, if_pos hc, if_neg (by simpa using hw),
              wordsFrom_nil_append hblanks]
          rw [hcut, join_cons _ _ hne, hjoin]
          exact ⟨List.cons_ne_nil _ _, by simp⟩

/-- A tight text stays as it is, and what is behind it spells the same tokens. -/
theorem Spells.exists_collapse {first : Text} (h : Spells tokens t)
    (hsolid : ∀ token ∈ tokens, IsSolid token) (hfirst : IsTight first) :
    ∃ closed, Spells tokens closed ∧ collapse (first ++ t) = first ++ closed := by
  obtain ⟨closed, hclosed, hwords⟩ := h.exists_closed hsolid
  exact ⟨closed, hclosed, collapse_append hfirst hwords⟩

theorem trim_token {after : Text} (hblanks : ∀ c ∈ blanks, isBlank c = true)
    (hafter : ∀ c ∈ after, isBlank c = true) (htoken : IsSolid token) :
    trim (blanks ++ token ++ after) = token :=
  trimOf_append hblanks hafter (fun c hc => htoken.not_blank c (List.mem_of_head? hc))
    fun c hc => htoken.not_blank c (List.mem_of_getLast? hc)

theorem mem_of_mem_intersperse {sep : Text} {parts : List Text}
    (h : token ∈ parts.intersperse sep) : token = sep ∨ token ∈ parts := by
  induction parts with
  | nil => exact .inr h
  | cons first parts ih =>
      cases parts with
      | nil => exact .inr h
      | cons second parts =>
          rw [List.intersperse_cons_cons] at h
          rcases List.mem_cons.1 h with rfl | h
          · exact .inr List.mem_cons_self
          · rcases List.mem_cons.1 h with rfl | h
            · exact .inl rfl
            · exact (ih h).imp_right (List.mem_cons_of_mem first)

/-- Tokens with separators between them are split into the tokens. -/
theorem Spells.map_trim_splitAt {sep : Char} (hsep : isBlank sep = false) {first trail : Text}
    (htrail : ∀ c ∈ trail, isBlank c = true)
    (h : Spells ((first :: others).intersperse [sep]) t)
    (hparts : ∀ part ∈ first :: others, IsSolid part ∧ sep ∉ part) :
    (splitAt sep (t ++ trail)).map trim = first :: others := by
  have hnot {blanks : Text} (hblanks : ∀ c ∈ blanks, isBlank c = true) : sep ∉ blanks :=
    not_mem_of_blanks hblanks hsep
  induction others generalizing first t with
  | nil =>
      obtain ⟨hfirst, hlacks⟩ := hparts first List.mem_cons_self
      cases h with
      | @cons blanks _ t _ hblanks h =>
          cases h
          have htrim := trim_token hblanks htrail hfirst
          rw [List.append_nil, splitAt_of_not_mem (by simp [hnot hblanks, hlacks, hnot htrail]),
            List.map_singleton, htrim]
  | cons second others ih =>
      obtain ⟨⟨hfirst, hlacks⟩, hparts⟩ := List.forall_mem_cons.1 hparts
      rw [List.intersperse_cons_cons] at h
      cases h with
      | @cons blanks _ t _ hblanks h =>
          cases h with
          | @cons after _ t _ hafter h =>
              have htext : blanks ++ (first ++ (after ++ ([sep] ++ t))) ++ trail =
                  blanks ++ first ++ after ++ sep :: (t ++ trail) := by simp
              have hpiece : sep ∉ blanks ++ first ++ after := by
                simp [hnot hblanks, hlacks, hnot hafter]
              rw [htext, splitAt_append hpiece, List.map_cons, ih h hparts,
                trim_token hblanks hafter hfirst]

end GuidAtlas.Text
