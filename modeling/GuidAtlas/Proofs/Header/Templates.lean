import GuidAtlas.Header.Declaration
import GuidAtlas.Proofs.Header.Word

/-!
Names with template arguments. Brackets nest in such a name, but one flag tells whether a word is
inside them, so an inner closing bracket ends the arguments as far as commas and spaces are
concerned, until the next opening one.
-/

namespace GuidAtlas.Header

open Text

def isTemplateChar (c : Char) : Bool := isAlphanumeric c || ("_*, " : Text).elem c

/-- What stands between the brackets of template arguments. -/
inductive IsArguments : Text → Prop
  | nil : IsArguments []
  | char {c : Char} {t : Text} (hc : isTemplateChar c = true) (ht : IsArguments t) :
      IsArguments (c :: t)
  | scope {t : Text} (ht : IsArguments t) : IsArguments (':' :: ':' :: t)
  | group {inner t : Text} (hinner : IsArguments inner) (ht : IsArguments t) :
      IsArguments ('<' :: (inner ++ '>' :: t))

/-- A text with a name and its template arguments in it, as the text behind an offset of a line. -/
structure ShowsTemplate (before name contents after : Text) (t : Text) : Prop where
  text : t = before ++ (name ++ '<' :: (contents ++ '>' :: after))
  passed : ∀ c ∈ before, isWordChar c = false
  not_scope : ¬"::".toList <:+: before
  name_ne_nil : name ≠ []
  name_mem : ∀ c ∈ name, isAlphanumeric c = true ∨ c = '_'
  isArguments : IsArguments contents
  ends : after = [] ∨ ∃ rest, after = ' ' :: ':' :: rest

/-- No comma and no space stands between a closing bracket and the next opening one. -/
def Steady (t : Text) : Prop :=
  ∀ before c rest, t = before ++ c :: rest → c = ',' ∨ c = ' ' → ¬StandsLast '>' '<' before

/-- The part of template arguments that is taken: it goes up to the first comma or space between a
closing bracket and the next opening one. -/
structure IsKept (kept cut : Text) : Prop where
  steady : Steady kept
  stops : ∀ c ∈ cut.head?, (c = ',' ∨ c = ' ') ∧ StandsLast '>' '<' kept

/-- The name that a word with all its template arguments is. -/
def wholeName (name contents : Text) : Text :=
  collapse (replaceChar ',' ", " (replace "<." "<" (dotted (name ++ '<' :: (contents ++ ['>'])))))

variable {t kept cut name contents before after line : Text} {offset : Nat} {c : Char}

theorem IsArguments.append_chars {s : Text} (hs : s.all isTemplateChar = true)
    (ht : IsArguments t) : IsArguments (s ++ t) := by
  induction s with
  | nil => exact ht
  | cons c s ih =>
      obtain ⟨hc, hs⟩ := Bool.and_eq_true_iff.1 hs
      exact .char hc (ih hs)

theorem Steady.of_prefix (h : Steady t) (hkept : kept <+: t) : Steady kept := by
  obtain ⟨cut, rfl⟩ := hkept
  exact fun before c rest hpart => h before c (rest ++ cut) (by simp [hpart])

theorem steady_concat : Steady (t ++ [c]) ↔
    Steady t ∧ ((c = ',' ∨ c = ' ') → ¬StandsLast '>' '<' t) := by
  constructor
  · exact fun h => ⟨h.of_prefix (List.prefix_append t [c]), h t c [] rfl⟩
  · rintro ⟨ht, hc⟩ before d rest hpart
    rcases List.eq_nil_or_concat' rest with rfl | ⟨rest, e, rfl⟩
    · obtain ⟨rfl, hd⟩ := List.append_inj' hpart rfl
      obtain rfl : c = d := by simpa using hd
      exact hc
    · have hparts : t ++ [c] = (before ++ d :: rest) ++ [e] := by simpa using hpart
      obtain ⟨rfl, -⟩ := List.append_inj' hparts rfl
      exact ht before d rest rfl

theorem exists_isKept (t : Text) : ∃ kept cut, t = kept ++ cut ∧ IsKept kept cut := by
  induction t using List.reverseRecOn with
  | nil => exact ⟨[], [], rfl, fun before c rest hpart => by simp at hpart, by simp⟩
  | append_singleton t c ih =>
      obtain ⟨kept, cut, rfl, hkept⟩ := ih
      by_cases hcut : cut = []
      case pos =>
        subst hcut
        by_cases hc : (c = ',' ∨ c = ' ') ∧ StandsLast '>' '<' kept
        case pos => exact ⟨kept, [c], by simp, hkept.steady, by simpa using hc⟩
        case neg =>
          refine ⟨kept ++ [c], [], by simp, steady_concat.2 ⟨hkept.steady, ?_⟩, by simp⟩
          exact fun hmark hlast => hc ⟨hmark, hlast⟩
      case neg =>
        refine ⟨kept, cut ++ [c], by simp, hkept.steady, ?_⟩
        rw [List.head?_append_of_ne_nil _ hcut]
        exact hkept.stops

/-- Everything is taken exactly if nothing stops the reading. -/
theorem IsKept.eq_nil_iff (h : IsKept kept cut) : cut = [] ↔ Steady (kept ++ cut) := by
  constructor
  · rintro rfl
    rw [List.append_nil]
    exact h.steady
  · intro hsteady
    cases cut with
    | nil => rfl
    | cons c cut =>
        obtain ⟨hc, hlast⟩ := h.stops c rfl
        exact absurd hlast (hsteady kept c cut rfl hc)

theorem IsKept.head_ne (h : IsKept kept cut) : ∀ c ∈ cut.head?, c ≠ ':' := by
  intro c hc
  rcases (h.stops c hc).1 with rfl | rfl <;> decide

/-- The text behind the arguments stops the reading as well. -/
theorem IsKept.append_after (h : IsKept kept cut) (hparts : contents ++ ['>'] = kept ++ cut)
    (hafter : after = [] ∨ ∃ rest, after = ' ' :: ':' :: rest) : IsKept kept (cut ++ after) where
  steady := h.steady
  stops c hc := by
    cases cut with
    | cons mark cut => exact h.stops c hc
    | nil =>
        rw [List.append_nil] at hparts
        have hlast : StandsLast '>' '<' kept := hparts ▸ standsLast_concat.2 (.inl rfl)
        rcases hafter with rfl | ⟨rest, rfl⟩
        · cases hc
        · cases hc
          exact ⟨.inr rfl, hlast⟩

theorem IsArguments.dotted_mem (h : IsArguments t) :
    ∀ c ∈ dotted t, isWordChar c = true ∨ c = ',' ∨ c = ' ' := by
  have hopen : isWordChar '<' = true := by decide
  have hclose : isWordChar '>' = true := by decide
  have hdot : isWordChar '.' = true := by decide
  induction h with
  | nil => simp
  | @char c t hc ht ih =>
      have hcolon : c ≠ ':' := by
        rintro rfl
        exact absurd hc (by decide)
      have hfirst : isWordChar c = true ∨ c = ',' ∨ c = ' ' := by
        rw [isTemplateChar, Bool.or_eq_true] at hc
        rcases hc with hc | hc
        · simp [isWordChar, hc]
        · simp at hc
          rcases hc with rfl | rfl | rfl | rfl <;> simp [isWordChar]
      rw [dotted_cons_of_ne hcolon]
      exact List.forall_mem_cons.2 ⟨hfirst, ih⟩
  | scope ht ih =>
      rw [dotted_colons]
      exact List.forall_mem_cons.2 ⟨.inl hdot, ih⟩
  | @group inner t hinner ht ihinner iht =>
      rw [dotted_cons (by simp), dotted_append_cons (by decide)]
      simp only [List.forall_mem_cons, List.forall_mem_append]
      exact ⟨.inl hopen, ihinner, .inl hclose, iht⟩

/-- Behind the first opening bracket, the last bracket of the arguments decides. -/
theorem not_inBrackets_iff (name t : Text) :
    ¬InBrackets (name ++ '<' :: dotted t) ↔ StandsLast '>' '<' t := by
  rw [InBrackets, not_standsLast_iff (by decide) (by simp), standsLast_append_cons (by decide),
    standsLast_dotted_iff (by decide) (by decide)]

/-- What is taken of the arguments is read as one word. -/
theorem IsKept.isRun (h : IsKept kept cut) (hname : ∀ c ∈ name, isWordChar c = true)
    (hmem : ∀ c ∈ dotted kept, isWordChar c = true ∨ c = ',' ∨ c = ' ') :
    IsRun (name ++ '<' :: dotted kept) (dotted cut) := by
  refine ⟨fun before c rest hpart => ?_, fun c hc => ?_⟩
  · rcases List.append_eq_append_iff.1 hpart with ⟨passed, rfl, hrest⟩ | ⟨rest, rfl, hrest⟩
    · cases passed with
      | nil =>
          obtain ⟨rfl, -⟩ := List.cons.inj hrest
          exact .inl (by decide)
      | cons d passed =>
          obtain ⟨rfl, hkept⟩ := List.cons.inj hrest
          have hc := hmem c (by simp [hkept])
          rcases hc with hc | hmark
          · exact .inl hc
          · refine .inr (Classical.byContradiction fun hnone => ?_)
            have hdot : c ≠ '.' := by
              rintro rfl
              simp at hmark
            obtain ⟨a, b, rfl, rfl, -⟩ := exists_append_cons_of_dotted hdot hkept
            exact h.steady a c b rfl hmark ((not_inBrackets_iff name a).1 hnone)
    · cases rest with
      | nil =>
          obtain ⟨rfl, -⟩ := List.cons.inj hrest
          exact .inl (by decide)
      | cons d rest =>
          obtain ⟨rfl, -⟩ := List.cons.inj hrest
          exact .inl (hname c (by simp))
  · rw [head?_dotted h.head_ne] at hc
    obtain ⟨hmark, hlast⟩ := h.stops c hc
    exact ⟨by rcases hmark with rfl | rfl <;> decide, (not_inBrackets_iff name kept).2 hlast⟩

theorem count_tidy (hblank : isBlank c = false) (hc : c ∉ "<.*,".toList) (word : Text) :
    (tidy word).count c = word.count c := by
  have hne : c ≠ '<' ∧ c ≠ '.' ∧ c ≠ '*' ∧ c ≠ ',' := by simpa using hc
  have hspace : c ∉ ", ".toList := by
    have hd : c ≠ ' ' := by
      rintro rfl
      exact absurd hblank (by decide)
    simp [hne, hd]
  rw [tidy, count_collapse hblank, count_replaceChar hne.2.2.2 hspace,
    count_trimEndOf (by simp [hne]), count_replace (by decide) (by simp [hne]) (by simp [hne])]

theorem tidy_dotted_whole (name contents : Text) :
    tidy (dotted (name ++ '<' :: (contents ++ ['>']))) = wholeName name contents := by
  have hend : (replace "<." "<" (dotted (name ++ '<' :: (contents ++ ['>'])))).getLast? =
      some '>' := by
    have htext : name ++ '<' :: (contents ++ ['>']) = (name ++ '<' :: contents) ++ '>' :: [] := by
      simp
    rw [htext, dotted_append_cons (by decide), replace_append_cons (by decide) (by decide),
      List.getLast?_append]
    rfl
  rw [tidy, trimEndOf_eq_self, wholeName]
  intro c hc
  rw [hend] at hc
  cases hc
  decide

/-- A part of the arguments makes a different name: a closing bracket is missing. -/
theorem tidy_eq_wholeName_iff (hparts : contents ++ ['>'] = kept ++ cut) :
    tidy (dotted (name ++ '<' :: kept)) = wholeName name contents ↔ cut = [] := by
  constructor
  · intro hwhole
    rw [← tidy_dotted_whole, hparts] at hwhole
    have hcount := congrArg (List.count '>') hwhole
    simp only [count_tidy (c := '>') (by decide) (by decide),
      count_dotted (c := '>') (by decide) (by decide), List.count_append, List.count_cons] at hcount
    by_contra hcut
    have hlast : '>' ∈ cut := by
      refine List.mem_of_getLast? ?_
      rw [← List.getLast?_append_of_ne_nil kept hcut, ← hparts]
      simp
    have hpos := List.count_pos_iff.2 hlast
    omega
  · rintro rfl
    rw [List.append_nil] at hparts
    rw [← hparts, tidy_dotted_whole]

section

variable {t : Text} (h : ShowsTemplate before name contents after t)

include h

theorem ShowsTemplate.name_isWordChar : ∀ c ∈ name, isWordChar c = true := by
  intro c hc
  rcases h.name_mem c hc with hletter | rfl
  · simp [isWordChar, hletter]
  · decide

theorem ShowsTemplate.not_colon : ':' ∉ name :=
  fun hc => absurd (h.name_mem _ hc) (by decide)

theorem ShowsTemplate.dotted_mem (hparts : contents ++ ['>'] = kept ++ cut)
    (hkept : IsKept kept cut) :
    ∀ c ∈ dotted kept, isWordChar c = true ∨ c = ',' ∨ c = ' ' := by
  have hall : ∀ c ∈ dotted (contents ++ ['>']), isWordChar c = true ∨ c = ',' ∨ c = ' ' := by
    rw [dotted_append_cons (by decide)]
    exact List.forall_mem_append.2
      ⟨h.isArguments.dotted_mem, List.forall_mem_singleton.2 (.inl (by decide))⟩
  rw [hparts, dotted_append hkept.head_ne] at hall
  exact (List.forall_mem_append.1 hall).1

theorem ShowsTemplate.wordIn?_eq (hparts : contents ++ ['>'] = kept ++ cut)
    (hkept : IsKept kept cut) :
    wordIn? (dotted t) = some (before, dotted (name ++ '<' :: kept)) := by
  have hbehind := hkept.append_after hparts h.ends
  have hword : dotted (name ++ '<' :: kept) = name ++ '<' :: dotted kept := by
    have hplain : ¬"::".toList <:+: name := fun hpart => h.not_colon (hpart.subset (by simp))
    rw [dotted_append_cons (by decide), dotted_eq_self hplain]
  have hrun := hbehind.isRun h.name_isWordChar (h.dotted_mem hparts hkept)
  have htext : t = before ++ ((name ++ '<' :: kept) ++ (cut ++ after)) := by
    have hrest : contents ++ '>' :: after = kept ++ (cut ++ after) := by
      rw [← List.append_assoc, ← hparts]
      simp
    rw [h.text, hrest]
    simp
  have hhead : ∀ c ∈ ((name ++ '<' :: kept) ++ (cut ++ after)).head?, c ≠ ':' := by
    obtain ⟨first, rest, rfl⟩ := List.exists_cons_of_ne_nil h.name_ne_nil
    rintro c hc rfl
    exact h.not_colon (List.mem_cons.2 (.inl (by simpa using hc.symm)))
  rw [wordIn?_eq_some_iff, htext, dotted_append hhead, dotted_append hbehind.head_ne,
    dotted_eq_self h.not_scope, hword]
  exact ⟨_, rfl, h.passed, by simp, hrun⟩

end

/-- A name with template arguments is read as far as they are kept, and whole exactly if no comma
and no space stands between a closing bracket of the arguments and the next opening one. -/
theorem nextWord_template (h : ShowsTemplate before name contents after (dropBytes offset line))
    (below : List Text) :
    (∃ kept cut, contents ++ ['>'] = kept ++ cut ∧ IsKept kept cut ∧
      (nextWord ⟨line, offset, below⟩).value.map (tidy ·.text) =
        some (tidy (dotted (name ++ '<' :: kept)))) ∧
    ((nextWord ⟨line, offset, below⟩).value.map (tidy ·.text) = some (wholeName name contents) ↔
      Steady contents) := by
  obtain ⟨kept, cut, hparts, hkept⟩ := exists_isKept (contents ++ ['>'])
  have hread : (nextWord ⟨line, offset, below⟩).value.map (tidy ·.text) =
      some (tidy (dotted (name ++ '<' :: kept))) := by
    simp [nextWord, wordOnLine?, h.wordIn?_eq hparts hkept]
  have hsteady : Steady contents ↔ cut = [] := by
    rw [hkept.eq_nil_iff, ← hparts, steady_concat]
    simp
  refine ⟨⟨kept, cut, hparts, hkept, hread⟩, ?_⟩
  rw [hread, Option.some_inj, hsteady, tidy_eq_wholeName_iff hparts]

def nestedLast : Text :=
  "HSTRING, IVector".toList ++ '<' :: (("Ns".toList ++ ':' :: ':' :: "Uri*".toList) ++ '>' :: [])

def nestedLastLine : Text := " IMap<HSTRING, IVector<Ns::Uri*>> : IFoo"

theorem nextWord_nestedLast :
    ShowsTemplate " " "IMap" nestedLast " : IFoo" (dropBytes 0 nestedLastLine) ∧
    Steady nestedLast ∧
    (nextWord ⟨nestedLastLine, 0, []⟩).value.map (tidy ·.text) =
      some "IMap<HSTRING, IVector<Ns.Uri*>>".toList := by
  have hinner : IsArguments ("Ns".toList ++ ':' :: ':' :: "Uri*".toList) :=
    .append_chars (by decide) (.scope (.append_chars (s := "Uri*".toList) (by decide) .nil))
  have hshows : ShowsTemplate " " "IMap" nestedLast " : IFoo" (dropBytes 0 nestedLastLine) :=
    ⟨by decide, forall_mem_of_all (by decide), by decide, by decide,
      forall_mem_of_all (by decide), .append_chars (by decide) (.group hinner .nil),
      .inr ⟨" IFoo", rfl⟩⟩
  have hread : (nextWord ⟨nestedLastLine, 0, []⟩).value.map (tidy ·.text) =
      some (wholeName "IMap" nestedLast) := by
    decide
  exact ⟨hshows, (nextWord_template hshows []).2.1 hread, by decide⟩

def nestedFirst : Text := "IVector".toList ++ '<' :: ("HSTRING".toList ++ '>' :: ", IFoo".toList)

def nestedFirstLine : Text :=
  "MIDL_INTERFACE(\"aec22fb8-76f3-4639-9be0-28eb43a67a2e\") IMap<IVector<HSTRING>, IFoo> : IBar"

/-- A comma behind the first argument ends the name. -/
theorem not_whole_nestedFirst :
    ShowsTemplate "\") " "IMap" nestedFirst " : IBar" (dropBytes 52 nestedFirstLine) ∧
    wholeName "IMap" nestedFirst = "IMap<IVector<HSTRING>, IFoo>".toList ∧
    (nextWord ⟨nestedFirstLine, 52, []⟩).value.map (tidy ·.text) =
      some "IMap<IVector<HSTRING>".toList ∧
    (read false nestedFirstLine).declarations.map Declaration.name =
      ["IMap<IVector<HSTRING>".toList] := by
  have hinner : IsArguments "HSTRING".toList :=
    .append_chars (s := "HSTRING".toList) (by decide) .nil
  have hrest : IsArguments ", IFoo".toList :=
    .append_chars (s := ", IFoo".toList) (by decide) .nil
  have hshows : ShowsTemplate "\") " "IMap" nestedFirst " : IBar" (dropBytes 52 nestedFirstLine) :=
    ⟨by decide, forall_mem_of_all (by decide), by decide, by decide,
      forall_mem_of_all (by decide), .append_chars (by decide) (.group hinner hrest),
      .inr ⟨" IBar", rfl⟩⟩
  exact ⟨hshows, by decide, by decide, by decide⟩

end GuidAtlas.Header
