import GuidAtlas.Header.Below
import GuidAtlas.Proofs.Header.Tokens

/-!
Declarations that are written over several lines. Between two of their tokens there can be blanks,
or the end of a line and lines that are read over; the prepared lines spell the tokens in order.
-/

namespace GuidAtlas.Header

open Text

/-- A line that is read over: a blank one, a comment or the definition of a macro. -/
inductive Filler where
  | blank (blanks : Text)
  | comment (indent text : Text)
  | definition (indent name trail : Text)

namespace Filler

def text : Filler → Text
  | .blank blanks => blanks
  | .comment indent text => indent ++ '/' :: '/' :: text
  | .definition indent name trail => indent ++ ("#define ".toList ++ name) ++ trail

/-- A comment does not end in a backslash, with or without blanks behind it, and the name of a macro
does not consist of markers that are deleted. -/
def Fits : Filler → Prop
  | .blank blanks => InlineBlanks blanks
  | .comment indent text => InlineBlanks indent ∧ '\n' ∉ text ∧
      (trimEnd text).getLast? ≠ some '\\'
  | .definition indent name trail => InlineBlanks indent ∧ IsIdentifier name ∧
      replace "DECLSPEC_NOVTABLE" [] name ≠ [] ∧ InlineBlanks trail

end Filler

inductive Gap where
  | inline (blanks : Text)
  /-- The end of a line, lines that are read over, and the indent of the next one. -/
  | broken (trail : Text) (fillers : List Filler) (indent : Text)

namespace Gap

def text : Gap → Text
  | .inline blanks => blanks
  | .broken trail fillers indent => trail ++ '\n' :: (unlines (fillers.map Filler.text) ++ indent)

def Fits : Gap → Prop
  | .inline blanks => InlineBlanks blanks
  | .broken trail fillers indent => InlineBlanks trail ∧ fillers.length ≤ 6 ∧
      (∀ filler ∈ fillers, filler.Fits) ∧ InlineBlanks indent

end Gap

/-- The lines of a text that starts with `row` and goes on with gaps and tokens. -/
def rowsFrom (row : Text) : List (Gap × Text) → List Text
  | [] => [row]
  | (.inline blanks, token) :: pieces => rowsFrom (row ++ (blanks ++ token)) pieces
  | (.broken trail fillers indent, token) :: pieces =>
    (row ++ trail) :: (fillers.map Filler.text ++ rowsFrom (indent ++ token) pieces)

variable {row s t first indent trail : Text} {tokens : List Text} {pieces : List (Gap × Text)}
  {allowBraces : Bool}

theorem rowsFrom_ne_nil (row : Text) (pieces : List (Gap × Text)) : rowsFrom row pieces ≠ [] := by
  fun_induction rowsFrom row pieces with
  | case1 row => exact List.cons_ne_nil row []
  | case2 row blanks token pieces ih => exact ih
  | case3 row trail fillers indent token pieces ih => exact List.cons_ne_nil _ _

theorem join_rowsFrom (row : Text) (pieces : List (Gap × Text)) :
    join ['\n'] (rowsFrom row pieces) =
      row ++ pieces.flatMap fun (gap, token) => gap.text ++ token := by
  fun_induction rowsFrom row pieces with
  | case1 row => simp
  | case2 row blanks token pieces ih => simp [ih, Gap.text]
  | case3 row trail fillers indent token pieces ih =>
      have hne := rowsFrom_ne_nil (indent ++ token) pieces
      rw [join_cons _ _ (List.append_ne_nil_of_right_ne_nil _ hne), join_append _ _ hne, ih]
      simp [Gap.text, unlines]

theorem withoutMarkers_define {name : Text} (hname : IsIdentifier name) :
    withoutMarkers ("#define ".toList ++ name) =
      "#define ".toList ++ replace "DECLSPEC_NOVTABLE" [] name := by
  have hparen : ¬"__declspec(novtable)".toList <:+: "#define ".toList ++ name := by
    intro hpart
    have hmem : '(' ∈ "#define ".toList ++ name := hpart.subset (by decide)
    rcases List.mem_append.1 hmem with hmem | hmem
    · exact absurd hmem (by decide)
    · exact hname.not_mem (by decide) hmem
  have hbefore : 'D' ∉ "#define ".toList := by decide
  rw [withoutMarkers, replace_eq_self hparen]
  exact replace_append_left hbefore [] name

/-- A line that is read over is prepared to one that holds no part of a declaration. -/
theorem Filler.Fits.exists_prepares {filler : Filler} (h : filler.Fits) :
    ∃ prepared, Prepares filler.text prepared ∧ ∀ allow, isValid prepared allow = false := by
  cases filler with
  | blank blanks => exact ⟨[], prepares_blank fun c hc => (h c hc).1, fun _ => rfl⟩
  | comment indent text =>
      exact ⟨[], prepares_comment (fun c hc => (h.1 c hc).1) h.2.2, fun _ => rfl⟩
  | definition indent name trail =>
      obtain ⟨hindent, hname, hleft, htrail⟩ := h
      let left := replace "DECLSPEC_NOVTABLE" [] name
      have hchar {c : Char} (hc : c ∈ left) : isBlank c = false := by
        rcases mem_replaceFrom hc with hc | hc
        · cases hc
        · simpa using hname.induction (p := (!isBlank ·)) (by decide) hc
      have htight {word : Text} (hne : word ≠ []) (hword : ∀ c ∈ word, isBlank c = false) :
          IsTight ("#define ".toList ++ word) := by
        have hstart : "#define ".toList.foldl tighten (some false) = some false := by decide
        rw [IsTight, List.foldl_append, hstart]
        exact foldl_tighten_of_not_blank hword hne false
      have hline : IsTight ("#define ".toList ++ name) := htight hname.ne_nil fun c hc => by
        simpa using hname.induction (p := (!isBlank ·)) (by decide) hc
      have htrim : trim (indent ++ ("#define ".toList ++ name) ++ trail) =
          "#define ".toList ++ name :=
        trimOf_append (fun c hc => (hindent c hc).1) (fun c hc => (htrail c hc).1)
          hline.head?_not_blank hline.getLast?_not_blank
      have hnot {d : Char} (hd : identifierChars.all (· ≠ d) = true)
          (hstart : d ∉ "#define ".toList) : d ∉ "#define ".toList ++ name := by
        simpa only [List.mem_append, not_or] using ⟨hstart, hname.not_mem hd⟩
      refine ⟨"#define ".toList ++ left, ⟨?_, "#define ".toList ++ name, ?_, ?_⟩, fun _ => rfl⟩
      · rw [Filler.text, htrim]
        exact beforeBackslash?_eq_none fun hlast =>
          hnot (d := '\\') (by decide) (by decide) (List.mem_of_getLast? hlast)
      · rw [Filler.text, htrim, uncomment_eq_self (hnot (by decide) (by decide))]
      · rw [withoutMarkers_define hname, collapse_eq_self (htight hleft fun c hc => hchar hc)]

theorem Filler.Fits.not_lf {filler : Filler} (h : filler.Fits) : '\n' ∉ filler.text := by
  cases filler with
  | blank blanks => exact InlineBlanks.not_lf h
  | comment indent text => simp [Filler.text, h.1.not_lf, h.2.1]
  | definition indent name trail =>
      obtain ⟨hindent, hname, -, htrail⟩ := h
      have hname : '\n' ∉ name := hname.not_mem (by decide)
      simp [Filler.text, hindent.not_lf, hname, htrail.not_lf]

theorem not_lf_of_mem_rowsFrom (hrow : '\n' ∉ row) (hgaps : ∀ piece ∈ pieces, piece.1.Fits)
    (htokens : ∀ piece ∈ pieces, '\n' ∉ piece.2) :
    ∀ source ∈ rowsFrom row pieces, '\n' ∉ source := by
  fun_induction rowsFrom row pieces with
  | case1 row => simpa using hrow
  | case2 row blanks token pieces ih =>
      obtain ⟨hgap, hgaps⟩ := List.forall_mem_cons.1 hgaps
      obtain ⟨htoken, htokens⟩ := List.forall_mem_cons.1 htokens
      have hblanks : '\n' ∉ blanks := InlineBlanks.not_lf hgap
      have hmore : '\n' ∉ row ++ (blanks ++ token) := by simpa [hrow, hblanks] using htoken
      exact ih hmore hgaps htokens
  | case3 row trail fillers indent token pieces ih =>
      obtain ⟨⟨htrail, -, hfillers, hindent⟩, hgaps⟩ := List.forall_mem_cons.1 hgaps
      obtain ⟨htoken, htokens⟩ := List.forall_mem_cons.1 htokens
      have hnext : '\n' ∉ indent ++ token := by simpa [hindent.not_lf] using htoken
      intro source hsource
      rcases List.mem_cons.1 hsource with rfl | hsource
      · simp [hrow, htrail.not_lf]
      · rcases List.mem_append.1 hsource with hsource | hsource
        · obtain ⟨filler, hfiller, rfl⟩ := List.mem_map.1 hsource
          exact (hfillers filler hfiller).not_lf
        · exact ih hnext hgaps htokens source hsource

theorem getLast?_rowsFrom_ne_nil (hrow : row ≠ []) (htokens : ∀ piece ∈ pieces, piece.2 ≠ []) :
    ∀ source ∈ (rowsFrom row pieces).getLast?, source ≠ [] := by
  fun_induction rowsFrom row pieces with
  | case1 row => simpa using hrow
  | case2 row blanks token pieces ih =>
      exact ih (by simp [hrow]) (List.forall_mem_cons.1 htokens).2
  | case3 row trail fillers indent token pieces ih =>
      obtain ⟨htoken, htokens⟩ := List.forall_mem_cons.1 htokens
      have hne := rowsFrom_ne_nil (indent ++ token) pieces
      rw [← List.cons_append, List.getLast?_append_of_ne_nil _ hne]
      exact ih (List.append_ne_nil_of_right_ne_nil _ htoken) htokens

/-- Valid lines, each behind at most as many invalid ones as a search passes over, spell the tokens
one after the other. -/
inductive Lined (allowBraces : Bool) : List Text → List Text → Prop
  | nil : Lined allowBraces [] []
  | cons {fillers : List Text} {token closed : Text} {now later below : List Text}
      (hfillers : ∀ filler ∈ fillers, ∀ allow, isValid filler allow = false)
      (hlength : fillers.length < searchWindow) (hspells : Spells now closed)
      (hvalid : isValid (token ++ closed) allowBraces = true) (h : Lined allowBraces later below) :
      Lined allowBraces (token :: now ++ later) (fillers ++ (token ++ closed) :: below)

theorem exists_prepares_fillers {fillers : List Filler} (h : ∀ filler ∈ fillers, filler.Fits) :
    ∃ prepared, List.Forall₂ Prepares (fillers.map Filler.text) prepared ∧
      ∀ line ∈ prepared, ∀ allow, isValid line allow = false := by
  induction fillers with
  | nil => exact ⟨[], .nil, by simp⟩
  | cons filler fillers ih =>
      obtain ⟨hfiller, hfillers⟩ := List.forall_mem_cons.1 h
      obtain ⟨line, hline, hinvalid⟩ := hfiller.exists_prepares
      obtain ⟨prepared, hprepared, hall⟩ := ih hfillers
      exact ⟨line :: prepared, .cons hline hprepared, List.forall_mem_cons.2 ⟨hinvalid, hall⟩⟩

/-- The lines of a text that starts with tight text are prepared to lines that spell its tokens. -/
theorem exists_lined (hfirst : IsTight first) (hspells : Spells tokens s) (hlf : '\n' ∉ s)
    (hplain : IsPlain (first ++ (tokens ++ pieces.map Prod.snd).flatten))
    (hseparate : Separate allowBraces (tokens ++ pieces.map Prod.snd))
    (hgaps : ∀ piece ∈ pieces, piece.1.Fits) (hindent : InlineBlanks indent) :
    ∃ spelled closed later below, Spells spelled closed ∧
      spelled ++ later = tokens ++ pieces.map Prod.snd ∧ Lined allowBraces later below ∧
      List.Forall₂ Prepares (rowsFrom (indent ++ (first ++ s)) pieces)
        ((first ++ closed) :: below) := by
  -- On the pieces, with the line at hand, the indented `first ++ s`, that spells tokens so far.
  induction pieces generalizing first s tokens indent with
  | nil =>
      rw [List.map_nil, List.append_nil] at hplain hseparate
      have hrow := hplain.of_spells hspells hseparate.isSolid hlf
      obtain ⟨closed, hclosed, hprepares⟩ :=
        exists_prepares hfirst hspells hseparate.isSolid hrow hindent inlineBlanks_nil
      rw [List.append_nil] at hprepares
      exact ⟨tokens, closed, [], [], hclosed, rfl, .nil, .cons hprepares .nil⟩
  | cons piece pieces ih =>
      obtain ⟨gap, token⟩ := piece
      obtain ⟨hgap, hrest⟩ := List.forall_mem_cons.1 hgaps
      rw [List.map_cons] at hplain hseparate ⊢
      have htoken : IsSolid token := hseparate.isSolid token (by simp)
      cases gap with
      | inline blanks =>
          have hblanks : InlineBlanks blanks := hgap
          have hmore : '\n' ∉ s ++ (blanks ++ token) := by
            have hnot := htoken.not_mem (c := '\n') (by decide)
            simp [hlf, hblanks.not_lf, hnot]
          have hconcat := hspells.concat (fun c hc => (hblanks c hc).1) token
          rw [List.append_cons] at hplain hseparate ⊢
          rw [rowsFrom, List.append_assoc indent, List.append_assoc first]
          exact ih hfirst hconcat hmore hplain hseparate hrest hindent
      | broken trail fillers nextIndent =>
          obtain ⟨htrail, hcount, hfillers, hnext⟩ := hgap
          obtain ⟨hplain, hplainRest⟩ := hplain.split
          have hbefore := hseparate.of_isInfix (List.prefix_append _ _).isInfix
          have hbehind := hseparate.of_isInfix (List.suffix_append _ _).isInfix
          obtain ⟨closed, hclosed, hprepares⟩ := exists_prepares hfirst hspells hbefore.isSolid
            (hplain.of_spells hspells hbefore.isSolid hlf) hindent htrail
          obtain ⟨passed, hpassed, hinvalid⟩ := exists_prepares_fillers hfillers
          obtain ⟨spelled, line, later, below, hline, hsplit, hlined, hprepared⟩ :=
            ih htoken.isTight .nil (by simp) hplainRest
              (hbehind.of_isInfix (List.suffix_cons _ _).isInfix) hrest hnext
          rw [List.append_nil] at hprepared
          rw [List.nil_append] at hsplit
          have hvalid : Separate allowBraces (token :: spelled) := by
            rw [← hsplit] at hbehind
            exact hbehind.of_isInfix (List.prefix_append (token :: spelled) later).isInfix
          have hlength : passed.length < searchWindow := by
            rw [← hpassed.length_eq, List.length_map, searchWindow]
            omega
          refine ⟨tokens, closed, (token :: spelled) ++ later, passed ++ (token ++ line) :: below,
            hclosed, by simp [hsplit], ?_, .cons hprepares (List.rel_append hpassed hprepared)⟩
          exact .cons hinvalid hlength hline (hvalid.isValid hline) hlined

end GuidAtlas.Header
