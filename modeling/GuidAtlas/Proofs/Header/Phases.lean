import GuidAtlas.Proofs.Header.Positions.Lines
import GuidAtlas.Proofs.Header.Prepare
import GuidAtlas.Proofs.Text.Tidying

/-!
The preparation of a header in three phases that know nothing of each other: lines are spliced, the
spliced lines are scanned for comments as one text, and what is left of each line is tidied. Reading
line by line with a pending text and a flag for an open comment comes to the same lines, and so does
rewriting the lines in place.
-/

namespace GuidAtlas.Header

open Text

/-- Splices the lines below `text`, which was put together from the lines that end here. -/
def spliceFrom (text : Text) : (below : List Text) → List Text
  | [] => [if (trim text).getLast? = some '\\' then (trim text).dropLast else trim text]
  | line :: below =>
    if (trim text).getLast? = some '\\' then
      [] :: spliceFrom (trimEnd (trim text).dropLast ++ ' ' :: trim line) below
    else trim text :: spliceFrom line below

/-- Joins each line that ends in a backslash to the next one and leaves an empty line behind; the
last line only loses its backslash. -/
def splice : List Text → List Text
  | [] => []
  | line :: below => spliceFrom line below

/-- Where a scan for comments stands. -/
inductive Region where
  | code
  | lineComment
  | blockComment

/-- What is left of a text without comments. Line feeds stay, wherever they are. -/
def scan : Region → Text → Text
  | _, [] => []
  | .code, '/' :: '/' :: t => scan .lineComment t
  | .code, '/' :: '*' :: t => scan .blockComment t
  | .code, c :: t => c :: scan .code t
  | .lineComment, '\n' :: t => '\n' :: scan .code t
  | .lineComment, _ :: t => scan .lineComment t
  | .blockComment, '*' :: '/' :: t => scan .code t
  | .blockComment, '\n' :: t => '\n' :: scan .blockComment t
  | .blockComment, _ :: t => scan .blockComment t

/-- The lines of one scan over all of them, each of which is ended by a line feed. -/
def scanLines (start : Region) (rows : List Text) : List Text :=
  (splitAt '\n' (scan start (unlines rows))).dropLast

/-- The markers are deleted one after the other, and the words that are left of the line stand
behind one another with single spaces between them. -/
def IsTidied (line tidied : Text) : Prop :=
  ∃ unmarked bare parts, Deletes "__declspec(novtable)" line unmarked ∧
    Deletes "DECLSPEC_NOVTABLE" unmarked bare ∧ HasWords bare parts ∧
    tidied = List.intercalate [' '] parts

variable {t line text tidied : Text} {rows below kept : List Text}

/-- There is one way to tidy a line. -/
theorem isTidied_iff : IsTidied line tidied ↔ collapse (withoutMarkers line) = tidied := by
  have hparen : "__declspec(novtable)".toList ≠ [] := by decide
  have hword : "DECLSPEC_NOVTABLE".toList ≠ [] := by decide
  simp only [IsTidied, deletes_iff hparen, deletes_iff hword, hasWords_iff, exists_and_left,
    exists_eq_left]
  exact eq_comm

theorem forall₂_isTidied_iff :
    List.Forall₂ IsTidied kept rows ↔ kept.map (collapse ∘ withoutMarkers) = rows := by
  have htidied : IsTidied = fun line tidied => (collapse ∘ withoutMarkers) line = tidied :=
    funext₂ fun _ _ => propext isTidied_iff
  rw [htidied, ← List.forall₂_map_left_iff (R := (· = ·)), List.forall₂_eq_eq_eq]

theorem beforeBackslash?_eq (t : Text) :
    beforeBackslash? t = if t.getLast? = some '\\' then some t.dropLast else none := by
  split
  case isTrue h =>
    obtain ⟨head, rfl⟩ := List.getLast?_eq_some_iff.1 h
    simp [beforeBackslash?]
  case isFalse h => exact beforeBackslash?_eq_none h

def Region.ofFlag (inBlock : Bool) : Region := if inBlock then .blockComment else .code

theorem scan_lineComment (h : '\n' ∉ line) (t : Text) :
    scan .lineComment (line ++ '\n' :: t) = '\n' :: scan .code t := by
  induction line with
  | nil => rfl
  | cons c line ih =>
      have hc : c ≠ '\n' := fun heq => h (heq ▸ List.mem_cons_self)
      rw [List.cons_append, scan, ih fun hmem => h (List.mem_cons_of_mem _ hmem)]
      exact hc

/-- A scan goes over a line as the line is treated by itself, and on into the next one. -/
theorem scan_line (inBlock : Bool) (h : '\n' ∉ line) (t : Text) :
    scan (.ofFlag inBlock) (line ++ '\n' :: t) =
      (uncomment inBlock line).1 ++ '\n' :: scan (.ofFlag (uncomment inBlock line).2) t := by
  fun_induction uncomment inBlock line with
  | case1 inBlock => cases inBlock <;> rfl
  | case2 rest ih => exact ih fun hmem => h (by simp [hmem])
  | case3 c rest hclose ih =>
      have hc : c ≠ '\n' := fun heq => h (heq ▸ List.mem_cons_self)
      rw [← ih fun hmem => h (List.mem_cons_of_mem _ hmem)]
      show scan .blockComment (c :: (rest ++ '\n' :: t)) = _
      rw [scan]
      · rfl
      · intro more hstar hmore
        cases rest with
        | nil => cases hmore
        | cons d rest =>
            cases hmore
            exact hclose rest hstar rfl
      · exact hc
  | case4 rest =>
      show scan .lineComment (rest ++ '\n' :: t) = '\n' :: scan .code t
      exact scan_lineComment (fun hmem => h (by simp [hmem])) t
  | case5 rest ih => exact ih fun hmem => h (by simp [hmem])
  | case6 c rest hline hblock kept flag heq ih =>
      have hrest := ih fun hmem => h (List.mem_cons_of_mem _ hmem)
      have hnext {d : Char} (hd : d ≠ '\n') {more : Text} (hmore : rest ++ '\n' :: t = d :: more) :
          ∃ more, rest = d :: more := by
        cases rest with
        | nil => exact absurd (List.cons.inj hmore).1.symm hd
        | cons e rest => exact ⟨rest, by rw [(List.cons.inj hmore).1]⟩
      rw [heq] at hrest
      show scan .code (c :: (rest ++ '\n' :: t)) = _
      rw [scan]
      · exact congrArg (c :: ·) hrest
      · intro more hslash hmore
        obtain ⟨more, rfl⟩ := hnext (by decide) hmore
        exact hline more hslash rfl
      · intro more hslash hmore
        obtain ⟨more, rfl⟩ := hnext (by decide) hmore
        exact hblock more hslash rfl

theorem uncomment_subset (inBlock : Bool) (line : Text) : (uncomment inBlock line).1 ⊆ line := by
  fun_induction uncomment inBlock line with
  | case1 => exact List.nil_subset _
  | case2 rest ih => exact fun c hc => by simp [ih hc]
  | case3 c rest _ ih => exact List.subset_cons_of_subset c ih
  | case4 => exact List.nil_subset _
  | case5 rest ih => exact fun c hc => by simp [ih hc]
  | case6 c rest _ _ kept flag heq ih =>
      rw [heq] at ih
      exact List.cons_subset_cons c ih

theorem scanLines_cons (inBlock : Bool) (h : '\n' ∉ line) (rows : List Text) :
    scanLines (.ofFlag inBlock) (line :: rows) =
      (uncomment inBlock line).1 :: scanLines (.ofFlag (uncomment inBlock line).2) rows := by
  have htext : unlines (line :: rows) = line ++ '\n' :: unlines rows := by simp [unlines]
  have hkept : '\n' ∉ (uncomment inBlock line).1 := fun hmem => h (uncomment_subset _ _ hmem)
  rw [scanLines, htext, scan_line inBlock h, splitAt_append hkept,
    List.dropLast_cons_of_ne_nil (splitAt_ne_nil _ _), scanLines]

theorem not_lf_of_mem_lines (t : Text) : ∀ line ∈ lines t, '\n' ∉ line := by
  fun_induction lines t with
  | case1 => simp
  | case2 t ih | case3 t ih => exact List.forall_mem_cons.2 ⟨List.not_mem_nil, ih⟩
  | case4 c t hlf _ _ => simpa using fun heq => hlf heq.symm
  | case5 c t hlf _ first rest hlines ih =>
      rw [hlines] at ih
      obtain ⟨hfirst, hrest⟩ := List.forall_mem_cons.1 ih
      have hc : '\n' ∉ c :: first := by simpa using ⟨fun heq => hlf heq.symm, hfirst⟩
      exact List.forall_mem_cons.2 ⟨hc, hrest⟩

theorem length_preparedFrom (inBlock : Bool) (pending : Option Text) (below : List Text) :
    (preparedFrom inBlock pending below).length = below.length := by
  induction below generalizing inBlock pending with
  | nil => rfl
  | cons line below ih =>
      rw [preparedFrom]
      dsimp only
      split
      · simp [ih]
      · split <;> simp [ih]

theorem length_prepare (t : Text) : (prepare t).length = (lines t).length :=
  length_preparedFrom false none (lines t)

@[simp] theorem scanLines_nil (start : Region) : scanLines start [] = [] := by
  cases start <;> rfl

/-- The line-by-line reading carries the text of the splicing and the region of the scan. -/
theorem preparedFrom_eq_phases (inBlock : Bool) {pending : Option Text}
    (htext : withPending pending line = trim text) (hlf : '\n' ∉ text)
    (hbelow : ∀ row ∈ below, '\n' ∉ row) :
    preparedFrom inBlock pending (line :: below) =
      (scanLines (.ofFlag inBlock) (spliceFrom text below)).map (collapse ∘ withoutMarkers) := by
  induction below generalizing inBlock pending line text with
  | nil =>
      have htrim : '\n' ∉ trim text := fun hmem => hlf (trimOf_subset _ _ hmem)
      have hdrop : '\n' ∉ (trim text).dropLast := fun hmem => htrim (List.mem_of_mem_dropLast hmem)
      rw [preparedFrom, htext, beforeBackslash?_eq, spliceFrom]
      by_cases hslash : (trim text).getLast? = some '\\'
      case pos =>
        simp only [if_pos hslash, scanLines_cons inBlock hdrop, scanLines_nil]
        rfl
      case neg =>
        simp only [if_neg hslash, scanLines_cons inBlock htrim, scanLines_nil]
        rfl
  | cons next below ih =>
      obtain ⟨hnext, hbelow⟩ := List.forall_mem_cons.1 hbelow
      have htrim : '\n' ∉ trim text := fun hmem => hlf (trimOf_subset _ _ hmem)
      rw [preparedFrom, htext, beforeBackslash?_eq, spliceFrom]
      by_cases hslash : (trim text).getLast? = some '\\'
      case pos =>
        have hend : trimEnd (trim text).dropLast <+: (trim text).dropLast := trimEndOf_prefix _ _
        have hhead : '\n' ∉ trimEnd (trim text).dropLast :=
          fun hmem => htrim (List.mem_of_mem_dropLast (hend.subset hmem))
        have hrow : '\n' ∉ trim next := fun hmem => hnext (trimOf_subset _ _ hmem)
        have hjoined : withPending (some (trimEnd (trim text).dropLast)) next =
            trim (trimEnd (trim text).dropLast ++ ' ' :: trim next) := rfl
        have hrest := ih inBlock hjoined (by simp [hhead, hrow]) hbelow
        -- The empty line that is left behind keeps the region as it is.
        simp only [if_pos hslash, scanLines_cons inBlock List.not_mem_nil, uncomment, List.map_cons]
        rw [← hrest]
        rfl
      case neg =>
        have hstart : withPending none next = trim next := rfl
        simp only [if_neg hslash, scanLines_cons inBlock htrim, List.map_cons]
        exact congrArg (_ :: ·) (ih _ hstart hnext hbelow)

theorem prepare_eq_map (t : Text) :
    prepare t = (scanLines .code (splice (lines t))).map (collapse ∘ withoutMarkers) := by
  have hlf := not_lf_of_mem_lines t
  rw [prepare]
  cases hlines : lines t with
  | nil => rfl
  | cons line below =>
      obtain ⟨hline, hbelow⟩ := List.forall_mem_cons.1 (hlines ▸ hlf)
      exact preparedFrom_eq_phases false rfl hline hbelow

/-- Preparing a header is splicing its lines, scanning all of them for comments and tidying what is
left of each; every line of the source keeps its place. -/
theorem prepare_eq_phases (t : Text) :
    (prepare t).length = (lines t).length ∧ preprocess? t = some (prepare t) ∧
      ∀ rows, List.Forall₂ IsTidied (scanLines .code (splice (lines t))) rows ↔
        rows = prepare t := by
  refine ⟨length_prepare t, preprocess?_eq t, fun rows => ?_⟩
  rw [forall₂_isTidied_iff, prepare_eq_map, eq_comm]

/-- Comments that are open over continued lines and hold marks of others, markers that come about by
a deletion, and blanks of all kinds. -/
theorem prepare_marked_and_commented :
    let t : Text := "\t a  __declspec(novtable)\u00a0IFoo /* open\r\n in // it */ b \\ \r\n" ++
      "c /*/ d */ e // tail \\\nof it\n" ++
      "DECLSPEC___declspec(novtable)NOVTABLE x  DECLSPEC_DECLSPEC_NOVTABLENOVTABLE \n end *\\"
    let rows : List Text := ["a IFoo", "", "", "b c e", "x DECLSPEC_NOVTABLE", "end *"]
    preprocess? t = some rows ∧
      List.Forall₂ IsTidied (scanLines .code (splice (lines t))) rows := by
  intro t rows
  have hrows : rows = prepare t := by decide +kernel
  obtain ⟨-, hplaced, htidied⟩ := prepare_eq_phases t
  exact ⟨by rw [hplaced, hrows], (htidied rows).2 hrows⟩

end GuidAtlas.Header
