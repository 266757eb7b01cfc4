import GuidAtlas.Header.Declaration
import GuidAtlas.Proofs.Header.Word
import Mathlib.Data.List.DropRight
import Mathlib.Data.List.Forall2

/-!
The path of namespaces that is put before a name. The search upwards collects the names behind the
keyword and disregards closing braces, so what it finds are the namespaces opened since the root was
opened for the last time; this is compared with the namespaces that are still open.
-/

namespace GuidAtlas.Header

open Text

def rootName : Text := "ABI"

/-- Names with a dot behind each. -/
def scopePath (names : List Text) : Text := names.flatMap (· ++ ['.'])

/-- The path from the last occurrence of the root on. -/
def sinceRootPath (names : List Text) : Text :=
  if rootName ∈ names then scopePath (rootName :: names.rtakeWhile (· ≠ rootName)) else []

/-- The path of open namespaces, outermost first, if the outermost is the root. -/
def rootedPath (scopes : List Text) : Text :=
  if scopes.head? = some rootName then scopePath scopes else []

inductive ScopeLine where
  | opened (name : Text)
  | closed
  /-- A line without namespaces. -/
  | other (line : Text)

namespace ScopeLine

def text : ScopeLine → Text
  | .opened name => "namespace ".toList ++ (name ++ " \x7b".toList)
  | .closed => "\x7d"
  | .other line => line

def Fits : ScopeLine → Prop
  | .opened name => IsIdentifier name
  | .closed => True
  | .other line => ¬"namespace".toList <:+: line ∧ '{' ∉ line ∧ '}' ∉ line

/-- The names that a line shows; a name that has the keyword in it is cut there. -/
def names : ScopeLine → List Text
  | .opened name => pieces "namespace" name
  | .closed => []
  | .other _ => []

/-- What a line does to the open namespaces; the outermost of them comes first. -/
def enter? (scopes : List Text) : ScopeLine → Option (List Text)
  | .opened name => some (scopes ++ [name])
  | .closed => if scopes = [] then none else some scopes.dropLast
  | .other _ => some scopes

end ScopeLine

/-- The namespaces that are open behind some lines, if these close no more than they open. -/
def openScopes? (lines : List ScopeLine) : Option (List Text) := lines.foldlM ScopeLine.enter? []

def namesAbove (above : List Text) : List Text :=
  (above.filter (isValid · false)).flatMap namespacesOf

/-- The search upwards meets every line: at most `depth` are valid, the first of them behind fewer
than `window` others, and each later one behind fewer than seven. -/
structure InReach (depth window : Nat) (above : List Text) : Prop where
  depth_le : (above.filter (isValid · false)).length ≤ depth
  first_lt : ∀ run line, run ++ [line] <+: above → (∀ passed ∈ run, isValid passed false = false) →
    isValid line false = true → run.length < window
  later_lt : ∀ run line, run ++ [line] <:+: above →
    (∀ passed ∈ run, isValid passed false = false) → isValid line false = true →
      run.length < searchWindow

variable {line name path : Text} {above names others : List Text}

@[simp] theorem scopePath_nil : scopePath [] = [] := rfl

@[simp] theorem scopePath_cons (name : Text) (names : List Text) :
    scopePath (name :: names) = name ++ '.' :: scopePath names := by
  simp [scopePath]

theorem scopePath_append (names others : List Text) :
    scopePath (names ++ others) = scopePath names ++ scopePath others := by
  simp [scopePath]

/-- Names without dots are told from their path. -/
theorem scopePath_injective (hnames : ∀ name ∈ names, '.' ∉ name)
    (hothers : ∀ name ∈ others, '.' ∉ name) (h : scopePath names = scopePath others) :
    names = others := by
  induction names generalizing others with
  | nil =>
      cases others with
      | nil => rfl
      | cons other others => simp at h
  | cons name names ih =>
      cases others with
      | nil => simp at h
      | cons other others =>
          rw [List.forall_mem_cons] at hnames hothers
          rw [scopePath_cons, scopePath_cons] at h
          obtain rfl : other = name := eq_of_append_cons_eq hothers.1 hnames.1 h.symm
          have hrest : scopePath names = scopePath others := by simpa using h
          rw [ih hnames.2 hothers.2 hrest]

theorem takeWhile_append_of_mem {α : Type} {p : α → Bool} {a : α} {s : List α} (ha : a ∈ s)
    (hp : p a = false) (t : List α) : (s ++ t).takeWhile p = s.takeWhile p := by
  induction s with
  | nil => cases ha
  | cons b s ih =>
      cases hb : p b with
      | false => simp [hb]
      | true =>
          have hrest : a ∈ s := (List.mem_cons.1 ha).resolve_left fun heq => by
            rw [heq, hb] at hp
            cases hp
          simp [hb, ih hrest]

theorem qualify_cons (path name : Text) (names : List Text) : qualify path (name :: names) =
    if name = rootName then (name ++ '.' :: path, true)
    else qualify (name ++ '.' :: path) names := rfl

theorem qualify_of_mem (h : rootName ∈ names) (path : Text) : qualify path names =
    (scopePath (rootName :: (names.takeWhile (· ≠ rootName)).reverse) ++ path, true) := by
  induction names generalizing path with
  | nil => cases h
  | cons name names ih =>
      rw [qualify_cons]
      by_cases hname : name = rootName
      case pos => simp [hname]
      case neg =>
        have hrest : rootName ∈ names := (List.mem_cons.1 h).resolve_left (Ne.symm hname)
        rw [if_neg hname, ih hrest]
        simp [hname, scopePath_append]

theorem qualify_of_not_mem (h : rootName ∉ names) (path : Text) :
    qualify path names = (scopePath names.reverse ++ path, false) := by
  induction names generalizing path with
  | nil => rfl
  | cons name names ih =>
      rw [List.mem_cons, not_or] at h
      rw [qualify_cons, if_neg (Ne.symm h.1), ih h.2]
      simp [scopePath_append]

theorem namesAbove_cons_of_valid (h : isValid line false = true) (above : List Text) :
    namesAbove (line :: above) = namespacesOf line ++ namesAbove above := by
  simp [namesAbove, h]

theorem namesAbove_cons_of_invalid (h : isValid line false = false) (above : List Text) :
    namesAbove (line :: above) = namesAbove above := by
  simp [namesAbove, h]

theorem namesAbove_eq_nil (h : above.filter (isValid · false) = []) : namesAbove above = [] := by
  rw [namesAbove, h, List.flatMap_nil]

theorem InReach.of_valid {depth window : Nat} (h : InReach depth window (line :: above))
    (hvalid : isValid line false = true) : ∃ more rest, depth = more + 1 ∧ window = rest + 1 ∧
      InReach more searchWindow above := by
  have hdepth := h.depth_le
  rw [List.filter_cons_of_pos (p := (isValid · false)) hvalid, List.length_cons] at hdepth
  have hwindow : 0 < window :=
    h.first_lt [] line ⟨above, rfl⟩ (List.forall_mem_nil _) hvalid
  obtain ⟨more, rfl⟩ := Nat.exists_eq_add_one.2 (Nat.lt_of_lt_of_le (Nat.succ_pos _) hdepth)
  obtain ⟨rest, rfl⟩ := Nat.exists_eq_add_one.2 hwindow
  have hlater (run : List Text) (passed : Text) (hrun : run ++ [passed] <:+: above) :=
    h.later_lt run passed (List.infix_cons hrun)
  exact ⟨more, rest, rfl, rfl, Nat.le_of_succ_le_succ hdepth,
    fun run passed hrun => hlater run passed hrun.isInfix, hlater⟩

theorem InReach.of_invalid {depth window : Nat} (h : InReach depth (window + 1) (line :: above))
    (hvalid : isValid line false = false) : InReach depth window above where
  depth_le := by
    have hdepth := h.depth_le
    rwa [List.filter_cons_of_neg (by simp [hvalid])] at hdepth
  first_lt run passed hrun hpassed hlast := by
    have hlt := h.first_lt (line :: run) passed (List.cons_prefix_cons.2 ⟨rfl, hrun⟩)
      (List.forall_mem_cons.2 ⟨hvalid, hpassed⟩) hlast
    exact Nat.lt_of_succ_lt_succ hlt
  later_lt run passed hrun := h.later_lt run passed (List.infix_cons hrun)

/-- Where the search gives up there is nothing left to find. -/
theorem InReach.filter_eq_nil {depth : Nat} (h : InReach depth 0 above) :
    above.filter (isValid · false) = [] := by
  refine List.filter_eq_nil_iff.2 fun line hline hvalid => ?_
  obtain ⟨run, first, rest, rfl, hrun, hfirst⟩ := exists_first_valid ⟨line, hline, hvalid⟩
  exact absurd (h.first_lt run first ⟨rest, by simp⟩ hrun hfirst)
    (Nat.not_lt_zero _)

/-- What a search finds that meets every line. -/
theorem abiPathFrom_eq {depth window : Nat} (h : InReach depth window above) (path : Text) :
    abiPathFrom path depth window above = if rootName ∈ namesAbove above then
      scopePath (rootName :: ((namesAbove above).takeWhile (· ≠ rootName)).reverse) ++ path
    else [] := by
  induction above generalizing depth window path with
  | nil => cases depth <;> cases window <;> rfl
  | cons line above ih =>
      cases hvalid : isValid line false with
      | true =>
          obtain ⟨depth, window, rfl, rfl, hrest⟩ := h.of_valid hvalid
          rw [abiPathFrom, if_pos hvalid, namesAbove_cons_of_valid hvalid]
          by_cases hroot : rootName ∈ namespacesOf line
          case pos =>
            have htake : ((namespacesOf line ++ namesAbove above).takeWhile (· ≠ rootName)) =
                (namespacesOf line).takeWhile (· ≠ rootName) :=
              takeWhile_append_of_mem hroot (by simp) (namesAbove above)
            rw [qualify_of_mem hroot, if_pos (List.mem_append_left _ hroot), htake]
          case neg =>
            have htake : ((namespacesOf line ++ namesAbove above).takeWhile (· ≠ rootName)) =
                namespacesOf line ++ (namesAbove above).takeWhile (· ≠ rootName) :=
              List.takeWhile_append_of_pos fun name hname =>
                decide_eq_true fun heq => hroot (heq ▸ hname)
            rw [qualify_of_not_mem hroot, htake]
            simp only [ih hrest, List.mem_append, hroot, false_or]
            congr 1
            simp [scopePath_append]
      | false =>
          rw [namesAbove_cons_of_invalid hvalid]
          cases window with
          | zero =>
              have hnone := h.filter_eq_nil
              rw [List.filter_cons_of_neg (by simp [hvalid])] at hnone
              rw [namesAbove_eq_nil hnone]
              cases depth <;> rfl
          | succ window =>
              have hrest := h.of_invalid hvalid
              cases depth with
              | zero =>
                  have hnone := List.eq_nil_of_length_eq_zero (Nat.le_zero.1 hrest.depth_le)
                  rw [namesAbove_eq_nil hnone]
                  rfl
              | succ depth => rw [abiPathFrom, if_neg (by simp [hvalid]), ih hrest]

theorem map_trimOf_pieces {sep tail t : Text} {c : Char} {p : Char → Bool} (hne : sep ≠ [])
    (hc : p c = true) (hstart : c ∉ sep) (htail : ∀ d ∈ tail, p d = true)
    (hend : ∀ d ∈ sep, d ∉ tail) :
    (pieces sep (c :: (t ++ tail))).map (trimOf p) = (pieces sep t).map (trimOf p) := by
  have hbehind : (pieces sep (t ++ tail)).map (trimOf p) = (pieces sep t).map (trimOf p) := by
    rw [← List.forall₂_eq_eq_eq, List.forall₂_map_left_iff, List.forall₂_map_right_iff]
    refine (piecesFrom_append hne hend (Nat.zero_le t.length)).imp fun whole piece hwhole => ?_
    rcases hwhole with rfl | rfl
    · rfl
    · exact trimOf_append_right htail piece
  obtain ⟨first, rest, rfl⟩ := List.exists_cons_of_ne_nil hne
  have hfirst : first ≠ c := fun heq => hstart (by simp [heq])
  have hnone : (first :: rest).isPrefixOf (c :: (t ++ tail)) = false := by
    rw [Bool.eq_false_iff, ne_eq, List.isPrefixOf_iff_prefix, List.cons_prefix_cons]
    exact fun h => hfirst h.1
  rw [← hbehind, pieces, piecesFrom, hnone, pieces]
  cases hpieces : piecesFrom (first :: rest) 0 (t ++ tail) with
  | nil => exact absurd hpieces (piecesFrom_ne_nil _ _ _)
  | cons piece parts =>
      have htrim : trimOf p ([c] ++ piece) = trimOf p piece :=
        trimOf_append_left (List.forall_mem_singleton.2 hc) piece
      rw [List.map_cons, ← htrim]
      rfl

/-- A line that opens a namespace shows the pieces of its name. -/
theorem namespacesOf_opened (h : IsIdentifier name) :
    namespacesOf (ScopeLine.opened name).text = (pieces "namespace" name).reverse := by
  have htext : (ScopeLine.opened name).text =
      "namespace".toList ++ (' ' :: (name ++ " \x7b".toList)) := rfl
  have hpiece : ∀ piece ∈ pieces "namespace" name, trimOf (fun c => c = ' ' || c = '{') piece =
      piece := by
    intro piece hpiece
    have hplain {c : Char} (hc : c ∈ piece) : (c = ' ' || c = '{') = false := by
      have hmem := (infix_of_mem_pieces (by decide) hpiece).subset hc
      simpa using h.induction (p := fun c => !(c = ' ' || c = '{')) (by decide) hmem
    exact trimOf_eq_self (fun c hc => hplain (List.mem_of_head? hc))
      fun c hc => hplain (List.mem_of_getLast? hc)
  rw [namespacesOf, htext, pieces_sep_append (by decide), List.tail_cons,
    map_trimOf_pieces (by decide) (by decide) (by decide) (forall_mem_of_all (by decide))
      (forall_mem_of_all (by decide)),
    List.map_congr_left hpiece, List.map_id']

theorem namesAbove_append (above others : List Text) :
    namesAbove (above ++ others) = namesAbove above ++ namesAbove others := by
  simp [namesAbove]

theorem namesAbove_text {line : ScopeLine} (h : line.Fits) :
    namesAbove [line.text] = line.names.reverse := by
  cases line with
  | opened name =>
      have hvalid : isValid (ScopeLine.opened name).text false = true := rfl
      rw [namesAbove_cons_of_valid hvalid, namespacesOf_opened h]
      exact List.append_nil _
  | closed => rfl
  | other line =>
      have hnone : namespacesOf line = [] := by
        rw [namespacesOf, pieces_eq_singleton h.1]
        rfl
      cases hvalid : isValid line false with
      | true =>
          have hline : namesAbove [line] = namespacesOf line ++ [] :=
            namesAbove_cons_of_valid hvalid []
          exact hline.trans (by simp [hnone, ScopeLine.names])
      | false => exact namesAbove_cons_of_invalid hvalid []

theorem namesAbove_texts {lines : List ScopeLine} (h : ∀ line ∈ lines, line.Fits) :
    namesAbove (lines.map ScopeLine.text).reverse = (lines.flatMap ScopeLine.names).reverse := by
  induction lines with
  | nil => rfl
  | cons line lines ih =>
      obtain ⟨hline, hlines⟩ := List.forall_mem_cons.1 h
      rw [List.map_cons, List.reverse_cons, namesAbove_append, ih hlines, namesAbove_text hline,
        List.flatMap_cons, List.reverse_append]

theorem opened_of_mem_scopes {lines : List ScopeLine} {start scopes : List Text}
    (h : lines.foldlM ScopeLine.enter? start = some scopes) :
    ∀ scope ∈ scopes, scope ∈ start ∨ .opened scope ∈ lines := by
  induction lines generalizing start with
  | nil =>
      cases h
      exact fun scope hscope => .inl hscope
  | cons line lines ih =>
      rw [List.foldlM_cons] at h
      obtain ⟨next, hnext, h⟩ := Option.bind_eq_some_iff.1 h
      intro scope hscope
      rcases ih h scope hscope with hstart | hopened
      · cases line with
        | opened name =>
            cases hnext
            rcases List.mem_append.1 hstart with hstart | hname
            · exact .inl hstart
            · exact .inr (by simp [List.mem_singleton.1 hname])
        | closed =>
            rw [ScopeLine.enter?] at hnext
            split at hnext
            · cases hnext
            · cases hnext
              exact .inl (List.mem_of_mem_dropLast hstart)
        | other line =>
            cases hnext
            exact .inl hstart
      · exact .inr (List.mem_cons_of_mem _ hopened)

theorem not_dot_of_mem_names {lines : List ScopeLine} (h : ∀ line ∈ lines, line.Fits) :
    ∀ name ∈ lines.flatMap ScopeLine.names, '.' ∉ name := by
  intro name hname
  obtain ⟨line, hline, hname⟩ := List.mem_flatMap.1 hname
  cases line with
  | opened whole =>
      have hwhole : IsIdentifier whole := h _ hline
      have hpart := (infix_of_mem_pieces (by decide) hname).subset
      exact fun hdot => hwhole.not_mem (by decide) (hpart hdot)
  | closed => cases hname
  | other line => cases hname

/-- What is put before a name is the path of the namespaces that were opened since the root was
opened for the last time. It is the path of the namespaces that are open exactly if the root was
never opened, or if these are the namespaces that are open. -/
theorem abiPath_eq_rootedPath_iff {lines : List ScopeLine} {scopes : List Text}
    (hfits : ∀ line ∈ lines, line.Fits) (hopen : openScopes? lines = some scopes)
    (hreach : InReach namespaceDepth searchWindow (lines.map ScopeLine.text).reverse) :
    abiPath (lines.map ScopeLine.text).reverse = sinceRootPath (lines.flatMap ScopeLine.names) ∧
    (abiPath (lines.map ScopeLine.text).reverse = rootedPath scopes ↔
      (rootName ∈ lines.flatMap ScopeLine.names →
        scopes = rootName :: (lines.flatMap ScopeLine.names).rtakeWhile (· ≠ rootName))) := by
  have hpath : abiPath (lines.map ScopeLine.text).reverse =
      sinceRootPath (lines.flatMap ScopeLine.names) := by
    rw [abiPath, abiPathFrom_eq hreach, namesAbove_texts hfits]
    simp [sinceRootPath, List.rtakeWhile]
  refine ⟨hpath, ?_⟩
  rw [hpath, sinceRootPath, rootedPath]
  have hdots := not_dot_of_mem_names hfits
  have hscopes : ∀ scope ∈ scopes, '.' ∉ scope := by
    intro scope hscope
    rcases opened_of_mem_scopes hopen scope hscope with hnil | hopened
    · cases hnil
    · have hname : IsIdentifier scope := hfits _ hopened
      exact hname.not_mem (by decide)
  by_cases hroot : rootName ∈ lines.flatMap ScopeLine.names
  case pos =>
    have hdotted : ∀ name ∈ rootName :: (lines.flatMap ScopeLine.names).rtakeWhile (· ≠ rootName),
        '.' ∉ name := by
      refine List.forall_mem_cons.2 ⟨by decide, fun name hname => ?_⟩
      exact hdots name (List.rtakeWhile_suffix _ _ |>.subset hname)
    rw [if_pos hroot]
    constructor
    · intro h _
      by_cases hhead : scopes.head? = some rootName
      · rw [if_pos hhead] at h
        exact (scopePath_injective hdotted hscopes h).symm
      · rw [if_neg hhead] at h
        simp at h
    · intro h
      rw [h hroot]
      simp
  case neg =>
    have hhead : scopes.head? ≠ some rootName := by
      intro hhead
      rcases opened_of_mem_scopes hopen rootName (List.mem_of_head? hhead) with hnil | hopened
      · cases hnil
      · exact hroot (List.mem_flatMap.2 ⟨_, hopened, by decide⟩)
    simp [hroot, hhead]

theorem inReach_of_length (hdepth : (above.filter (isValid · false)).length ≤ namespaceDepth)
    (hwindow : (above.filter (!isValid · false)).length < searchWindow) :
    InReach namespaceDepth searchWindow above := by
  have hrun (run : List Text) (line : Text) (hpart : run ++ [line] <:+: above)
      (hpassed : ∀ passed ∈ run, isValid passed false = false) : run.length < searchWindow := by
    have hsub : run.Sublist above :=
      (List.prefix_append run [line]).sublist.trans hpart.sublist
    have hself : run.filter (!isValid · false) = run :=
      List.filter_eq_self.2 fun passed hmem => by simp [hpassed passed hmem]
    have hle := (hsub.filter (!isValid · false)).length_le
    rw [hself] at hle
    omega
  exact ⟨hdepth, fun run line hstart hpassed _ => hrun run line hstart.isInfix hpassed,
    fun run line hpart hpassed _ => hrun run line hpart hpassed⟩

instance (line : ScopeLine) : Decidable line.Fits :=
  match line with
  | .opened name => inferInstanceAs (Decidable (IsIdentifier name))
  | .closed => inferInstanceAs (Decidable True)
  | .other line =>
    inferInstanceAs (Decidable (¬"namespace".toList <:+: line ∧ '{' ∉ line ∧ '}' ∉ line))

/-- A line in the second of two namespaces under the root. -/
def siblingLines : List ScopeLine :=
  [.opened "ABI", .other "#define X", .opened "Windows", .other "int x;", .closed,
    .opened "Foundation"]

theorem abiPath_siblingLines :
    openScopes? siblingLines = some ["ABI".toList, "Foundation".toList] ∧
    abiPath (siblingLines.map ScopeLine.text).reverse = "ABI.Windows.Foundation.".toList ∧
    abiPath (siblingLines.map ScopeLine.text).reverse ≠
      rootedPath ["ABI".toList, "Foundation".toList] := by
  have hopen : openScopes? siblingLines = some ["ABI".toList, "Foundation".toList] := by decide
  obtain ⟨hpath, hiff⟩ := @abiPath_eq_rootedPath_iff siblingLines _ (by decide) hopen
    (inReach_of_length (by decide) (by decide))
  exact ⟨hopen, hpath.trans (by decide), fun h => absurd (hiff.1 h (by decide)) (by decide)⟩

/-- A name below a namespace that is closed again gets its path. -/
theorem not_enclosing_below_closed :
    openScopes? [.opened "ABI", .closed] = some [] ∧
    abiPath ([ScopeLine.opened "ABI", .closed].map ScopeLine.text).reverse ≠ rootedPath [] ∧
    ((read false (unlines ["namespace ABI \x7b", "\x7d",
      "MIDL_INTERFACE(\"aec22fb8-76f3-4639-9be0-28eb43a67a2e\") IFoo"])).declarations.map
        Declaration.name) = ["ABI.IFoo".toList] := by
  decide

end GuidAtlas.Header
