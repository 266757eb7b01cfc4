import GuidAtlas.Proofs.Catalog.Step
import GuidAtlas.Proofs.Guid.Number
import GuidAtlas.Proofs.Header.Visits
import GuidAtlas.Proofs.Text.Spaced

/-!
What the declarations of headers are made of. The lines of a prepared header have single spaces and
no other blanks, and no form brings others into the name that it takes out of its lines; every GUID
that is found is a key of the catalog.
-/

namespace GuidAtlas.Header

open Text

variable {line : Text} {above below : List Text}

theorem collapsed_of_mem_preparedFrom {inBlock : Bool} {pending : Option Text}
    {sources : List Text} (h : line ∈ preparedFrom inBlock pending sources) : Collapsed line := by
  fun_induction preparedFrom inBlock pending sources with
  | case1 => cases h
  | case2 inBlock pending source below text finish hslash ih
  | case3 inBlock pending source below text finish head hslash hlast ih =>
      rcases List.mem_cons.1 h with rfl | h
      · exact collapsed_collapse _
      · exact ih _ h
  | case4 inBlock pending source below text head hslash hmore _ ih =>
      rcases List.mem_cons.1 h with rfl | h
      · exact collapsed_nil
      · exact ih h

theorem collapsed_of_mem_prepare {t : Text} : ∀ line ∈ prepare t, Collapsed line :=
  fun _ => collapsed_of_mem_preparedFrom

theorem collapsed_gatherFrom {complete : Text → Bool} {allowBraces : Bool} {text gathered : Text}
    {window : Nat} (htext : Collapsed text) (hbelow : ∀ line ∈ below, Collapsed line)
    (h : (gatherFrom complete allowBraces text window below).value = some gathered) :
    Collapsed gathered := by
  fun_induction gatherFrom complete allowBraces text window below with
  | case1 | case2 => cases h
  | case3 text window line below hvalid joined hcomplete =>
      exact Option.some.inj h ▸ htext.append (hbelow line List.mem_cons_self)
  | case4 text window line below hvalid joined hmore ih =>
      obtain ⟨hline, hbelow⟩ := List.forall_mem_cons.1 hbelow
      exact ih (htext.append hline) hbelow h
  | case5 text window line below hvalid ih =>
      exact ih htext (List.forall_mem_cons.1 hbelow).2 h

theorem singleSpaced_arguments {count : Nat} {args : List Text} (hline : Collapsed line)
    (hbelow : ∀ line ∈ below, Collapsed line)
    (h : (arguments count line below).value = some args) : ∀ arg ∈ args, SingleSpaced arg := by
  simp only [arguments, Option.filter_eq_some_iff, Option.bind_eq_some_iff] at h
  obtain ⟨⟨text, hgather, hargs⟩, -⟩ := h
  have htext : Collapsed text := by
    rw [gather] at hgather
    split at hgather
    · cases hgather
      exact hline
    · exact collapsed_gatherFrom hline hbelow hgather
  simp only [argumentsOf?, Option.bind_eq_bind, Option.bind_eq_some_iff, Prod.exists] at hargs
  obtain ⟨_, rest, hopen, inner, _, hclose, hinner⟩ := hargs
  cases hinner
  have hinner : SingleSpaced inner := ((htext.of_cut? hopen).2.of_cut? hclose).1
  intro arg harg
  obtain ⟨piece, hpiece, rfl⟩ := List.mem_map.1 harg
  exact (hinner.of_isInfix (infix_of_mem_splitAt hpiece)).trimOf isBlank

theorem singleSpaced_assigned? {t name : Text} (ht : SingleSpaced t) (h : assigned? t = some name) :
    SingleSpaced name := by
  rw [assigned?] at h
  split at h
  case h_1 first second hpieces =>
    cases h
    exact (ht.of_isInfix (infix_of_mem_splitAt (hpieces ▸ List.mem_cons_self))).trimOf isBlank
  case h_2 => cases h

theorem singleSpaced_dotted {t : Text} (h : SingleSpaced t) : SingleSpaced (dotted t) :=
  h.replace (List.forall_mem_singleton.2 (by decide)) (by decide) _

theorem singleSpaced_qualify {path : Text} {names : List Text} (hpath : SingleSpaced path)
    (hnames : ∀ name ∈ names, SingleSpaced name) : SingleSpaced (qualify path names).1 := by
  have hlonger {name path : Text} (hname : SingleSpaced name) (hpath : SingleSpaced path) :
      SingleSpaced (name ++ '.' :: path) :=
    hname.append (hpath.cons (by decide)) (.inr (by simp))
  fun_induction qualify path names with
  | case1 path => exact hpath
  | case2 path names longer => exact hlonger (hnames _ List.mem_cons_self) hpath
  | case3 path name names longer hother ih =>
      obtain ⟨hname, hnames⟩ := List.forall_mem_cons.1 hnames
      exact ih (hlonger hname hpath) hnames

theorem singleSpaced_of_mem_namespacesOf (hline : SingleSpaced line) :
    ∀ name ∈ namespacesOf line, SingleSpaced name := by
  intro name hname
  rw [namespacesOf, List.mem_reverse] at hname
  obtain ⟨piece, hpiece, rfl⟩ := List.mem_map.1 hname
  have hinfix := infix_of_mem_pieces (by decide) (List.mem_of_mem_tail hpiece)
  exact (hline.of_isInfix hinfix).trimOf _

theorem singleSpaced_abiPathFrom {path : Text} (hpath : SingleSpaced path)
    (h : ∀ line ∈ above, Collapsed line) (depth window : Nat) :
    SingleSpaced (abiPathFrom path depth window above) := by
  have hqualified {path line qualified : Text} {rooted : Bool} (hpath : SingleSpaced path)
      (hline : Collapsed line) (hqualify : qualify path (namespacesOf line) = (qualified, rooted)) :
      SingleSpaced qualified := by
    have hspaced := singleSpaced_qualify hpath
      (singleSpaced_of_mem_namespacesOf hline.toSingleSpaced)
    rwa [hqualify] at hspaced
  fun_induction abiPathFrom path depth window above with
  | case1 path depth window line above hvalid qualified hqualify =>
      exact hqualified hpath (h line List.mem_cons_self) hqualify
  | case2 path depth window line above hvalid qualified hqualify ih =>
      obtain ⟨hline, habove⟩ := List.forall_mem_cons.1 h
      exact ih (hqualified hpath hline hqualify) habove
  | case3 path depth window line above hvalid ih =>
      exact ih hpath (List.forall_mem_cons.1 h).2
  | case4 => exact singleSpaced_nil

theorem singleSpaced_abiPath (h : ∀ line ∈ above, Collapsed line) : SingleSpaced (abiPath above) :=
  singleSpaced_abiPathFrom singleSpaced_nil h _ _

/-- What is found is a key of the catalog, with a name of single spaces. -/
def Outcome.WellFormed : Outcome → Prop
  | .found guid name => Catalog.IsKey guid ∧ SingleSpaced name
  | .unread => True
  | .nothing => True

theorem isKey_of_ofNumbers? {parts : List Text} {guid : Text}
    (h : Guid.ofNumbers? parts = some guid) : Catalog.IsKey guid := by
  obtain ⟨hcanonical, hupper⟩ := Guid.isCanonical_of_ofNumbers? h
  exact ⟨hcanonical, hupper⟩

theorem isKey_of_ofInitializer? {t guid : Text} (h : Guid.ofInitializer? t = some guid) :
    Catalog.IsKey guid := by
  simp only [Guid.ofInitializer?, Option.bind_eq_bind, Option.bind_eq_some_iff] at h
  obtain ⟨_, -, h⟩ := h
  split at h
  · cases h
  · exact isKey_of_ofNumbers? h

theorem isKey_upper_of_first? {t before guid : Text} (h : Guid.first? t = some (before, guid)) :
    Catalog.IsKey (upper guid) := by
  have hcanonical := Guid.isCanonical_upper (Guid.isCanonical_of_first? h)
  exact ⟨hcanonical, Guid.upper_eq_self_of_isCanonical hcanonical⟩

theorem wellFormed_staticUuid {rest : Text} (hrest : SingleSpaced rest) (line : Text)
    (below : List Text) : (staticUuid rest line below).value.WellFormed := by
  rw [staticUuid]
  split
  case h_1 => trivial
  case h_2 name hname =>
    simp only
    split
    case h_1 guid hguid =>
      obtain ⟨text, -, hguid⟩ := Option.bind_eq_some_iff.1 hguid
      exact ⟨isKey_of_ofInitializer? hguid, singleSpaced_assigned? hrest hname⟩
    case h_2 => trivial

theorem Outcome.wellFormed_getD {found : Option Outcome} {other : Outcome}
    (hfound : ∀ outcome, found = some outcome → outcome.WellFormed) (hother : other.WellFormed) :
    (found.getD other).WellFormed := by
  cases found with
  | none => exact hother
  | some outcome => exact hfound outcome rfl

theorem wellFormed_defineGuid (hline : Collapsed line) (hbelow : ∀ line ∈ below, Collapsed line) :
    (defineGuid line below).value.WellFormed := by
  simp only [defineGuid]
  refine Outcome.wellFormed_getD (fun outcome hfound => ?_) (by split <;> trivial)
  simp only [Option.bind_eq_bind, Option.bind_eq_some_iff] at hfound
  obtain ⟨args, hargs, name, hname, guid, hguid, hfound⟩ := hfound
  cases hfound
  exact ⟨isKey_of_ofNumbers? hguid,
    singleSpaced_arguments hline hbelow hargs name (List.mem_of_head? hname)⟩

theorem singleSpaced_templateName {name : Text} (h : SingleSpaced name) (projected : Bool) :
    SingleSpaced (templateName projected name) := by
  rw [templateName]
  split
  · exact SingleSpaced.append (by decide : SingleSpaced ("ABI." : Text)) h (.inl (by decide))
  · exact h

theorem wellFormed_variableTemplate {rest : Text} (hrest : SingleSpaced rest) (projected : Bool)
    (line : Text) : (variableTemplate projected line rest).WellFormed := by
  refine Outcome.wellFormed_getD (fun outcome hfound => ?_) trivial
  simp only [Option.bind_eq_bind, Option.bind_eq_some_iff, Prod.exists] at hfound
  obtain ⟨_, inner, hopen, name, _, hclose, guid, hguid, hfound⟩ := hfound
  have hname : SingleSpaced name := (hrest.of_cut? hopen).2.of_cutLast? hclose
  cases hfound
  split
  · trivial
  · exact ⟨isKey_of_ofInitializer? hguid,
      singleSpaced_templateName (singleSpaced_dotted hname) projected⟩

variable {guid : Text}

theorem wellFormed_argument (hguid : Catalog.IsKey guid) (hline : Collapsed line)
    (hbelow : ∀ line ∈ below, Collapsed line) (count index : Nat) :
    (argument guid count index line below).value.WellFormed := by
  simp only [argument]
  split
  case h_1 name hname =>
    obtain ⟨args, hargs, hname⟩ := Option.bind_eq_some_iff.1 hname
    exact ⟨hguid, singleSpaced_arguments hline hbelow hargs _ (List.mem_of_getElem? hname)⟩
  case h_2 => trivial

theorem collapsed_tidy (word : Text) : Collapsed (tidy word) := collapsed_collapse _

theorem wellFormed_kindAndName (hguid : Catalog.IsKey guid) (place : Place) :
    (kindAndName guid place).value.WellFormed := by
  simp only [kindAndName]
  split
  · trivial
  · split
    · trivial
    · refine ⟨hguid, ?_⟩
      cases (nextWord _).value
      · exact singleSpaced_nil
      · exact (collapsed_tidy _).toSingleSpaced

theorem wellFormed_nameAfter (hguid : Catalog.IsKey guid) (habove : ∀ line ∈ above, Collapsed line)
    (place : Place) : (nameAfter guid above place).value.WellFormed := by
  simp only [nameAfter]
  split
  · trivial
  · refine ⟨hguid, ?_⟩
    have hname : Collapsed
        (((nextWord place).value.map fun word => tidy word.text).getD []) := by
      cases (nextWord place).value
      · exact collapsed_nil
      · exact collapsed_tidy _
    exact (singleSpaced_abiPath habove).append hname.toSingleSpaced (.inr hname.head_ne)

theorem wellFormed_writtenForm {place : Place} (hguid : Catalog.IsKey guid)
    (habove : ∀ line ∈ above, Collapsed line) (hline : Collapsed place.line)
    (hbelow : ∀ line ∈ place.below, Collapsed line) :
    (writtenForm guid above place).value.WellFormed := by
  simp only [writtenForm]
  -- Each branch is one of the three readings above, the name before an equals sign, or no name.
  repeat' split
  all_goals first
    | exact wellFormed_kindAndName hguid place
    | exact wellFormed_nameAfter hguid habove place
    | exact wellFormed_argument hguid hline hbelow _ _
    | exact ⟨hguid, singleSpaced_assigned? (hline.of_afterStart? ‹_›) ‹_›⟩
    | trivial

theorem wellFormed_readLine (projected : Bool) (habove : ∀ line ∈ above, Collapsed line)
    (hline : Collapsed line) (hbelow : ∀ line ∈ below, Collapsed line) :
    (readLine projected above line below).value.WellFormed := by
  rw [readLine]
  split
  case h_1 rest hrest => exact wellFormed_staticUuid (hline.of_afterStart? hrest) line below
  case h_2 =>
    split
    case isTrue => exact wellFormed_defineGuid hline hbelow
    case isFalse =>
      split
      case h_1 rest hcut =>
        exact wellFormed_variableTemplate (hline.of_cut? hcut).2 projected line
      case h_2 =>
        split
        case h_1 => trivial
        case h_2 before guid hfirst =>
          exact wellFormed_writtenForm (isKey_upper_of_first? hfirst) habove hline hbelow

theorem wellFormed_of_mem_declarations {projected : Bool} {t : Text} {declaration : Declaration}
    (h : declaration ∈ (read projected t).declarations) :
    Catalog.IsKey declaration.guid ∧ SingleSpaced declaration.name := by
  have hholds : (read projected t).Holds declaration.line
      (.found declaration.guid declaration.name) := h
  obtain ⟨i, -, hvalue, -⟩ := (holds_read (by simp)).1 hholds
  have hlines := collapsed_of_mem_prepare (t := t)
  have hformed : (readingAt projected (prepare t) i).value.WellFormed := by
    rw [readingAt]
    split
    case h_1 line hline =>
      split
      · exact wellFormed_readLine projected
          (fun line hmem => hlines line (List.mem_of_mem_take (List.mem_reverse.1 hmem)))
          (hlines line (List.mem_of_getElem? hline))
          fun line hmem => hlines line (List.mem_of_mem_drop hmem)
      · trivial
    case h_2 => trivial
  rw [hvalue] at hformed
  exact hformed

theorem spaced_of_mem_declarations {projected : Bool} {t : Text} {declaration : Declaration}
    (h : declaration ∈ (read projected t).declarations) : Spaced declaration.name :=
  (wellFormed_of_mem_declarations h).2.spaced

end GuidAtlas.Header
