import GuidAtlas.Proofs.Catalog.Ambiguity
import GuidAtlas.Proofs.Header.Accounting
import GuidAtlas.Proofs.Header.Names
import GuidAtlas.Scan.Diagnostic

/-!
What it changes that a header belongs to a language projection. The two readings of a header go
through the same lines; only a dotted name that a variable template gives is put under the root, and
for the catalog such a pair of names is one interface.
-/

namespace GuidAtlas.Header

open Text

/-- A line in the form of a variable template: its marker is not at the start, and no form that is
tried before has the line. -/
def IsTemplateLine (line : Text) : Prop :=
  ¬"static const UUID ".toList <+: line ∧ isDefineGuid line = false ∧
    "inline constexpr guid".toList <:+: line ∧ ¬"inline constexpr guid".toList <+: line

instance (line : Text) : Decidable (IsTemplateLine line) := inferInstanceAs (Decidable (_ ∧ _))

/-- The name in the header of a projection, for what the line names in another header. -/
def projectedName (line name : Text) : Text :=
  if IsTemplateLine line ∧ '.' ∈ name ∧ ¬"ABI.".toList <+: name then "ABI.".toList ++ name else name

def Outcome.project (line : Text) : Outcome → Outcome
  | .found guid name => .found guid (projectedName line name)
  | .unread => .unread
  | .nothing => .nothing

/-- A declaration of a header with these lines as the header of a projection would have it. -/
def Declaration.project (lines : List Text) (declaration : Declaration) : Declaration :=
  { declaration with
    name := projectedName (lines.getD (declaration.line - 1) []) declaration.name }

def Contents.project (lines : List Text) (contents : Contents) : Contents :=
  { contents with declarations := contents.declarations.map (Declaration.project lines) }

variable {line : Text} {lines above below rest : List Text}

theorem Outcome.project_eq_self (h : ¬IsTemplateLine line) (outcome : Outcome) :
    outcome.project line = outcome := by
  have hname (name : Text) : projectedName line name = name := if_neg fun hparts => h hparts.1
  cases outcome with
  | found guid name => rw [Outcome.project, hname]
  | unread => rfl
  | nothing => rfl

theorem templateName_true (h : IsTemplateLine line) (name : Text) :
    templateName true name = projectedName line name := by
  have hiff : (true && name.elem '.' && !startsWith name "ABI.") = true ↔
      IsTemplateLine line ∧ '.' ∈ name ∧ ¬"ABI.".toList <+: name := by
    rw [← startsWith_iff]
    simp [h]
  exact if_congr hiff rfl rfl

theorem variableTemplate_true (h : IsTemplateLine line) (afterMarker : Text) :
    variableTemplate true line afterMarker =
      (variableTemplate false line afterMarker).project line := by
  have hplain (name : Text) : templateName false name = name := rfl
  simp only [variableTemplate, templateName_true h, hplain]
  cases cut? "<" afterMarker with
  | none => rfl
  | some opened =>
      simp only [Option.bind_eq_bind, Option.bind_some]
      cases cutLast? ">" opened.2 with
      | none => rfl
      | some closed =>
          cases Guid.ofInitializer? line with
          | none => rfl
          | some guid =>
              by_cases hshort : utf8Length (dotted closed.1) ≤ 3
              · simp [hshort, Outcome.project]
              · simp [hshort, Outcome.project]

/-- A marker that is not at the start is what makes a line a variable template. -/
theorem isSome_afterTemplateMarker?_iff : (afterTemplateMarker? line).isSome = true ↔
    "inline constexpr guid".toList <:+: line ∧ ¬"inline constexpr guid".toList <+: line := by
  rw [afterTemplateMarker?]
  cases hcut : cut? "inline constexpr guid" line with
  | none => exact iff_of_false Bool.false_ne_true fun h => cut?_eq_none_iff.1 hcut h.1
  | some parts =>
      obtain ⟨before, afterMarker⟩ := parts
      have hline := eq_append_of_cut? hcut
      cases before with
      | nil => exact iff_of_false Bool.false_ne_true fun h => h.2 ⟨afterMarker, hline.symm⟩
      | cons c before =>
          refine iff_of_true rfl ⟨⟨c :: before, afterMarker, hline.symm⟩, ?_⟩
          rintro ⟨rest, rfl⟩
          have hfirst : cut? "inline constexpr guid" ("inline constexpr guid".toList ++ rest) =
              some ([], rest) :=
            @cut?_append 'i' "nline constexpr guid" [] List.not_mem_nil rest
          rw [hfirst] at hcut
          cases hcut

theorem isTemplateLine_iff : IsTemplateLine line ↔
    afterStart? "static const UUID " line = none ∧ isDefineGuid line = false ∧
      ∃ afterMarker, afterTemplateMarker? line = some afterMarker := by
  rw [IsTemplateLine, afterStart?_eq_none_iff, ← Option.isSome_iff_exists,
    isSome_afterTemplateMarker?_iff]

theorem readLine_of_isTemplateLine (h : IsTemplateLine line) :
    ∃ afterMarker, ∀ projected above below,
      readLine projected above line below = ⟨variableTemplate projected line afterMarker, 0⟩ := by
  obtain ⟨hstatic, hdefine, afterMarker, hafter⟩ := isTemplateLine_iff.1 h
  refine ⟨afterMarker, fun projected above below => ?_⟩
  rw [readLine_eq_byRule, hstatic, hdefine, hafter]
  rfl

theorem readLine_of_not_isTemplateLine (h : ¬IsTemplateLine line) (above below : List Text) :
    readLine true above line below = readLine false above line below := by
  rw [readLine_eq_byRule, readLine_eq_byRule]
  cases hstatic : afterStart? "static const UUID " line with
  | some rest => rfl
  | none =>
      cases hdefine : isDefineGuid line with
      | true => rfl
      | false =>
          cases hafter : afterTemplateMarker? line with
          | none => rfl
          | some afterMarker =>
              exact absurd (isTemplateLine_iff.2 ⟨hstatic, hdefine, afterMarker, hafter⟩) h

theorem readLine_true (above : List Text) (line : Text) (below : List Text) :
    readLine true above line below = ⟨(readLine false above line below).value.project line,
      (readLine false above line below).taken⟩ := by
  by_cases h : IsTemplateLine line
  case pos =>
    obtain ⟨afterMarker, hread⟩ := readLine_of_isTemplateLine h
    rw [hread, hread, variableTemplate_true h]
  case neg => rw [readLine_of_not_isTemplateLine h, Outcome.project_eq_self h]

theorem Contents.project_withOutcome (contents : Contents)
    (hline : lines[above.length]? = some line) (outcome : Outcome) :
    (contents.withOutcome above outcome).project lines =
      (contents.project lines).withOutcome above (outcome.project line) := by
  cases outcome with
  | found guid name =>
      have hget : lines.getD (above.length + 1 - 1) [] = line := by
        rw [Nat.add_sub_cancel, List.getD_eq_getElem?_getD, hline, Option.getD_some]
      simp only [Contents.withOutcome, Contents.project, Outcome.project, List.map_cons,
        Declaration.project, hget]
  | unread => rfl
  | nothing => rfl

theorem contentsFrom_true (hlines : lines = above.reverse ++ rest) (skip : Nat) :
    contentsFrom true above skip rest = (contentsFrom false above skip rest).project lines := by
  -- On the lines below; both readings skip the same ones.
  induction rest generalizing above skip with
  | nil => rfl
  | cons line below ih =>
      have hbelow : lines = (line :: above).reverse ++ below := by simp [hlines]
      cases skip with
      | succ skip => exact ih hbelow skip
      | zero =>
          have hline : lines[above.length]? = some line := by simp [hlines]
          rw [contentsFrom, contentsFrom]
          split
          case isTrue =>
            simp only [readLine_true, ih hbelow]
            exact (Contents.project_withOutcome _ hline _).symm
          case isFalse => exact ih hbelow 0

theorem read_true (t : Text) : read true t = (read false t).project (prepare t) :=
  contentsFrom_true rfl 0

end GuidAtlas.Header

namespace GuidAtlas.Catalog

open Text

variable {guid name : Text} {declarations : List (Text × Text)}

/-- A GUID whose names are all related resolves to the longest of them and is not ambiguous. -/
theorem nameOf?_addAll_of_isLongest {longest : Text}
    (h : IsLongest (namesFor (upper guid) declarations) longest)
    (hrelated : ∀ first ∈ namesFor (upper guid) declarations,
      ∀ second ∈ namesFor (upper guid) declarations, Related first second) :
    (empty.addAll declarations).ambiguity? guid = none ∧
      (empty.addAll declarations).nameOf? guid = some longest := by
  have hstanding := standing_addAll (not_holds_empty (upper guid)) declarations
  constructor
  · rw [ambiguity?, ← Option.not_isSome_iff_eq_none, hstanding.clash]
    intro hmeets
    obtain ⟨first, hfirst, second, hsecond, hunrelated⟩ := hmeets.exists_unrelated
    exact hunrelated (hrelated first hfirst second hsecond)
  · obtain ⟨last, hresolved, hlast⟩ := isLongest_resolved (List.ne_nil_of_mem h.mem) hrelated
    rw [nameOf?, hstanding.name, hresolved, h.eq hlast fun _ => Iff.rfl]

/-- The name under the root that makes the name of an interface that of its projection. -/
def rooted (name : Text) : Text := "ABI.".toList ++ name

theorem bareName_append_dot (path last : Text) : bareName (path ++ '.' :: last) =
    trimStartOf (fun c => c = '"' || c = ' ') path ++
      '.' :: trimEndOf (fun c => c = '"' || c = ' ') last :=
  trimOf_append_cons (by decide) path last

theorem bareName_rooted (hdot : '.' ∈ name) :
    ∃ path, bareName (rooted name) = "ABI.".toList ++ path ++ bareName name := by
  obtain ⟨path, last, rfl⟩ := List.append_of_mem hdot
  obtain ⟨passed, hpath⟩ := List.dropWhile_suffix (l := path) (fun c => c = '"' || c = ' ')
  have hrooted : rooted (path ++ '.' :: last) = "ABI".toList ++ '.' :: (path ++ '.' :: last) := rfl
  have hroot : trimStartOf (fun c => c = '"' || c = ' ') "ABI".toList = "ABI".toList := by decide
  refine ⟨passed, ?_⟩
  rw [hrooted, bareName_append_dot, bareName_append_dot, trimEndOf_append_cons (by decide), hroot]
  nth_rewrite 1 [← hpath]
  simp [trimStartOf]

theorem accept_rooted (hkey : IsKey guid) (hdot : '.' ∈ name) :
    accept guid (rooted name) = .ok (guid, bareName (rooted name)) := by
  obtain ⟨path, hname⟩ := bareName_rooted hdot
  have hroot : "ABI.".toList <+: bareName (rooted name) := by
    rw [hname, List.append_assoc]
    exact List.prefix_append _ _
  have htaken : ¬RefusesName (rooted name) := by
    rintro (hshort | hreserved)
    · exact absurd (hroot.length_le.trans_lt hshort) (by decide)
    · exact absurd hroot
        ((by decide : ∀ name ∈ reservedNames, ¬"ABI.".toList <+: name) _ hreserved)
  rw [accept_of_isKey hkey, if_neg htaken]

/-- A dotted name and the same name under the root are one interface: the GUID that is declared with
both of them, in any order and number, resolves to the name under the root. -/
theorem nameOf?_addAll_rooted (hkey : IsKey guid) (hdot : '.' ∈ name)
    (hall : declarations ⊆ [(guid, name), (guid, rooted name)])
    (hmem : (guid, rooted name) ∈ declarations) :
    (empty.addAll declarations).ambiguity? guid = none ∧
      (empty.addAll declarations).nameOf? guid = some (bareName (rooted name)) := by
  obtain ⟨path, hrooted⟩ := bareName_rooted hdot
  have hextends : extendsName (bareName (rooted name)) (bareName name) = true := by
    have hpart : bareName name <:+: bareName (rooted name) := by
      rw [hrooted]
      exact (List.suffix_append _ _).isInfix
    rw [extendsName, contains_iff.2 hpart, Bool.true_or]
  have hnames : ∀ stored ∈ namesFor (upper guid) declarations,
      stored = bareName name ∨ stored = bareName (rooted name) := by
    intro stored hstored
    obtain ⟨declaration, hdeclaration, hname⟩ := List.mem_filterMap.1 hstored
    have haccept := nameFor?_eq_some.1 hname
    rw [hkey.upper_eq] at haccept
    have hdeclared := hall hdeclaration
    simp only [List.mem_cons, List.not_mem_nil, or_false] at hdeclared
    rcases hdeclared with rfl | rfl
    · rw [accept_of_isKey hkey] at haccept
      split at haccept
      · cases haccept
      · cases haccept
        exact .inl rfl
    · rw [accept_rooted hkey hdot] at haccept
      cases haccept
      exact .inr rfl
  have hlongest : IsLongest (namesFor (upper guid) declarations) (bareName (rooted name)) := by
    constructor
    · refine List.mem_filterMap.2 ⟨_, hmem, nameFor?_eq_some.2 ?_⟩
      rw [accept_rooted hkey hdot, hkey.upper_eq]
    · intro other hother hne
      obtain rfl := (hnames other hother).resolve_right hne
      exact longer_of_extendsName hextends (Ne.symm hne)
  refine nameOf?_addAll_of_isLongest hlongest fun first hfirst second hsecond => ?_
  rcases hnames first hfirst with rfl | rfl <;> rcases hnames second hsecond with rfl | rfl
  · exact Related.refl _
  · exact .inr hextends
  · exact .inl hextends
  · exact Related.refl _

end GuidAtlas.Catalog

namespace GuidAtlas.Header

open Text

/-- A header declares the same as the header of a projection, line by line and GUID by GUID, and has
the same diagnostics; only the dotted names of variable templates are put under the root, if they
are not there. Every GUID is a key, and one that gets both names in a new catalog, in either order,
is not ambiguous and resolves to the one under the root. -/
theorem read_projected (t : Text) :
    (∀ file, (read true t).diagnostics file = (read false t).diagnostics file) ∧
    (read true t).declarations = (read false t).declarations.map
      (fun declaration => { declaration with
        name := projectedName ((prepare t).getD (declaration.line - 1) []) declaration.name }) ∧
    (∀ declaration ∈ (read false t).declarations, Catalog.IsKey declaration.guid) ∧
    ∀ guid name, Catalog.IsKey guid → '.' ∈ name →
      ∀ declarations, declarations.Perm [(guid, name), (guid, "ABI.".toList ++ name)] →
        (Catalog.empty.addAll declarations).ambiguity? guid = none ∧
        (Catalog.empty.addAll declarations).nameOf? guid =
          some (Catalog.bareName ("ABI.".toList ++ name)) := by
  have hread := read_true t
  refine ⟨fun file => ?_, ?_, fun declaration hmem => (wellFormed_of_mem_declarations hmem).1,
    fun guid name hkey hdot declarations hperm => ?_⟩
  · rw [hread]
    rfl
  · rw [hread]
    rfl
  · exact Catalog.nameOf?_addAll_rooted hkey hdot hperm.subset
      (hperm.mem_iff.2 (List.mem_cons_of_mem _ List.mem_cons_self))

/-- Two variable templates, the second of which names its interface under the root already, and a
dotted name in another form. -/
theorem read_projected_templates :
    let guid : Text := "00000001-0002-0003-0102-030405060708"
    let template (name : Text) : Text :=
      "template <> inline constexpr guid guid_v<".toList ++ name ++
        ">\x7b 1, 2, 3, \x7b 1, 2, 3, 4, 5, 6, 7, 8 \x7d \x7d;".toList
    let t := unlines [template " Windows::Foo::IBar ", template "ABI::Windows::IUri",
      "MIDL_INTERFACE(\"aec22fb8-76f3-4639-9be0-28eb43a67a2e\") Ns::IFoo"]
    let declarations : List (Text × Text) :=
      [(guid, "ABI. Windows.Foo.IBar "), (guid, " Windows.Foo.IBar ")]
    Catalog.IsKey guid ∧
    (read false t).declarations.map Declaration.name =
      [" Windows.Foo.IBar ".toList, "ABI.Windows.IUri".toList, "Ns.IFoo".toList] ∧
    (read true t).declarations.map Declaration.name =
      ["ABI. Windows.Foo.IBar ".toList, "ABI.Windows.IUri".toList, "Ns.IFoo".toList] ∧
    (Catalog.empty.addAll declarations).ambiguity? guid = none ∧
    (Catalog.empty.addAll declarations).nameOf? guid = some "ABI. Windows.Foo.IBar".toList := by
  intro guid template t declarations
  have hkey : Catalog.IsKey guid := ⟨by decide +kernel, by decide +kernel⟩
  obtain ⟨-, hdeclared, -, hcatalog⟩ := read_projected t
  obtain ⟨hambiguity, hname⟩ := hcatalog guid " Windows.Foo.IBar " hkey (by decide) declarations
    (List.Perm.swap _ _ _)
  refine ⟨hkey, by decide +kernel, ?_, hambiguity, hname.trans (by decide)⟩
  rw [hdeclared]
  decide +kernel

end GuidAtlas.Header
