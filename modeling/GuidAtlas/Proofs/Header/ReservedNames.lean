import GuidAtlas.Proofs.Header.Names
import GuidAtlas.Proofs.Header.Projection

/-!
Reserved words that stand where a name is expected. The catalog refuses them, but it sees a name
only behind the path of its namespaces, and with a path in front of it a reserved word is a name
like any other.
-/

namespace GuidAtlas.Header

open Text

/-- The name of a line is the word behind its GUID; no form that is tried before has the line. -/
structure NamedBehindGuid (line before guid : Text) : Prop where
  first : Guid.first? line = some (before, guid)
  not_static : ¬"static const UUID ".toList <+: line
  not_define : isDefineGuid line = false
  not_template : ¬IsTemplateLine line
  not_kind : ¬"typedef DECLSPEC_UUID".toList <+: line ∧ ¬"[uuid(".toList <:+: line
  form : (∃ start ∈ nameAfterStarts, start <+: line) ∨ ∃ marker ∈ nameAfterMarkers, marker <:+: line

variable {projected : Bool} {t line before guid word path : Text} {above below names : List Text}

theorem NamedBehindGuid.readLine_eq (h : NamedBehindGuid line before guid) (projected : Bool)
    (above below : List Text) : readLine projected above line below =
      nameAfter (upper guid) above ⟨line, utf8Length before + utf8Length guid, below⟩ := by
  obtain ⟨hfirst, hstatic, hdefine, htemplate, ⟨hkind, huuid⟩, hform⟩ := h
  have hstatic : afterStart? "static const UUID " line = none := afterStart?_eq_none_iff.2 hstatic
  have hkind : (startsWith line "typedef DECLSPEC_UUID" || contains line "[uuid(") = false := by
    rw [Bool.or_eq_false_iff, Bool.eq_false_iff, Bool.eq_false_iff, ne_eq, ne_eq, startsWith_iff,
      contains_iff]
    exact ⟨hkind, huuid⟩
  have hform : (nameAfterStarts.any (startsWith line) || nameAfterMarkers.any (contains line)) =
      true := by
    simpa only [Bool.or_eq_true, List.any_eq_true, startsWith_iff, contains_iff] using hform
  have hafter : afterTemplateMarker? line = none := by
    rw [Option.eq_none_iff_forall_ne_some]
    exact fun rest hrest => htemplate (isTemplateLine_iff.2 ⟨hstatic, hdefine, rest, hrest⟩)
  have hwritten : readLine projected above line below =
      writtenForm (upper guid) above ⟨line, utf8Length before + utf8Length guid, below⟩ := by
    rw [readLine_eq_byRule, hstatic, hdefine, hafter, hfirst]
    rfl
  rw [hwritten]
  simp only [writtenForm, hkind, hform, Bool.false_eq_true, if_false, if_true]

theorem root_prefix_qualify (h : (qualify path names).2 = true) :
    "ABI.".toList <+: (qualify path names).1 := by
  fun_induction qualify path names with
  | case1 path => cases h
  | case2 path names longer => exact ⟨path, rfl⟩
  | case3 path name names longer hother ih => exact ih h

theorem abiPathFrom_cases (path : Text) (depth window : Nat) (above : List Text) :
    abiPathFrom path depth window above = [] ∨
      "ABI.".toList <+: abiPathFrom path depth window above := by
  fun_induction abiPathFrom path depth window above with
  | case1 path depth window line above hvalid qualified hqualify =>
      have hroot := @root_prefix_qualify path (namespacesOf line) (by rw [hqualify])
      rw [hqualify] at hroot
      exact .inr hroot
  | case2 path depth window line above hvalid qualified hqualify ih => exact ih
  | case3 path depth window line above hvalid ih => exact ih
  | case4 => exact .inl rfl

theorem bareName_reserved (hpath : path = [] ∨ "ABI.".toList <+: path)
    (hword : word ∈ reservedNames) : Catalog.bareName (path ++ word) = path ++ word := by
  have hedges : reservedNames.all (fun word => !word.isEmpty &&
      (word.head?.all (fun c => !(c = '"' || c = ' ')) &&
        word.getLast?.all (fun c => !(c = '"' || c = ' ')))) = true := by
    decide
  have hedge := List.all_eq_true.1 hedges word hword
  simp only [Bool.and_eq_true, Bool.not_eq_true', List.isEmpty_eq_false_iff, Option.all_eq_true]
    at hedge
  obtain ⟨hne, hhead, hlast⟩ := hedge
  refine trimOf_eq_self ?_ ?_
  · rcases hpath with rfl | ⟨rest, rfl⟩
    · exact hhead
    · intro c hc
      obtain rfl : 'A' = c := Option.some.inj hc
      rfl
  · rwa [List.getLast?_append_of_ne_nil _ hne]

/-- Without a path a reserved word is refused; behind one it is accepted as a part of the name. -/
theorem add_reserved (hkey : Catalog.IsKey guid) (hpath : path = [] ∨ "ABI.".toList <+: path)
    (hword : word ∈ reservedNames) (catalog : Catalog) :
    catalog.add guid (path ++ word) =
      if path = [] then .error (.invalidName guid word)
      else .ok (catalog.insert guid (path ++ word)) := by
  have hbare := bareName_reserved hpath hword
  have hrefused : Catalog.RefusesName (path ++ word) ↔ path = [] := by
    rw [Catalog.RefusesName, hbare]
    constructor
    · intro h
      refine hpath.resolve_right ?_
      rintro ⟨rest, rfl⟩
      rcases h with hshort | hreserved
      · have hroot : "ABI.".toList.length = 4 := rfl
        rw [List.length_append, List.length_append, hroot] at hshort
        omega
      · have hroot : "ABI.".toList <+: "ABI.".toList ++ rest ++ word := by simp
        exact (by decide : ∀ name ∈ reservedNames, ¬"ABI.".toList <+: name) _ hreserved hroot
    · rintro rfl
      exact .inr hword
  rw [Catalog.add, Catalog.accept_of_isKey hkey, hbare]
  by_cases hnil : path = []
  · rw [if_pos (hrefused.2 hnil), if_pos hnil, hnil]
    rfl
  · rw [if_neg (mt hrefused.1 hnil), if_neg hnil]
    rfl

/-- A reserved word behind the GUID of such a line is taken for its name, and the declaration is
refused exactly if no namespace path is put before it. -/
theorem reserved_rejected_iff {i : Nat} {word : Word}
    (hvisited : Visited projected (prepare t) i) (hline : (prepare t)[i]? = some line)
    (hvalid : isValid line false = true) (hform : NamedBehindGuid line before guid)
    (hword : (nextWord ⟨line, utf8Length before + utf8Length guid,
      (prepare t).drop (i + 1)⟩).value = some word)
    (hreserved : tidy word.text ∈ reservedNames) :
    let path := abiPath ((prepare t).take i).reverse
    ⟨upper guid, path ++ tidy word.text, i + 1⟩ ∈ (read projected t).declarations ∧
    (path = [] ∨ "ABI.".toList <+: path) ∧
    ∀ catalog : Catalog, catalog.add (upper guid) (path ++ tidy word.text) =
      if path = [] then .error (.invalidName (upper guid) (tidy word.text))
      else .ok (catalog.insert (upper guid) (path ++ tidy word.text)) := by
  intro path
  have hpath : path = [] ∨ "ABI.".toList <+: path := abiPathFrom_cases _ _ _ _
  have hne : (tidy word.text).isEmpty = false :=
    (by decide : ∀ word ∈ reservedNames, word.isEmpty = false) _ hreserved
  have hread : readingAt projected (prepare t) i =
      nameAfter (upper guid) ((prepare t).take i).reverse
        ⟨line, utf8Length before + utf8Length guid, (prepare t).drop (i + 1)⟩ := by
    rw [readingAt_of_getElem? hline hvalid, hform.readLine_eq]
  have hfound : (readingAt projected (prepare t) i).value =
      .found (upper guid) (path ++ tidy word.text) := by
    rw [hread, nameAfter, hword]
    exact if_neg (by simp [hne])
  have hmem : (read projected t).Holds (i + 1) (.found (upper guid) (path ++ tidy word.text)) :=
    (holds_read (by simp)).2 ⟨i, hvisited, hfound, rfl⟩
  exact ⟨hmem, hpath, add_reserved (isKey_upper_of_first? hform.first) hpath hreserved⟩

instance (line before guid : Text) : Decidable (NamedBehindGuid line before guid) :=
  decidable_of_iff (Guid.first? line = some (before, guid) ∧
      ¬"static const UUID ".toList <+: line ∧ isDefineGuid line = false ∧ ¬IsTemplateLine line ∧
      (¬"typedef DECLSPEC_UUID".toList <+: line ∧ ¬"[uuid(".toList <:+: line) ∧
      ((∃ start ∈ nameAfterStarts, start <+: line) ∨
        ∃ marker ∈ nameAfterMarkers, marker <:+: line))
    ⟨fun ⟨first, hstatic, hdefine, htemplate, hkind, hform⟩ =>
      ⟨first, hstatic, hdefine, htemplate, hkind, hform⟩,
      fun h => ⟨h.first, h.not_static, h.not_define, h.not_template, h.not_kind, h.form⟩⟩

def keywordLine : Text := "MIDL_INTERFACE(\"aec22fb8-76f3-4639-9be0-28eb43a67a2e\") struct IFoo"

theorem reserved_rejected_keywordLine :
    let guid : Text := "AEC22FB8-76F3-4639-9BE0-28EB43A67A2E"
    NamedBehindGuid keywordLine "MIDL_INTERFACE(\"" "aec22fb8-76f3-4639-9be0-28eb43a67a2e" ∧
    ⟨guid, "struct", 1⟩ ∈ (read true keywordLine).declarations ∧
    ∀ catalog : Catalog, catalog.add guid "struct" = .error (.invalidName guid "struct") := by
  intro guid
  have hform : NamedBehindGuid keywordLine "MIDL_INTERFACE(\""
      "aec22fb8-76f3-4639-9be0-28eb43a67a2e" := by
    decide +kernel
  have hread : ((nextWord ⟨keywordLine, 52, (prepare keywordLine).drop 1⟩).value.map
      fun word => tidy word.text) = some "struct".toList := by
    decide +kernel
  obtain ⟨word, hword, hname⟩ := Option.map_eq_some_iff.1 hread
  have hpath : abiPath ((prepare keywordLine).take 0).reverse = [] := rfl
  obtain ⟨hmem, -, hadd⟩ := @reserved_rejected_iff true keywordLine keywordLine _ _ 0 word (.here 0)
    (by decide +kernel) (by decide +kernel) hform hword (hname ▸ by decide)
  rw [hpath, hname] at hmem
  refine ⟨hform, hmem, fun catalog => ?_⟩
  have hrefused := hadd catalog
  rw [hpath, hname, if_pos rfl] at hrefused
  exact hrefused

/-- In a namespace the same line declares a name that the catalog accepts. -/
theorem reserved_accepted_in_namespace :
    let guid : Text := "AEC22FB8-76F3-4639-9BE0-28EB43A67A2E"
    let t := unlines ["namespace ABI \x7b", keywordLine]
    NamedBehindGuid keywordLine "MIDL_INTERFACE(\"" "aec22fb8-76f3-4639-9be0-28eb43a67a2e" ∧
    ((nextWord ⟨keywordLine, 52, []⟩).value.map fun word => tidy word.text) =
      some "struct".toList ∧
    (read false t).declarations = [⟨guid, "ABI.struct", 2⟩] ∧
    (Catalog.empty.addOrKeep guid "ABI.struct").nameOf? guid = some "ABI.struct".toList := by
  decide +kernel

end GuidAtlas.Header
