import GuidAtlas.Proofs.Scan.Accounting

/-!
What of a scan does not depend on the order of its folders. Which name a GUID gets, its rows and its
ambiguity do, but whether a declaration is accepted depends on that declaration alone, so the GUIDs
and the diagnostics are those of the same headers in another order.
-/

namespace GuidAtlas.Scan

open Text Storage

/-- The same number of headers, the same GUIDs and the same diagnostics in any order. The names of
the GUIDs may differ. -/
structure Report.FindsSame (report other : Report) : Prop where
  files_eq : report.files = other.files
  holds_iff : ∀ guid, report.catalog.Holds guid ↔ other.catalog.Holds guid
  guidCount_eq : report.catalog.guidCount = other.catalog.guidCount
  diagnostics_perm : report.diagnostics.Perm other.diagnostics

variable {settings other : ScanSettings} {tree : Tree} {report : Report}

def declaredPairs (settings : ScanSettings) (tree : Tree) : List (Text × Text) :=
  (headersOf settings tree).flatMap ReadHeader.pairs ++ undocumentedInterfaces

theorem declaredPairs_perm (h : (headersOf settings tree).Perm (headersOf other tree)) :
    (declaredPairs settings tree).Perm (declaredPairs other tree) :=
  (h.flatMap_right _).append_right _

theorem declaredPairs_subset (h : headersOf settings tree ⊆ headersOf other tree) :
    declaredPairs settings tree ⊆ declaredPairs other tree := by
  intro pair hpair
  rcases List.mem_append.1 hpair with hpair | hpair
  · obtain ⟨header, hheader, hpair⟩ := List.mem_flatMap.1 hpair
    exact List.mem_append_left _ (List.mem_flatMap.2 ⟨header, h hheader, hpair⟩)
  · exact List.mem_append_right _ hpair

theorem headersOf_perm {subfolders : List Text} (h : settings.subfolders.Perm subfolders) :
    (headersOf settings tree).Perm
      (headersOf { settings with subfolders := subfolders } tree) :=
  (h.filter _).flatMap_right _

/-- The folders of a restricted scan are among those of an unrestricted one, and each is read the
same way in both. -/
theorem headersOf_onlyWinrt_subset (settings : ScanSettings) (tree : Tree) :
    headersOf { settings with onlyWinrt := true } tree ⊆ headersOf settings tree := by
  intro header hheader
  obtain ⟨subfolder, hsubfolder, hfile⟩ := List.mem_flatMap.1 hheader
  obtain ⟨hmem, hwinrt⟩ := List.mem_filter.1 hsubfolder
  refine List.mem_flatMap.2 ⟨subfolder, List.mem_filter.2 ⟨hmem, ?_⟩, hfile⟩
  rw [Bool.not_true, Bool.false_or] at hwinrt
  rw [hwinrt, Bool.or_true]

theorem isDirectory_of_scan (h : scan settings tree = .ok report) :
    tree.isDirectory settings.sdkPath = true := by
  by_contra hroot
  rw [scan_eq, if_neg hroot] at h
  cases h

theorem findsSame_of_headersOf_perm {second : Report} (h : scan settings tree = .ok report)
    (hsecond : scan other tree = .ok second)
    (hheaders : (headersOf settings tree).Perm (headersOf other tree)) :
    report.FindsSame second := by
  have hpairs := declaredPairs_perm hheaders
  have hcatalog : report.catalog = Catalog.empty.addAll (declaredPairs settings tree) :=
    catalog_of_scan h
  have hother : second.catalog = Catalog.empty.addAll (declaredPairs other tree) :=
    catalog_of_scan hsecond
  constructor
  case files_eq =>
    rw [eq_of_scan h, eq_of_scan hsecond, files_ofHeaders, files_ofHeaders, hheaders.length_eq]
  case holds_iff =>
    intro guid
    rw [hcatalog, hother]
    exact ⟨Catalog.holds_addAll_of_subset hpairs.subset,
      Catalog.holds_addAll_of_subset hpairs.symm.subset⟩
  case guidCount_eq =>
    rw [hcatalog, hother]
    exact Catalog.guidCount_addAll_of_subset hpairs.subset hpairs.symm.subset
  case diagnostics_perm =>
    rw [(scan_accounts h).diagnostics_eq, (scan_accounts hsecond).diagnostics_eq]
    exact hheaders.flatMap_right _

/-- Another order of the folders gives a scan that finds the same, and the restriction to some of
them one that finds no other GUIDs. -/
theorem exists_findsSame_of_perm (h : scan settings tree = .ok report) :
    (∀ subfolders, settings.subfolders.Perm subfolders →
      ∃ second, scan { settings with subfolders := subfolders } tree = .ok second ∧
        report.FindsSame second) ∧
    ∃ restricted, scan { settings with onlyWinrt := true } tree = .ok restricted ∧
      ∀ guid, restricted.catalog.Holds guid → report.catalog.Holds guid := by
  have hroot := isDirectory_of_scan h
  constructor
  · intro subfolders hperm
    have hsecond := scan_eq { settings with subfolders := subfolders } tree
    rw [if_pos hroot] at hsecond
    exact ⟨_, hsecond, findsSame_of_headersOf_perm h hsecond (headersOf_perm hperm)⟩
  · have hrestricted := scan_eq { settings with onlyWinrt := true } tree
    rw [if_pos hroot] at hrestricted
    refine ⟨_, hrestricted, fun guid hholds => ?_⟩
    rw [catalog_of_scan hrestricted] at hholds
    rw [catalog_of_scan h]
    exact Catalog.holds_addAll_of_subset
      (declaredPairs_subset (headersOf_onlyWinrt_subset settings tree)) hholds

/-- Which of two names a GUID gets depends on the order, that it gets one does not. -/
theorem findsSame_two_folders :
    let settings : ScanSettings := ⟨"sdk", 22000, false, ["um", "winrt"]⟩
    let subfolders : List Text := ["winrt", "um"]
    let guid : Text := "AEC22FB8-76F3-4639-9BE0-28EB43A67A2E"
    let classic : Text := "MIDL_INTERFACE(\"aec22fb8-76f3-4639-9be0-28eb43a67a2e\") IFoo\n"
    let projected : Text := "MIDL_INTERFACE(\"aec22fb8-76f3-4639-9be0-28eb43a67a2e\") IBar\n"
    let tree := ((((Tree.empty.put ["sdk", "work"] .directory).put ["um", "sdk", "work"]
      .directory).put ["winrt", "sdk", "work"] .directory).put ["a.h", "um", "sdk", "work"]
        (.file (encode classic))).put ["b.h", "winrt", "sdk", "work"] (.file (encode projected))
    settings.subfolders.Perm subfolders ∧
    ∃ report, scan settings tree = .ok report ∧
      report.catalog.nameOf? guid = some ("IBar" : Text) ∧
      (∃ second, scan { settings with subfolders := subfolders } tree = .ok second ∧
        report.FindsSame second ∧ second.catalog.nameOf? guid = some ("IFoo" : Text)) ∧
      ∃ restricted, scan { settings with onlyWinrt := true } tree = .ok restricted ∧
        ∀ guid, restricted.catalog.Holds guid → report.catalog.Holds guid := by
  intro settings subfolders guid classic projected tree
  have hperm : settings.subfolders.Perm subfolders := List.Perm.swap _ _ _
  have hscan : scan settings tree = .ok (Report.ofHeaders (headersOf settings tree)) := by
    rw [scan_eq]
    exact if_pos (by decide +kernel)
  -- One evaluation for both orders, since reading the headers is what takes long.
  obtain ⟨hname, hother⟩ :
      (Report.ofHeaders (headersOf settings tree)).catalog.nameOf? guid = some ("IBar" : Text) ∧
      (Report.ofHeaders (headersOf { settings with subfolders := subfolders } tree)).catalog.nameOf?
        guid = some ("IFoo" : Text) := by
    decide +kernel
  obtain ⟨horders, hrestricted⟩ := exists_findsSame_of_perm hscan
  obtain ⟨second, hsecond, hsame⟩ := horders subfolders hperm
  exact ⟨hperm, _, hscan, hname, ⟨second, hsecond, hsame, eq_of_scan hsecond ▸ hother⟩, hrestricted⟩

end GuidAtlas.Scan
