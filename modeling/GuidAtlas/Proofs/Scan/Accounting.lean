import GuidAtlas.Proofs.Catalog.Declarations
import GuidAtlas.Proofs.Header.Names
import GuidAtlas.Scan.Sdk

/-!
What a scan reports. The headers of the folders are counted one by one, every declaration either
gets into the catalog or is a diagnostic, and nothing else gets there but the undocumented
interfaces.
-/

namespace GuidAtlas.Scan

open Text Storage

/-- What a header adds to a catalog. -/
def ReadHeader.pairs (header : ReadHeader) : List (Text × Text) :=
  header.contents.declarations.map fun declaration => (declaration.guid, declaration.name)

/-- The diagnostic of a declaration whose name is refused. -/
def refusal? (file : Text) (declaration : Header.Declaration) : Option Diagnostic :=
  if Catalog.RefusesName declaration.name then
    some ⟨file, declaration.line,
      .rejected (.invalidName declaration.guid (Catalog.bareName declaration.name))⟩
  else none

/-- The diagnostics of a header: its refused declarations, then its unread lines. -/
def ReadHeader.diagnostics (header : ReadHeader) : List Diagnostic :=
  header.contents.declarations.filterMap (refusal? header.label) ++
    header.contents.unread.map fun line => ⟨header.label, line, .unread⟩

/-- The headers that a scan reads, folder by folder. -/
def headersOf (settings : ScanSettings) (tree : Tree) : List ReadHeader :=
  settings.effectiveSubfolders.flatMap fun subfolder =>
    (headerFiles tree (folderPath settings.sdkPath subfolder)).map fun (name, bytes) =>
      ⟨subfolder ++ "/" ++ name,
        Header.read (ScanSettings.isWinrtFolder subfolder) (decodeHeader bytes)⟩

variable {report : Report} {settings : ScanSettings} {tree : Tree}

theorem catalog_addDeclaration (file : Text) (report : Report) (declaration : Header.Declaration) :
    (report.addDeclaration file declaration).catalog =
      report.catalog.addOrKeep declaration.guid declaration.name := by
  rw [Report.addDeclaration, Catalog.addOrKeep]
  cases report.catalog.add declaration.guid declaration.name <;> rfl

theorem catalog_addDeclarations (file : Text) (report : Report)
    (declarations : List Header.Declaration) :
    (declarations.foldl (Report.addDeclaration file) report).catalog =
      report.catalog.addAll (declarations.map fun declaration =>
        (declaration.guid, declaration.name)) := by
  induction declarations generalizing report with
  | nil => rfl
  | cons declaration declarations ih =>
      rw [List.foldl_cons, ih, catalog_addDeclaration]
      rfl

theorem catalog_addHeaders (report : Report) (headers : List ReadHeader) :
    (headers.foldl Report.addHeader report).catalog =
      report.catalog.addAll (headers.flatMap ReadHeader.pairs) := by
  induction headers generalizing report with
  | nil => rfl
  | cons header headers ih =>
      have hheader : (report.addHeader header).catalog = report.catalog.addAll header.pairs :=
        catalog_addDeclarations header.label report header.contents.declarations
      rw [List.foldl_cons, ih, hheader, List.flatMap_cons, Catalog.addAll_append]

theorem files_addDeclarations (file : Text) (report : Report)
    (declarations : List Header.Declaration) :
    (declarations.foldl (Report.addDeclaration file) report).files = report.files := by
  induction declarations generalizing report with
  | nil => rfl
  | cons declaration declarations ih =>
      rw [List.foldl_cons, ih, Report.addDeclaration]
      split <;> rfl

theorem files_addHeaders (report : Report) (headers : List ReadHeader) :
    (headers.foldl Report.addHeader report).files = report.files + headers.length := by
  induction headers generalizing report with
  | nil => rfl
  | cons header headers ih =>
      have hheader : (report.addHeader header).files = report.files + 1 :=
        congrArg (· + 1) (files_addDeclarations header.label report header.contents.declarations)
      rw [List.foldl_cons, ih, hheader, List.length_cons]
      omega

theorem diagnostics_addDeclaration (file : Text) (report : Report)
    {declaration : Header.Declaration} (h : Catalog.IsKey declaration.guid) :
    (report.addDeclaration file declaration).diagnostics =
      report.diagnostics ++ (refusal? file declaration).toList := by
  rw [Report.addDeclaration, Catalog.add, Catalog.accept_of_isKey h, refusal?]
  by_cases hname : Catalog.RefusesName declaration.name
  · simp [hname, Except.map]
  · simp [hname, Except.map]

theorem diagnostics_addDeclarations (file : Text) (report : Report)
    {declarations : List Header.Declaration}
    (h : ∀ declaration ∈ declarations, Catalog.IsKey declaration.guid) :
    (declarations.foldl (Report.addDeclaration file) report).diagnostics =
      report.diagnostics ++ declarations.filterMap (refusal? file) := by
  induction declarations generalizing report with
  | nil => simp
  | cons declaration declarations ih =>
      obtain ⟨hfirst, hrest⟩ := List.forall_mem_cons.1 h
      rw [List.foldl_cons, ih _ hrest, diagnostics_addDeclaration file report hfirst,
        List.append_assoc]
      cases hrefusal : refusal? file declaration <;> simp [hrefusal]

theorem diagnostics_addHeaders (report : Report) {headers : List ReadHeader}
    (h : ∀ header ∈ headers, ∀ declaration ∈ header.contents.declarations,
      Catalog.IsKey declaration.guid) :
    (headers.foldl Report.addHeader report).diagnostics =
      report.diagnostics ++ headers.flatMap ReadHeader.diagnostics := by
  induction headers generalizing report with
  | nil => simp
  | cons header headers ih =>
      obtain ⟨hfirst, hrest⟩ := List.forall_mem_cons.1 h
      have hheader : (report.addHeader header).diagnostics =
          report.diagnostics ++ header.diagnostics := by
        rw [ReadHeader.diagnostics, ← List.append_assoc,
          ← diagnostics_addDeclarations header.label report hfirst]
        rfl
      rw [List.foldl_cons, ih _ hrest, hheader, List.append_assoc, List.flatMap_cons]

theorem catalog_ofHeaders (headers : List ReadHeader) :
    (Report.ofHeaders headers).catalog =
      (Catalog.empty.addAll (headers.flatMap ReadHeader.pairs)).addUndocumented := by
  simp only [Report.ofHeaders, catalog_addHeaders]

theorem files_ofHeaders (headers : List ReadHeader) :
    (Report.ofHeaders headers).files = headers.length := by
  simp only [Report.ofHeaders, files_addHeaders, Nat.zero_add]

theorem diagnostics_ofHeaders {headers : List ReadHeader}
    (h : ∀ header ∈ headers, ∀ declaration ∈ header.contents.declarations,
      Catalog.IsKey declaration.guid) :
    (Report.ofHeaders headers).diagnostics = headers.flatMap ReadHeader.diagnostics := by
  simp only [Report.ofHeaders, diagnostics_addHeaders _ h, List.nil_append]

theorem isKey_of_mem_headersOf :
    ∀ header ∈ headersOf settings tree, ∀ declaration ∈ header.contents.declarations,
      Catalog.IsKey declaration.guid := by
  intro header hheader declaration hdeclaration
  obtain ⟨subfolder, -, hheader⟩ := List.mem_flatMap.1 hheader
  obtain ⟨file, -, rfl⟩ := List.mem_map.1 hheader
  exact (Header.wellFormed_of_mem_declarations hdeclaration).1

theorem headers_visit (tree : Tree) (root : Path) (subfolder : Text) :
    (visit tree root subfolder).headers =
      (headerFiles tree (folderPath root subfolder)).map fun (name, bytes) =>
        ⟨subfolder ++ "/" ++ name,
          Header.read (ScanSettings.isWinrtFolder subfolder) (decodeHeader bytes)⟩ := by
  rw [visit]
  split
  case isTrue => rfl
  case isFalse hmissing =>
    -- Nothing is listed at a path where there is no folder.
    have hlist : tree.list (folderPath root subfolder) = [] := by
      rw [Tree.isDirectory] at hmissing
      rw [Tree.list]
      split at hmissing
      · exact absurd rfl hmissing
      · rfl
    rw [headerFiles, hlist]
    rfl

theorem scan_eq (settings : ScanSettings) (tree : Tree) :
    scan settings tree =
      if tree.isDirectory settings.sdkPath then .ok (Report.ofHeaders (headersOf settings tree))
      else .error ⟨.sdkNotFound, settings.sdkPath, some "scan.sdk_path"⟩ := by
  rw [scan, visits]
  split
  · simp only [Except.map, List.flatMap_map, headers_visit, headersOf]
  · rfl

theorem eq_of_scan (h : scan settings tree = .ok report) :
    report = Report.ofHeaders (headersOf settings tree) := by
  rw [scan_eq] at h
  split at h
  case isTrue => exact (Except.ok.inj h).symm
  case isFalse => cases h

/-- What is reported of the headers of a scan. -/
structure Report.AccountsFor (report : Report) (settings : ScanSettings) (tree : Tree) : Prop where
  /-- A folder that is listed twice counts twice. -/
  files_eq : report.files = (settings.effectiveSubfolders.map fun subfolder =>
    (headerFiles tree (folderPath settings.sdkPath subfolder)).length).sum
  diagnostics_eq : report.diagnostics = (headersOf settings tree).flatMap ReadHeader.diagnostics
  /-- Whether a declaration is refused depends on its name alone. -/
  add_eq : ∀ header ∈ headersOf settings tree, ∀ declaration ∈ header.contents.declarations,
    ∀ catalog : Catalog, catalog.add declaration.guid declaration.name =
      if Catalog.RefusesName declaration.name then
        .error (.invalidName declaration.guid (Catalog.bareName declaration.name))
      else .ok (catalog.insert declaration.guid (Catalog.bareName declaration.name))
  accepted_named : ∀ header ∈ headersOf settings tree,
    ∀ declaration ∈ header.contents.declarations, ¬Catalog.RefusesName declaration.name →
      (report.catalog.nameOf? declaration.guid).isSome
  undocumented_named : ∀ row ∈ undocumentedInterfaces, (report.catalog.nameOf? row.1).isSome
  held_from : ∀ guid, report.catalog.Holds guid →
    (∃ header ∈ headersOf settings tree, ∃ declaration ∈ header.contents.declarations,
      ¬Catalog.RefusesName declaration.name ∧ declaration.guid = guid) ∨
    ∃ row ∈ undocumentedInterfaces, row.1 = guid

theorem catalog_of_scan (h : scan settings tree = .ok report) :
    report.catalog = Catalog.empty.addAll
      ((headersOf settings tree).flatMap ReadHeader.pairs ++ undocumentedInterfaces) := by
  rw [eq_of_scan h, catalog_ofHeaders, Catalog.addAll_append, Catalog.addUndocumented,
    Catalog.addAll.eq_def _ undocumentedInterfaces]

theorem nameOf?_of_isKey {guid : Text} (h : Catalog.IsKey guid) (catalog : Catalog) :
    catalog.nameOf? guid = catalog.names.get? guid := by
  rw [Catalog.nameOf?, h.upper_eq]

/-- Whatever is in the folders, a scan that succeeds accounts for all of it. -/
theorem scan_accounts (h : scan settings tree = .ok report) :
    report.AccountsFor settings tree := by
  have hreport := eq_of_scan h
  have hcatalog := catalog_of_scan h
  have hkeys := @isKey_of_mem_headersOf settings tree
  constructor
  case files_eq =>
    rw [hreport, files_ofHeaders, headersOf, List.length_flatMap]
    simp only [List.length_map]
  case diagnostics_eq => rw [hreport, diagnostics_ofHeaders hkeys]
  case add_eq =>
    intro header hheader declaration hdeclaration catalog
    rw [Catalog.add, Catalog.accept_of_isKey (hkeys header hheader declaration hdeclaration)]
    split <;> rfl
  case accepted_named =>
    intro header hheader declaration hdeclaration hname
    have hkey := hkeys header hheader declaration hdeclaration
    have hpair : (declaration.guid, declaration.name) ∈
        (headersOf settings tree).flatMap ReadHeader.pairs :=
      List.mem_flatMap.2 ⟨header, hheader, List.mem_map_of_mem hdeclaration⟩
    have haccept := Catalog.accept_of_isKey hkey declaration.name
    rw [if_neg hname] at haccept
    rw [nameOf?_of_isKey hkey, hcatalog, Catalog.isSome_names_addAll]
    exact ⟨_, List.mem_append_left _ hpair, _, haccept⟩
  case undocumented_named =>
    intro row hrow
    have haccept := Catalog.accept_undocumented row hrow
    rw [nameOf?_of_isKey (Catalog.accept_eq_ok haccept).1, hcatalog, Catalog.isSome_names_addAll]
    exact ⟨row, List.mem_append_right _ hrow, _, haccept⟩
  case held_from =>
    intro guid hholds
    rw [hcatalog, Catalog.holds_addAll] at hholds
    obtain ⟨pair, hpair, name, haccept⟩ := hholds
    rcases List.mem_append.1 hpair with hpair | hpair
    · obtain ⟨header, hheader, hpair⟩ := List.mem_flatMap.1 hpair
      obtain ⟨declaration, hdeclaration, rfl⟩ := List.mem_map.1 hpair
      rw [Catalog.accept_of_isKey (hkeys header hheader declaration hdeclaration)] at haccept
      split at haccept
      case isTrue => cases haccept
      case isFalse hname =>
        cases haccept
        exact .inl ⟨header, hheader, declaration, hdeclaration, hname, rfl⟩
    · rw [Catalog.accept_undocumented pair hpair] at haccept
      cases haccept
      exact .inr ⟨pair, hpair, rfl⟩

theorem scan_accounts_one_header :
    let settings : ScanSettings := ⟨"sdk", 22000, false, ["um"]⟩
    let header : Text :=
      "MIDL_INTERFACE(\"aec22fb8-76f3-4639-9be0-28eb43a67a2e\") IFoo\n" ++
      "MIDL_INTERFACE(\"c1d432ba-c824-4452-a7fd-512bc3bbe9a1\") struct\n" ++
      "c1d432ba-c824-4452-a7fd-512bc3bbe9a1\n"
    let tree := ((Tree.empty.put ["sdk", "work"] .directory).put ["um", "sdk", "work"]
      .directory).put ["a.h", "um", "sdk", "work"] (.file (encode header))
    ∃ report, scan settings tree = .ok report ∧ report.AccountsFor settings tree ∧
      report.files = 1 ∧
      report.diagnostics =
        [⟨"um/a.h", 2, .rejected (.invalidName "C1D432BA-C824-4452-A7FD-512BC3BBE9A1" "struct")⟩,
          ⟨"um/a.h", 3, .unread⟩] := by
  intro settings header tree
  have hscan : scan settings tree = .ok (Report.ofHeaders (headersOf settings tree)) := by
    rw [scan_eq]
    exact if_pos (by decide +kernel)
  have haccounts := scan_accounts hscan
  exact ⟨_, hscan, haccounts, haccounts.files_eq.trans (by decide +kernel),
    haccounts.diagnostics_eq.trans (by decide +kernel)⟩

end GuidAtlas.Scan
