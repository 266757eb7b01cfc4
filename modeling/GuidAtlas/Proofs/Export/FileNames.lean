import GuidAtlas.Export.Writer
import GuidAtlas.Proofs.Storage.Writing
import GuidAtlas.Proofs.Text.Digits

/-!
The names of exported files. A name tells what the file is about, the build and the format, so the
exports of other builds, sets or formats leave a file alone, be it in the same directory.
-/

namespace GuidAtlas.Export

open Text Storage

/-! Reading a name back. -/

theorem mem_releaseOf {build : Nat} {c : Char} (h : c ∈ releaseOf build) :
    c ∈ ("0123456789" : Text) := by
  have hdigits : releases.all (fun release =>
      release.2.all fun c => c ∈ ("0123456789" : Text)) = true := by decide
  rw [releaseOf] at h
  generalize hfind : releases.find? _ = found at h
  cases found with
  | none => cases h
  | some release =>
      have hrelease := List.all_eq_true.1 hdigits release (List.mem_of_find?_eq_some hfind)
      exact forall_mem_of_all hrelease c h

/-- What stands before the closing bracket of a name has no further one. -/
def beforeClosing (build : Nat) : Text :=
  "Windows " ++ releaseOf build ++ " (Build " ++ decimal build

theorem closing_not_mem (build : Nat) : ')' ∉ beforeClosing build := by
  have hdigit : ')' ∉ ("0123456789" : Text) := by decide
  have hrelease : ')' ∉ releaseOf build := fun h => hdigit (mem_releaseOf h)
  have hbuild : ')' ∉ decimal build := fun h => hdigit (mem_decimal h)
  unfold beforeClosing
  simp only [List.mem_append, not_or]
  exact ⟨⟨⟨by decide, hrelease⟩, by decide⟩, hbuild⟩

theorem beforeClosing_inj {build other : Nat} (h : beforeClosing build = beforeClosing other) :
    build = other := by
  have hdigit : '(' ∉ ("0123456789" : Text) := by decide
  have hopening (build : Nat) : '(' ∉ "Windows ".toList ++ releaseOf build ++ [' '] := by
    have hrelease : '(' ∉ releaseOf build := fun h => hdigit (mem_releaseOf h)
    simp only [List.mem_append, not_or]
    exact ⟨⟨by decide, hrelease⟩, by decide⟩
  have hparts (build : Nat) : beforeClosing build =
      "Windows ".toList ++ releaseOf build ++ [' '] ++
        '(' :: ("Build ".toList ++ decimal build) := by
    have hfixed : " (Build ".toList = [' '] ++ '(' :: "Build ".toList := rfl
    unfold beforeClosing
    simp only [hfixed, List.append_assoc, List.cons_append]
  rw [hparts, hparts] at h
  have hbefore := eq_of_append_cons_eq (hopening build) (hopening other) h
  rw [hbefore] at h
  have hafter := (List.cons.inj (List.append_cancel_left h)).2
  exact decimal_injective (List.append_cancel_left hafter)

theorem extension_inj {format other : ExportFormat} (h : format.extension = other.extension) :
    format = other := by
  cases format <;> cases other <;> first | rfl | exact absurd h (by decide)

/-- A name tells the build, the set, if that has no point, and the format. -/
theorem fileName_inj {build other : Nat} {set others : Text} {format otherFormat : ExportFormat}
    (hset : '.' ∉ set) (hothers : '.' ∉ others)
    (h : fileName build set format = fileName other others otherFormat) :
    build = other ∧ set = others ∧ format = otherFormat := by
  have hparts (build : Nat) (set : Text) (format : ExportFormat) : fileName build set format =
      beforeClosing build ++ ')' :: (' ' :: set ++ '.' :: format.extension) := by
    have hclosing : ")".toList = [')'] := rfl
    have hblank : " ".toList = [' '] := rfl
    have hpoint : ".".toList = ['.'] := rfl
    unfold fileName windowsVersion beforeClosing
    simp only [hclosing, hblank, hpoint, List.append_assoc, List.cons_append, List.nil_append]
  rw [hparts, hparts] at h
  have hbefore := eq_of_append_cons_eq (closing_not_mem build) (closing_not_mem other) h
  rw [hbefore] at h
  have hafter := (List.cons.inj (List.append_cancel_left h)).2
  have hsets := eq_of_append_cons_eq (by simpa using hset) (by simpa using hothers) hafter
  rw [hsets] at hafter
  have hextension := (List.cons.inj (List.append_cancel_left hafter)).2
  exact ⟨beforeClosing_inj hbefore, (List.cons.inj hsets).2, extension_inj hextension⟩

/-- What an export is about. -/
inductive Edition where
  | interfaces (build : Nat) (onlyWinrt : Bool)
  | classes (build : Nat)
  deriving DecidableEq, Repr

namespace Edition

def build : Edition → Nat
  | interfaces build _ | classes build => build

def set : Edition → Text
  | interfaces _ onlyWinrt => setName onlyWinrt
  | classes _ => classSetName

def fileName (edition : Edition) (format : ExportFormat) : Text :=
  Export.fileName edition.build edition.set format

variable {edition other : Edition}

theorem eq_of_build_of_set (hbuild : edition.build = other.build)
    (hset : edition.set = other.set) : edition = other := by
  have hflag : ∀ flag otherFlag, setName flag = setName otherFlag → flag = otherFlag := by decide
  have hkind : ∀ flag, setName flag ≠ classSetName := by decide
  cases edition with
  | interfaces build flag =>
      cases other with
      | interfaces otherBuild otherFlag =>
          obtain rfl : build = otherBuild := hbuild
          rw [hflag flag otherFlag hset]
      | classes => exact absurd hset (hkind flag)
  | classes build =>
      cases other with
      | interfaces otherBuild otherFlag => exact absurd hset.symm (hkind otherFlag)
      | classes otherBuild => exact congrArg classes hbuild

theorem not_mem_set {c : Char} (h : c ∉ setName false ++ setName true ++ classSetName)
    (edition : Edition) : c ∉ edition.set := by
  simp only [List.mem_append, not_or] at h
  obtain ⟨⟨hall, hwinrt⟩, hclasses⟩ := h
  cases edition with
  | interfaces build onlyWinrt =>
      cases onlyWinrt with
      | false => exact hall
      | true => exact hwinrt
  | classes build => exact hclasses

theorem fileName_eq_iff {format otherFormat : ExportFormat} :
    edition.fileName format = other.fileName otherFormat ↔
      edition = other ∧ format = otherFormat := by
  constructor
  · intro h
    obtain ⟨hbuild, hset, hformat⟩ :=
      fileName_inj (edition.not_mem_set (by decide)) (other.not_mem_set (by decide)) h
    exact ⟨eq_of_build_of_set hbuild hset, hformat⟩
  · rintro ⟨rfl, rfl⟩
    rfl

theorem slash_not_mem_fileName (edition : Edition) (format : ExportFormat) :
    '/' ∉ edition.fileName format := by
  have hdigit : '/' ∉ ("0123456789" : Text) := by decide
  have hrelease : '/' ∉ releaseOf edition.build := fun h => hdigit (mem_releaseOf h)
  have hbuild : '/' ∉ decimal edition.build := fun h => hdigit (mem_decimal h)
  have hset : '/' ∉ edition.set := edition.not_mem_set (by decide)
  have hformat : '/' ∉ format.extension := by cases format <;> decide
  unfold fileName Export.fileName windowsVersion
  simp only [List.mem_append, not_or]
  exact ⟨⟨⟨⟨⟨⟨⟨⟨by decide, hrelease⟩, by decide⟩, hbuild⟩, by decide⟩, by decide⟩, hset⟩,
    by decide⟩, hformat⟩

theorem isFileName_fileName (edition : Edition) (format : ExportFormat) :
    IsFileName (edition.fileName format) where
  ne_nil := List.cons_ne_nil _ _
  ne_here h := absurd (List.cons.inj h).1 (by decide)
  ne_above h := absurd (List.cons.inj h).1 (by decide)
  no_slash := edition.slash_not_mem_fileName format

end Edition

/-- No link bears the name of an exported file. -/
def HasNoLinks (tree : Tree) : Prop :=
  ∀ (edition : Edition) (format : ExportFormat) (directory : Place) (target : Path),
    tree.node? (edition.fileName format :: directory) ≠ some (.link target)

theorem HasNoLinks.later {tree next : Tree} {written : Place → Prop} (h : HasNoLinks tree)
    (hkeeps : Tree.Keeps written tree next) : HasNoLinks next :=
  fun edition format directory target hlink =>
    h edition format directory target ((hkeeps.link_iff _ _).1 hlink)

/-! Pages written one after the other. -/

section Pages

variable {tree : Tree} {directory : Path} {pages : List (Text × Text)} {paths : List Path}

def inDirectory (directory : Path) (pages : List (Text × Text)) : List (Path × Text) :=
  pages.map fun (name, page) => (directory.join name, page)

theorem keeps_writePages (h : ∀ page ∈ pages, tree.IsUnlinked page.1) :
    Tree.Keeps (fun place => ∃ page ∈ pages, place.head? = some page.1) tree
      (writePages tree (inDirectory directory pages)).tree := by
  induction pages generalizing tree with
  | nil => exact .refl _ _
  | cons page pages ih =>
      obtain ⟨name, text⟩ := page
      obtain ⟨hname, hpages⟩ := List.forall_mem_cons.1 h
      rw [inDirectory, List.map_cons, writePages]
      cases hwrite : tree.write (directory.join name) (encode text) with
      | error error => exact .refl _ _
      | ok next =>
          have hkeeps := (hname.keeps_write hwrite).1
          refine (hkeeps.mono fun place hplace => ⟨_, List.mem_cons_self, hplace⟩).trans ?_
          refine (ih fun page hpage => (hpages page hpage).later hkeeps).mono ?_
          rintro place ⟨page, hpage, hplace⟩
          exact ⟨page, List.mem_cons_of_mem _ hpage, hplace⟩

/-- A page is what is read from its file in the end, also if its file is written again. -/
theorem read_writePages (h : ∀ page ∈ pages, tree.IsUnlinked page.1)
    (hsame : ∀ page ∈ pages, ∀ other ∈ pages, page.1 = other.1 → page.2 = other.2)
    (hok : (writePages tree (inDirectory directory pages)).result = .ok paths) :
    ∀ page ∈ pages, (writePages tree (inDirectory directory pages)).tree.read
      (directory.join page.1) = .ok (encode page.2) := by
  induction pages generalizing tree paths with
  | nil => exact List.forall_mem_nil _
  | cons head pages ih =>
      obtain ⟨name, text⟩ := head
      obtain ⟨hname, hpages⟩ := List.forall_mem_cons.1 h
      rw [inDirectory, List.map_cons, writePages] at hok ⊢
      cases hwrite : tree.write (directory.join name) (encode text) with
      | error error =>
          rw [hwrite] at hok
          cases hok
      | ok next =>
          rw [hwrite] at hok
          obtain ⟨hkeeps, hread⟩ := hname.keeps_write hwrite
          have hlater : ∀ page ∈ pages, next.IsUnlinked page.1 :=
            fun page hpage => (hpages page hpage).later hkeeps
          obtain ⟨rest, hrest, -⟩ := map_eq_ok_iff.1 hok
          have hread_later := ih hlater (fun page hpage other hother =>
            hsame page (List.mem_cons_of_mem _ hpage) other (List.mem_cons_of_mem _ hother)) hrest
          refine List.forall_mem_cons.2 ⟨?_, hread_later⟩
          by_cases hagain : ∃ page ∈ pages, name = page.1
          case pos =>
            obtain ⟨page, hpage, rfl⟩ := hagain
            have htext : text = page.2 :=
              hsame _ List.mem_cons_self page (List.mem_cons_of_mem _ hpage) rfl
            exact htext ▸ hread_later page hpage
          case neg =>
            refine (hname.later hkeeps).read_of_keeps (keeps_writePages hlater) ?_ hread
            rintro outer ⟨page, hpage, hplace⟩
            exact hagain ⟨page, hpage, Option.some.inj hplace⟩

end Pages

/-! Exports of both kinds. -/

/-- An exporter with what it exports. -/
inductive Job where
  | interfaces (exporter : Exporter) (catalog : Catalog)
  | classes (exporter : ClassExporter) (listed : ActivatableClasses)

namespace Job

def edition : Job → Edition
  | interfaces exporter _ => .interfaces exporter.build exporter.onlyWinrt
  | classes exporter _ => .classes exporter.build

def directory : Job → Path
  | interfaces exporter _ => exporter.directory
  | classes exporter _ => exporter.directory

def fileName : Job → ExportFormat → Text
  | interfaces exporter _ => exporter.fileName
  | classes exporter _ => exporter.fileName

def filePath (job : Job) (format : ExportFormat) : Path := job.directory.join (job.fileName format)

def page? : Job → ExportFormat → Option Text
  | interfaces exporter catalog, format =>
    if catalog.isEmpty then none else some (exporter.render catalog format)
  | classes exporter listed, format =>
    if listed.isEmpty then none else (exporter.render listed format).toOption

def run : Job → List ExportFormat → Tree → Written (List Path)
  | interfaces exporter catalog => exporter.write catalog
  | classes exporter listed => exporter.write listed

theorem fileName_eq (job : Job) (format : ExportFormat) :
    job.fileName format = job.edition.fileName format := by
  cases job <;> rfl

def pages (job : Job) (formats : List ExportFormat) : List (Text × Text) :=
  formats.filterMap fun format => (job.page? format).map (job.fileName format, ·)

theorem mem_pages {job : Job} {formats : List ExportFormat} {page : Text × Text} :
    page ∈ job.pages formats ↔
      ∃ format ∈ formats, job.page? format = some page.2 ∧ job.fileName format = page.1 := by
  obtain ⟨name, text⟩ := page
  simp [pages, List.mem_filterMap, Option.map_eq_some_iff]

/-- Classes are written format by format, and those without a page are passed over. -/
theorem writeFormats_eq {exporter : ClassExporter} {listed : ActivatableClasses}
    (h : listed.isEmpty = false) (formats : List ExportFormat) (tree : Tree) :
    let written := writePages tree
      (inDirectory exporter.directory ((classes exporter listed).pages formats))
    (exporter.writeFormats listed tree formats).tree = written.tree ∧
      (exporter.writeFormats listed tree formats).result = written.result := by
  induction formats generalizing tree with
  | nil => exact ⟨rfl, rfl⟩
  | cons format formats ih =>
      have hpage : (classes exporter listed).page? format =
          (exporter.render listed format).toOption := by
        simp [page?, h]
      rw [ClassExporter.writeFormats, pages, List.filterMap_cons, hpage]
      cases hrender : exporter.render listed format with
      | error fault => exact ih tree
      | ok page =>
          cases hwrite : tree.write (exporter.directory.join (exporter.fileName format))
              (encode page) with
          | error error =>
              simp [Except.toOption, inDirectory, fileName, writePages, hwrite]
          | ok next =>
              obtain ⟨htree, hresult⟩ := ih next
              simp only [pages, inDirectory] at htree hresult
              simp [Except.toOption, inDirectory, fileName, writePages, hwrite, Except.map, htree,
                hresult]

/-- Either nothing is written, since there is no page or no directory, or the pages are, in the tree
with the directory. -/
theorem run_cases (job : Job) (formats : List ExportFormat) (tree : Tree) :
    ((job.run formats tree).tree = tree ∧
      ∀ paths, (job.run formats tree).result = .ok paths → ∀ format, job.page? format = none) ∨
    ∃ next, Tree.Keeps (fun _ => False) tree next ∧
      let written := writePages next (inDirectory job.directory (job.pages formats))
      (job.run formats tree).tree = written.tree ∧
        (job.run formats tree).result = written.result := by
  cases job with
  | interfaces exporter catalog =>
      by_cases hempty : catalog.isEmpty = true
      case pos => exact .inl ⟨by simp [run, Exporter.write, hempty], by simp [page?, hempty]⟩
      case neg =>
        have hpages : formats.map (fun format =>
              (exporter.filePath format, exporter.render catalog format)) =
            inDirectory exporter.directory ((interfaces exporter catalog).pages formats) := by
          simp [inDirectory, pages, page?, hempty, fileName, Exporter.filePath, Function.comp_def]
        rw [run, Exporter.write, if_neg hempty, hpages, writeInto]
        cases hmade : tree.makeDirectories exporter.directory with
        | error error => exact .inl ⟨rfl, fun _ hok => by cases hok⟩
        | ok next => exact .inr ⟨next, Tree.keeps_makeDirectories hmade, rfl, rfl⟩
  | classes exporter listed =>
      by_cases hempty : listed.isEmpty = true
      case pos => exact .inl ⟨by simp [run, ClassExporter.write, hempty], by simp [page?, hempty]⟩
      case neg =>
        rw [run, ClassExporter.write, if_neg hempty]
        cases hmade : tree.makeDirectories exporter.directory with
        | error error => exact .inl ⟨rfl, fun _ hok => by cases hok⟩
        | ok next =>
            exact .inr ⟨next, Tree.keeps_makeDirectories hmade,
              writeFormats_eq (Bool.eq_false_iff.2 hempty) formats next⟩

theorem isUnlinked_fileName {tree : Tree} (h : HasNoLinks tree) (job : Job)
    (format : ExportFormat) : tree.IsUnlinked (job.fileName format) := by
  rw [job.fileName_eq]
  exact ⟨job.edition.isFileName_fileName format, h job.edition format⟩

theorem isUnlinked_of_mem_pages {job : Job} {formats : List ExportFormat} {tree : Tree}
    (h : HasNoLinks tree) {page : Text × Text} (hpage : page ∈ job.pages formats) :
    tree.IsUnlinked page.1 := by
  obtain ⟨format, -, -, hname⟩ := mem_pages.1 hpage
  rw [← hname]
  exact isUnlinked_fileName h job format

/-- A run changes files of its own names only, however far it gets. -/
theorem keeps_run {tree : Tree} (h : HasNoLinks tree) (job : Job) (formats : List ExportFormat) :
    Tree.Keeps (fun place => ∃ format ∈ formats, place.head? = some (job.fileName format)) tree
      (job.run formats tree).tree := by
  rcases job.run_cases formats tree with ⟨htree, -⟩ | ⟨next, hmade, htree, -⟩
  · rw [htree]
    exact .refl _ _
  · rw [htree]
    refine (hmade.mono fun _ hplace => hplace.elim).trans
      ((keeps_writePages fun page hpage => isUnlinked_of_mem_pages (h.later hmade) hpage).mono ?_)
    rintro place ⟨page, hpage, hplace⟩
    obtain ⟨format, hformat, -, hname⟩ := mem_pages.1 hpage
    exact ⟨format, hformat, hplace.trans (congrArg some hname.symm)⟩

/-- After a run without a fault each file holds the page of its format. -/
theorem read_run {tree : Tree} (h : HasNoLinks tree) {job : Job} {formats : List ExportFormat}
    {paths : List Path} (hok : (job.run formats tree).result = .ok paths) {format : ExportFormat}
    (hformat : format ∈ formats) {page : Text} (hpage : job.page? format = some page) :
    (job.run formats tree).tree.read (job.filePath format) = .ok (encode page) := by
  rcases job.run_cases formats tree with ⟨-, hnone⟩ | ⟨next, hmade, htree, hresult⟩
  · rw [hnone paths hok format] at hpage
    cases hpage
  · rw [htree]
    have hsame : ∀ page ∈ job.pages formats, ∀ other ∈ job.pages formats,
        page.1 = other.1 → page.2 = other.2 := by
      intro page hpage other hother hname
      obtain ⟨format, -, htext, hformat⟩ := mem_pages.1 hpage
      obtain ⟨otherFormat, -, hotherText, hotherFormat⟩ := mem_pages.1 hother
      rw [← hformat, ← hotherFormat, job.fileName_eq, job.fileName_eq] at hname
      obtain ⟨-, rfl⟩ := Edition.fileName_eq_iff.1 hname
      exact Option.some.inj (htext.symm.trans hotherText)
    exact read_writePages (fun page hpage => isUnlinked_of_mem_pages (h.later hmade) hpage) hsame
      (hresult.symm.trans hok) (job.fileName format, page)
      (mem_pages.2 ⟨format, hformat, hpage, rfl⟩)

/-- Names are equal only for the same kind, build, flag and format, so a file is not changed by a
later export of another kind, build, flag or format. -/
theorem files_stay_apart :
    (∀ (job other : Job) (format otherFormat : ExportFormat),
      job.fileName format = other.fileName otherFormat →
        job.edition = other.edition ∧ format = otherFormat) ∧
    ∀ (tree : Tree) (job other : Job) (formats otherFormats : List ExportFormat)
      (paths : List Path), HasNoLinks tree → (job.run formats tree).result = .ok paths →
      ∀ format ∈ formats, (job.edition = other.edition → format ∉ otherFormats) →
      ∀ page, job.page? format = some page →
        (other.run otherFormats (job.run formats tree).tree).tree.read (job.filePath format) =
          .ok (encode page) := by
  have hinj (job other : Job) (format otherFormat : ExportFormat)
      (h : job.fileName format = other.fileName otherFormat) :
      job.edition = other.edition ∧ format = otherFormat := by
    rwa [job.fileName_eq, other.fileName_eq, Edition.fileName_eq_iff] at h
  refine ⟨hinj, ?_⟩
  intro tree job other formats otherFormats paths hlinks hok format hformat hother page hpage
  have hlater : HasNoLinks (job.run formats tree).tree :=
    hlinks.later (keeps_run hlinks job formats)
  refine (isUnlinked_fileName hlater job format).read_of_keeps
    (keeps_run hlater other otherFormats) ?_ (read_run hlinks hok hformat hpage)
  rintro outer ⟨written, hwritten, hplace⟩
  obtain ⟨hedition, rfl⟩ := hinj _ _ _ _ (Option.some.inj hplace)
  exact hother hedition hwritten

theorem files_stay_apart_two_sets :
    let guid : Text := "AEC22FB8-76F3-4639-9BE0-28EB43A67A2E"
    let all : Job := interfaces ⟨"out", 22000, false⟩ (Catalog.empty.addOrKeep guid "IFoo")
    let winrt : Job := interfaces ⟨"out", 22000, true⟩ (Catalog.empty.addOrKeep guid "IBar")
    let path : Path := "out/Windows 11 (Build 22000) All Interfaces.ini"
    HasNoLinks .empty ∧ (all.run [.ini] .empty).result = .ok [path] ∧ all.filePath .ini = path ∧
      all.edition ≠ winrt.edition ∧ ∃ page, all.page? .ini = some page ∧
        (winrt.run [.ini, .xml] (all.run [.ini] .empty).tree).tree.read path =
          .ok (encode page) := by
  intro guid all winrt path
  have hlinks : HasNoLinks .empty := by
    intro edition format directory target
    rw [Tree.node?, if_neg (by simp), Tree.empty, List.lookup_cons]
    split <;> simp
  have hok : (all.run [.ini] .empty).result = .ok [path] :=
    toOption_eq_some_iff.1 (by decide +kernel)
  have hpath : all.filePath .ini = path := by decide +kernel
  have heditions : all.edition ≠ winrt.edition := by decide +kernel
  obtain ⟨page, hpage⟩ : ∃ page, all.page? .ini = some page :=
    Option.isSome_iff_exists.1 (by decide +kernel)
  have hread := files_stay_apart.2 .empty all winrt [.ini] [.ini, .xml] [path] hlinks hok .ini
    List.mem_cons_self (fun heq => absurd heq heditions) page hpage
  rw [hpath] at hread
  exact ⟨hlinks, hok, hpath, heditions, page, hpage, hread⟩

end Job

end GuidAtlas.Export
