import GuidAtlas.Proofs.Catalog.Declarations
import GuidAtlas.Proofs.Text.Utf8
import Mathlib.Data.List.Induction

/-!
When a GUID is ambiguous, and what it resolves to if it is not. A name is compared with the one the
GUID resolves to, so it takes two unrelated names to make a clash but not every two make one; names
that are all related never do, and the longest of them stays.
-/

namespace GuidAtlas.Catalog

open Text

/-- Longer in characters and in bytes. -/
def Longer (first second : Text) : Prop :=
  second.length < first.length ∧ utf8Length second < utf8Length first

theorem Longer.trans {first second third : Text} (h : Longer first second)
    (hnext : Longer second third) : Longer first third :=
  ⟨hnext.1.trans h.1, hnext.2.trans h.2⟩

theorem utf8Length_pos {t : Text} (h : t ≠ []) : 0 < utf8Length t := by
  obtain ⟨c, rest, rfl⟩ := List.exists_cons_of_ne_nil h
  have hc := c.utf8Size_pos
  rw [utf8Length_cons]
  omega

theorem withInterfaceMark_cases (name : Text) :
    withInterfaceMark name = name ∨
      ∃ before after, name = before ++ after ∧ withInterfaceMark name = before ++ 'I' :: after := by
  rw [withInterfaceMark]
  split
  case h_1 c path last hcut =>
    have hplain : name = c :: path ++ ['.'] ++ last ++ name.dropWhile (· ≠ '<') := by
      conv_lhs => rw [← List.takeWhile_append_dropWhile (p := (· ≠ '<')) (l := name)]
      rw [eq_append_of_cutLast? hcut]
      rfl
    exact .inr ⟨c :: path ++ ['.'], last ++ name.dropWhile (· ≠ '<'), by simpa using hplain,
      by simp⟩
  case h_2 => exact .inl rfl

theorem longer_of_extendsName {longer shorter : Text} (h : extendsName longer shorter = true)
    (hne : longer ≠ shorter) : Longer longer shorter := by
  have hinfix (hpart : shorter <:+: longer) : Longer longer shorter := by
    obtain ⟨start, tail, rfl⟩ := hpart
    have hrest : start ++ tail ≠ [] := fun hnil => hne (by simp_all)
    have hlength := List.length_pos_of_ne_nil hrest
    have hbytes := utf8Length_pos hrest
    simp only [List.length_append, utf8Length_append] at hlength hbytes
    constructor
    · simp only [List.length_append]
      omega
    · simp only [utf8Length_append]
      omega
  rw [extendsName, Bool.or_eq_true, contains_iff, contains_iff] at h
  rcases h with hpart | hpart
  · exact hinfix hpart
  · rcases withInterfaceMark_cases shorter with hmark | ⟨before, after, hshorter, hmark⟩
    · exact hinfix (hmark ▸ hpart)
    · rw [hmark] at hpart
      obtain ⟨start, tail, rfl⟩ := hpart
      have hbyte := Char.utf8Size_pos 'I'
      rw [hshorter]
      constructor
      · simp only [List.length_append, List.length_cons]
        omega
      · simp only [utf8Length_append, utf8Length_cons]
        omega

structure IsLongest (names : List Text) (name : Text) : Prop where
  mem : name ∈ names
  longer : ∀ other ∈ names, other ≠ name → Longer name other

theorem IsLongest.eq {names others : List Text} {name other : Text} (h : IsLongest names name)
    (hother : IsLongest others other) (hmem : ∀ n, n ∈ others ↔ n ∈ names) : other = name := by
  by_contra hne
  have hlonger := h.longer other ((hmem other).1 hother.mem) hne
  have hshorter := hother.longer name ((hmem name).2 h.mem) (Ne.symm hne)
  exact absurd (hlonger.trans hshorter).1 (lt_irrefl _)

variable {names : List Text} {name : Text}

theorem mem_of_resolved (h : resolved names = some name) : name ∈ names := by
  induction names using List.reverseRecOn generalizing name with
  | nil => cases h
  | append_singleton names next ih =>
      rw [resolved_append] at h
      cases hcurrent : resolved names with
      | none =>
          rw [hcurrent] at h
          cases h
          exact List.mem_concat_self
      | some current =>
          rw [hcurrent, nextName] at h
          cases h
          split
          · exact List.mem_append_left _ (ih hcurrent)
          · exact List.mem_concat_self

/-- The longest name so far is the one that stays, as long as every name is related to it. -/
theorem isLongest_resolved (hne : names ≠ [])
    (h : ∀ first ∈ names, ∀ second ∈ names, Related first second) :
    ∃ name, resolved names = some name ∧ IsLongest names name := by
  induction names using List.reverseRecOn with
  | nil => exact absurd rfl hne
  | append_singleton names next ih =>
      rw [resolved_append]
      by_cases hnames : names = []
      case pos =>
        subst hnames
        refine ⟨next, rfl, List.mem_singleton_self next, fun other hother hdiff => ?_⟩
        exact absurd (List.mem_singleton.1 hother) hdiff
      case neg =>
        obtain ⟨current, hcurrent, hmem, hlonger⟩ := ih hnames fun first hfirst second hsecond =>
          h first (List.mem_append_left _ hfirst) second (List.mem_append_left _ hsecond)
        rw [hcurrent, nextName]
        cases hkept : extendsName current next with
        | true =>
            refine ⟨current, by simp, List.mem_append_left _ hmem, fun other hother hdiff => ?_⟩
            rcases List.mem_append.1 hother with hother | hother
            · exact hlonger other hother hdiff
            · cases List.mem_singleton.1 hother
              exact longer_of_extendsName hkept (Ne.symm hdiff)
        | false =>
            have hreplaced : extendsName next current = true :=
              (h current (List.mem_append_left _ hmem) next List.mem_concat_self).resolve_left
                (by simp [hkept])
            have hnext : Longer next current := by
              refine longer_of_extendsName hreplaced ?_
              rintro rfl
              rw [extendsName_self] at hkept
              cases hkept
            refine ⟨next, by simp, List.mem_concat_self, fun other hother hdiff => ?_⟩
            have hother := (List.mem_append.1 hother).resolve_right (by simpa using hdiff)
            by_cases heq : other = current
            · exact heq ▸ hnext
            · exact hnext.trans (hlonger other hother heq)

theorem MeetsUnrelated.exists_unrelated (h : MeetsUnrelated names) :
    ∃ first ∈ names, ∃ second ∈ names, ¬Related first second := by
  obtain ⟨current, next, before, hprefix, hcurrent, hunrelated⟩ := h
  exact ⟨current, hprefix.subset (List.mem_append_left _ (mem_of_resolved hcurrent)), next,
    hprefix.subset List.mem_concat_self, hunrelated⟩

/-- A GUID is ambiguous exactly if one of its names was unrelated to the name that it resolved to
when that one came, and then two of its names are unrelated. -/
theorem isSome_ambiguity?_iff (declarations : List (Text × Text)) (guid : Text) :
    (((empty.addAll declarations).ambiguity? guid).isSome ↔
      MeetsUnrelated (namesFor (upper guid) declarations)) ∧
    (((empty.addAll declarations).ambiguity? guid).isSome →
      ∃ first ∈ namesFor (upper guid) declarations, ∃ second ∈ namesFor (upper guid) declarations,
        ¬Related first second) := by
  have hiff := (standing_addAll (not_holds_empty (upper guid)) declarations).clash
  exact ⟨hiff, fun hsome => (hiff.1 hsome).exists_unrelated⟩

/-- Two unrelated names are no clash below a name that extends both, and are one above it. -/
theorem ambiguity?_depends_on_order :
    let guid : Text := "AEC22FB8-76F3-4639-9BE0-28EB43A67A2E"
    let declarations : List (Text × Text) :=
      [(guid, "IStreamReader"), (guid, "IStream"), (guid, "Reader")]
    let reordered : List (Text × Text) :=
      [(guid, "IStream"), (guid, "Reader"), (guid, "IStreamReader")]
    declarations.Perm reordered ∧
    ¬(((empty.addAll declarations).ambiguity? guid).isSome ↔
      ∃ first ∈ namesFor guid declarations, ∃ second ∈ namesFor guid declarations,
        ¬Related first second) ∧
    ((empty.addAll reordered).ambiguity? guid).isSome := by
  decide +kernel

theorem Reachable.not_holds {allowed : Text → Prop} {catalog : Catalog} {guid : Text}
    (h : Reachable allowed catalog) (hname : catalog.nameOf? guid = none) :
    ¬catalog.Holds (upper guid) := by
  intro hholds
  obtain ⟨name, hlists⟩ := h.consistent.exists_lists_of_holds hholds
  have hsome := (h.consistent.of_lists hlists).2.2
  rw [nameOf?] at hname
  rw [hname] at hsome
  cases hsome

/-- A new GUID whose names are all related resolves to the longest of them and is not ambiguous,
whatever the order and number of their declarations and whatever else is declared in between. -/
theorem Reachable.exists_longest {allowed : Text → Prop} {start : Catalog}
    (h : Reachable allowed start) {guid : Text} (hnew : start.nameOf? guid = none)
    (hne : names ≠ []) (hrelated : ∀ first ∈ names, ∀ second ∈ names, Related first second) :
    ∃ longest ∈ names, (∀ other ∈ names, other ≠ longest → Longer longest other) ∧
      ∀ declarations : List (Text × Text),
        (∀ name, name ∈ namesFor (upper guid) declarations ↔ name ∈ names) →
        (start.addAll declarations).ambiguity? guid = none ∧
        (start.addAll declarations).nameOf? guid = some longest := by
  obtain ⟨longest, -, hlongest⟩ := isLongest_resolved hne hrelated
  refine ⟨longest, hlongest.mem, hlongest.longer, fun declarations hmem => ?_⟩
  have hstanding := standing_addAll (h.not_holds hnew) declarations
  have hdeclared : ∀ first ∈ namesFor (upper guid) declarations,
      ∀ second ∈ namesFor (upper guid) declarations, Related first second :=
    fun first hfirst second hsecond =>
      hrelated first ((hmem first).1 hfirst) second ((hmem second).1 hsecond)
  constructor
  · rw [ambiguity?, ← Option.not_isSome_iff_eq_none, hstanding.clash]
    intro hmeets
    obtain ⟨first, hfirst, second, hsecond, hunrelated⟩ := hmeets.exists_unrelated
    exact hunrelated (hdeclared first hfirst second hsecond)
  · obtain ⟨name, hname, hlast⟩ :=
      isLongest_resolved (List.ne_nil_of_mem ((hmem longest).2 hlongest.mem)) hdeclared
    rw [nameOf?, hstanding.name, hname, hlongest.eq hlast hmem]

/-- A runtime class, its interface and the interface under its root, declared twice each. -/
theorem exists_longest_uri :
    let guid : Text := "\x7bc1d432ba-c824-4452-a7fd-512bc3bbe9a1\x7d"
    let query : Text := "c1d432ba-c824-4452-a7fd-512bc3bbe9a1"
    let other : Text := "AEC22FB8-76F3-4639-9BE0-28EB43A67A2E"
    let names : List Text := ["Windows.Uri", "Windows.IUri", "ABI.Windows.IUri"]
    let declarations : List (Text × Text) :=
      [(query, "Windows.Uri"), (other, "IOther"), (guid, "ABI.Windows.IUri"),
        (query, " \"Windows.IUri\""), (other, "INext"), (query, "Windows.Uri"),
        (query, "ABI.Windows.IUri"), (query, "I"), (guid, "Windows.IUri")]
    Reachable (fun _ => True) undocumented ∧ undocumented.nameOf? query = none ∧ names ≠ [] ∧
    (∀ first ∈ names, ∀ second ∈ names, Related first second) ∧
    (∀ name, name ∈ namesFor (upper query) declarations ↔ name ∈ names) ∧
    (undocumented.addAll declarations).ambiguity? query = none ∧
    (undocumented.addAll declarations).nameOf? query = some "ABI.Windows.IUri".toList := by
  intro guid query other names declarations
  have hreachable : Reachable (fun _ => True) undocumented := .undocumented
  have hnew : undocumented.nameOf? query = none := by decide +kernel
  have hne : names ≠ [] := by simp [names]
  have hrelated : ∀ first ∈ names, ∀ second ∈ names, Related first second := by decide +kernel
  have hdeclared : ∀ name ∈ namesFor (upper query) declarations, name ∈ names := by decide +kernel
  have hnamed : ∀ name ∈ names, name ∈ namesFor (upper query) declarations := by decide +kernel
  have hmem (name : Text) : name ∈ namesFor (upper query) declarations ↔ name ∈ names :=
    ⟨hdeclared name, hnamed name⟩
  obtain ⟨longest, hlongest, hlonger, hall⟩ :=
    Reachable.exists_longest hreachable hnew hne hrelated
  obtain ⟨hambiguity, hname⟩ := hall declarations hmem
  refine ⟨hreachable, hnew, hne, hrelated, hmem, hambiguity, ?_⟩
  have hroot : longest = ("ABI.Windows.IUri" : Text) := by
    by_contra hdiff
    have hshorter := (hlonger _ (by decide +kernel) (Ne.symm hdiff)).1
    have hbound := (by decide +kernel : ∀ name ∈ names,
      name.length ≤ ("ABI.Windows.IUri" : Text).length) longest hlongest
    omega
  rw [hname, hroot]

end GuidAtlas.Catalog
