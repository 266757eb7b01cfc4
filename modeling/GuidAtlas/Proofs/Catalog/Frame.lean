import GuidAtlas.Proofs.Catalog.Ambiguity

/-!
What a declaration leaves as it is. It concerns one GUID alone, adds at most one row and moves no
other, and a second time it changes nothing.
-/

namespace GuidAtlas.Catalog

open Text

variable {catalog next : Catalog} {guid key name stored : Text}

theorem eq_of_accept (h : accept guid name = .ok (key, stored)) :
    key = upper (Guid.stripDecoration guid) ∧ stored = bareName name := by
  simp only [accept] at h
  split at h
  case isTrue => cases h
  case isFalse =>
    split at h
    case isTrue => cases h
    case isFalse =>
      cases h
      exact ⟨rfl, rfl⟩

theorem add_eq_ok_iff :
    catalog.add guid name = .ok next ↔
      ∃ key stored, accept guid name = .ok (key, stored) ∧ next = catalog.insert key stored := by
  rw [add]
  cases accept guid name with
  | error rejection => simp [Except.map]
  | ok accepted =>
      obtain ⟨key, stored⟩ := accepted
      simp [Except.map, eq_comm]

def rows (catalog : Catalog) : List (Text × Text) :=
  catalog.entries.map fun row => (row.name, row.guid)

def rowsOf (entries : List (Text × List Text)) : List (Text × Text) :=
  entries.flatMap fun (name, guids) => guids.map (Prod.mk name)

theorem rows_eq (catalog : Catalog) : catalog.rows = rowsOf catalog.guids.entries := by
  simp [rows, entries, rowsOf, List.map_flatMap, Function.comp_def]

theorem exists_mem_of_mem_rowsOf {entries : List (Text × List Text)} {row : Text × Text}
    (h : row ∈ rowsOf entries) : ∃ entry ∈ entries, row.1 = entry.1 := by
  obtain ⟨entry, hentry, hrow⟩ := List.mem_flatMap.1 h
  obtain ⟨guid, -, rfl⟩ := List.mem_map.1 hrow
  exact ⟨entry, hentry, rfl⟩

/-- The rows stay as they are and in their order, but there may be one more, of this GUID, in front
of the others of this name. -/
def GainsRow (catalog next : Catalog) (name guid : Text) : Prop :=
  ∃ before after, (∀ row ∈ before, row.1 < name) ∧ (∀ row ∈ after, row.1 = name ∨ name < row.1) ∧
    catalog.rows = before ++ after ∧
    (next.rows = before ++ after ∨ next.rows = before ++ (name, guid) :: after)

theorem gainsRow_bind (catalog : Catalog) (guid name : Text) :
    catalog.GainsRow (catalog.bind guid name) name guid := by
  obtain ⟨before, after, hbefore, hafter, hsplit, hinsert⟩ :=
    Directory.exists_split catalog.guids.sorted name
  let known := (catalog.guids.get? name).getD []
  have hrows : catalog.rows = rowsOf before ++ (known.map (Prod.mk name) ++ rowsOf after) := by
    rw [rows_eq, hsplit]
    cases hknown : catalog.guids.entries.lookup name <;>
      simp [rowsOf, known, Directory.get?, hknown]
  have hbind : (catalog.bind guid name).rows =
      rowsOf before ++ ((known.insert guid).map (Prod.mk name) ++ rowsOf after) := by
    have hguids : (catalog.bind guid name).guids.entries =
        before ++ (name, known.insert guid) :: after := hinsert _
    rw [rows_eq, hguids]
    simp [rowsOf]
  -- The rows of the name itself are the first of those behind.
  refine ⟨rowsOf before, known.map (Prod.mk name) ++ rowsOf after, fun row hrow => ?_,
    fun row hrow => ?_, hrows, ?_⟩
  · obtain ⟨entry, hentry, heq⟩ := exists_mem_of_mem_rowsOf hrow
    exact heq ▸ hbefore entry hentry
  · rcases List.mem_append.1 hrow with hrow | hrow
    · obtain ⟨other, -, rfl⟩ := List.mem_map.1 hrow
      exact .inl rfl
    · obtain ⟨entry, hentry, heq⟩ := exists_mem_of_mem_rowsOf hrow
      exact .inr (heq ▸ hafter entry hentry)
  · rw [hbind]
    by_cases hmem : guid ∈ known
    · exact .inl (by rw [List.insert_of_mem hmem])
    · exact .inr (by rw [List.insert_of_not_mem hmem]; rfl)

theorem exists_nextName (current : Option Text) (name : Text) :
    ∃ stored, nextName current name = some stored := by
  cases current <;> exact ⟨_, rfl⟩

theorem guids_insert (hname : nextName (catalog.names.get? key) name = some stored) :
    (catalog.insert key name).guids = (catalog.bind key stored).guids := by
  rcases insert_cases catalog key name with ⟨hget, heq⟩ | ⟨existing, hget, hcases⟩
  case inl =>
    rw [hget, nextName, Option.some_inj] at hname
    rw [heq, hname]
  case inr =>
    rw [hget, nextName, Option.some_inj] at hname
    rcases hcases with ⟨hold, heq⟩ | ⟨hold, -, heq⟩ | ⟨hold, -, heq⟩
    · rw [heq, ← hname, if_pos hold]
    · rw [heq, ← hname, if_neg (by simp [hold])]
    · rw [heq, ← hname, if_neg (by simp [hold])]
      rfl

theorem gainsRow_insert (hname : nextName (catalog.names.get? key) name = some stored) :
    catalog.GainsRow (catalog.insert key name) stored key := by
  have hrows : (catalog.insert key name).rows = (catalog.bind key stored).rows := by
    rw [rows_eq, rows_eq, guids_insert hname]
  rw [GainsRow, hrows]
  exact gainsRow_bind catalog key stored

theorem bind_eq_self (hname : catalog.names.get? guid = some name)
    (hlists : catalog.Lists guid name) : catalog.bind guid name = catalog := by
  obtain ⟨known, hknown, hmem⟩ := hlists
  have hguids : (if known.elem guid then known else guid :: known) = known :=
    List.insert_of_mem hmem
  rw [bind, hknown, Option.getD_some, hguids, Directory.insert_eq_self hname,
    Directory.insert_eq_self hknown]

theorem extendsName_nextName (h : nextName (catalog.names.get? key) name = some stored) :
    extendsName stored name = true := by
  cases hget : catalog.names.get? key with
  | none =>
      rw [hget] at h
      cases h
      exact extendsName_self name
  | some existing =>
      rw [hget, nextName, Option.some_inj] at h
      split at h
      case isTrue hextends => exact h ▸ hextends
      case isFalse => exact h ▸ extendsName_self name

theorem insert_insert (catalog : Catalog) (key name : Text) :
    (catalog.insert key name).insert key name = catalog.insert key name := by
  obtain ⟨stored, hstored⟩ := exists_nextName (catalog.names.get? key) name
  have hname : (catalog.insert key name).names.get? key = some stored := by
    rw [get?_names_insert, if_pos rfl, hstored]
  have hlists : (catalog.insert key name).Lists key stored :=
    lists_insert.2 (.inr ⟨rfl, hstored⟩)
  -- Whichever name is kept, it extends the one that came, so the second time it is kept again.
  rw [insert.eq_def (catalog.insert key name), hname]
  simp only [extendsName_nextName hstored, if_true]
  exact bind_eq_self hname hlists

theorem get?_clashes_insert_of_ne {other : Text} (h : other ≠ key) :
    (catalog.insert key name).clashes.get? other = catalog.clashes.get? other := by
  rcases insert_cases catalog key name with ⟨-, heq⟩ | ⟨existing, -, hcases⟩
  case inl => rw [heq, clashes_bind]
  case inr =>
    rcases hcases with ⟨-, heq⟩ | ⟨-, -, heq⟩ | ⟨-, -, heq⟩ <;> simp [heq, recordClash, h]

/-- Of two related names the GUID resolves to the longer one. -/
theorem isLongest_nextName {previous : Text} (h : Related previous name)
    (hstored : nextName (some previous) name = some stored) :
    IsLongest [previous, name] stored := by
  have hrelated : ∀ first ∈ [previous, name], ∀ second ∈ [previous, name],
      Related first second := by
    simp [h, h.symm, Related.refl]
  obtain ⟨longest, hresolved, hlongest⟩ := isLongest_resolved (List.cons_ne_nil _ _) hrelated
  cases hresolved.symm.trans hstored
  exact hlongest

/-- A rejected declaration changes nothing. An accepted one leaves the names and the notes of other
GUIDs as they are, adds at most one row and moves no other, makes the GUID resolve to the longer of
two related names and to the new name otherwise, and changes nothing a second time. The GUID is the
given one without its decoration, and queries for it have none. -/
theorem add_frame (catalog : Catalog) (guid name : Text) :
    (∀ rejection, catalog.add guid name = .error rejection →
      catalog.addOrKeep guid name = catalog) ∧
    ∀ next, catalog.add guid name = .ok next →
      (∀ query, upper query ≠ upper (Guid.stripDecoration guid) →
        next.nameOf? query = catalog.nameOf? query ∧
        next.ambiguity? query = catalog.ambiguity? query) ∧
      (∃ stored, catalog.GainsRow next stored (upper (Guid.stripDecoration guid)) ∧
        ∀ query, upper query = upper (Guid.stripDecoration guid) →
          next.nameOf? query = some stored ∧
          (∀ previous, catalog.nameOf? query = some previous → Related previous (bareName name) →
            IsLongest [previous, bareName name] stored) ∧
          ((∀ previous, catalog.nameOf? query = some previous →
            ¬Related previous (bareName name)) → stored = bareName name)) ∧
      next.add guid name = .ok next := by
  refine ⟨fun rejection hreject => by rw [addOrKeep, hreject], fun next hadd => ?_⟩
  obtain ⟨key, stored, haccept, rfl⟩ := add_eq_ok_iff.1 hadd
  obtain ⟨rfl, rfl⟩ := eq_of_accept haccept
  obtain ⟨stored, hstored⟩ :=
    exists_nextName (catalog.names.get? (upper (Guid.stripDecoration guid))) (bareName name)
  refine ⟨fun query hquery => ?_, ⟨stored, gainsRow_insert hstored, fun query hquery => ?_⟩, ?_⟩
  · rw [nameOf?, nameOf?, get?_names_insert, if_neg hquery]
    exact ⟨rfl, get?_clashes_insert_of_ne hquery⟩
  · rw [nameOf?, nameOf?, get?_names_insert, hquery, if_pos rfl]
    refine ⟨hstored, fun previous hprevious hrelated => ?_, fun hunrelated => ?_⟩
    · rw [hprevious] at hstored
      exact isLongest_nextName hrelated hstored
    · cases hprevious : catalog.names.get? (upper (Guid.stripDecoration guid)) with
      | none =>
          rw [hprevious] at hstored
          exact (Option.some_inj.1 hstored).symm
      | some previous =>
          have hnot := hunrelated previous hprevious
          rw [hprevious, nextName, if_neg fun hextends => hnot (.inl hextends)] at hstored
          exact (Option.some_inj.1 hstored).symm
  · exact add_eq_ok_iff.2 ⟨_, _, haccept, (insert_insert _ _ _).symm⟩

/-- A decorated GUID moves on to a longer name, and a reserved word is refused for it. -/
theorem add_frame_longer_name :
    let guid : Text := "\x7bC1D432BA-C824-4452-A7FD-512BC3BBE9A1\x7d"
    let query : Text := "c1d432ba-c824-4452-a7fd-512bc3bbe9a1"
    let other : Text := "AEC22FB8-76F3-4639-9BE0-28EB43A67A2E"
    let catalog := empty.addAll [(query, "IFoo"), (other, "IBar"), (other, "IFoo")]
    let next := catalog.insert (upper query) "Ns.IFoo"
    catalog.add guid "struct" = .error (.invalidName (upper query) "struct") ∧
    catalog.addOrKeep guid "struct" = catalog ∧
    catalog.add guid " Ns.IFoo " = .ok next ∧
    next.ambiguity? other = catalog.ambiguity? other ∧
    (∃ longest, IsLongest ["IFoo", "Ns.IFoo"] longest ∧ next.nameOf? query = some longest ∧
      catalog.GainsRow next longest (upper query)) ∧
    next.add guid " Ns.IFoo " = .ok next := by
  intro guid query other catalog next
  have hreject : catalog.add guid "struct" = .error (.invalidName (upper query) "struct") := by
    rw [add, (by decide +kernel :
      accept guid "struct" = .error (.invalidName (upper query) "struct"))]
    rfl
  have hadd : catalog.add guid " Ns.IFoo " = .ok next :=
    add_eq_ok_iff.2 ⟨upper query, "Ns.IFoo", by decide +kernel, rfl⟩
  obtain ⟨hother, ⟨stored, hrows, hname⟩, htwice⟩ :=
    (add_frame catalog guid " Ns.IFoo ").2 next hadd
  obtain ⟨hstored, hlongest, -⟩ := hname query (by decide +kernel)
  have hbare : bareName " Ns.IFoo " = "Ns.IFoo" := by decide +kernel
  have hkey : upper (Guid.stripDecoration guid) = upper query := by decide +kernel
  rw [hkey] at hrows
  have hlongest := hlongest "IFoo" (by decide +kernel) (by decide +kernel)
  rw [hbare] at hlongest
  exact ⟨hreject, (add_frame catalog guid "struct").1 _ hreject, hadd,
    (hother other (by decide +kernel)).2, ⟨stored, hlongest, hstored, hrows⟩, htwice⟩

/-- A query keeps its decoration: what was added for a decorated GUID is not found under it as it
was given. -/
theorem nameOf?_decorated :
    let guid : Text := "\x7bC1D432BA-C824-4452-A7FD-512BC3BBE9A1\x7d"
    ∃ next, empty.add guid "IFoo" = .ok next ∧
      next.nameOf? (Guid.stripDecoration guid) = some "IFoo" ∧
      next.nameOf? guid ≠ some "IFoo" := by
  intro guid
  have haccept : accept guid "IFoo" = .ok (upper (Guid.stripDecoration guid), "IFoo") := by
    decide +kernel
  exact ⟨_, add_eq_ok_iff.2 ⟨_, _, haccept, rfl⟩, by decide +kernel, by decide +kernel⟩

end GuidAtlas.Catalog
