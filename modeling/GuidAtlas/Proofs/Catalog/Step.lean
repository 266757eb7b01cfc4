import GuidAtlas.Catalog
import GuidAtlas.Proofs.Directory
import GuidAtlas.Proofs.Guid.Canonical
import GuidAtlas.Proofs.Text.Trim

/-!
What one declaration does to a catalog, and the catalogs that declarations build up. Everything said
of reachable catalogs rests on the four cases of `insert_cases`.
-/

namespace GuidAtlas.Catalog

open Text

/-- A key under which a GUID is stored. -/
structure IsKey (guid : Text) : Prop where
  canonical : Guid.isCanonical guid = true
  upper_eq : upper guid = guid

/-- A name that can be stored. -/
structure IsStoredName (name : Text) : Prop where
  two_le_length : 2 ≤ name.length
  not_reserved : name ∉ reservedNames
  head_ne : ∀ c ∈ name.head?, c ≠ '"' ∧ c ≠ ' '
  last_ne : ∀ c ∈ name.getLast?, c ≠ '"' ∧ c ≠ ' '

theorem accept_eq_ok {guid name key stored : Text} (h : accept guid name = .ok (key, stored)) :
    IsKey key ∧ IsStoredName stored := by
  simp only [accept] at h
  split at h
  case isTrue => cases h
  case isFalse hcanonical =>
    split at h
    case isTrue => cases h
    case isFalse hname =>
      cases h
      have hcanonical : Guid.isCanonical (upper (Guid.stripDecoration guid)) = true := by
        simpa using hcanonical
      have hends (c : Char) (hc : (decide (c = '"') || decide (c = ' ')) = false) :
          c ≠ '"' ∧ c ≠ ' ' := by simpa using hc
      simp only [List.elem_eq_mem, Bool.or_eq_true, decide_eq_true_eq, not_or, not_lt] at hname
      exact ⟨⟨hcanonical, Guid.upper_eq_self_of_isCanonical hcanonical⟩,
        ⟨hname.1, hname.2, fun c hc => hends c (head?_trimOf _ _ c hc),
          fun c hc => hends c (getLast?_trimOf _ _ c hc)⟩⟩

/-- A name as it is stored, without the quotes and spaces around it. -/
def bareName (name : Text) : Text := trimOf (fun c => c = '"' || c = ' ') name

/-- A name that is refused for every GUID. -/
def RefusesName (name : Text) : Prop :=
  (bareName name).length < 2 ∨ bareName name ∈ reservedNames

instance (name : Text) : Decidable (RefusesName name) := inferInstanceAs (Decidable (_ ∨ _))

/-- For a key it depends on the name alone whether a declaration is accepted. -/
theorem accept_of_isKey {guid : Text} (h : IsKey guid) (name : Text) :
    accept guid name =
      if RefusesName name then .error (.invalidName guid (bareName name))
      else .ok (guid, bareName name) := by
  simp only [accept, Guid.stripDecoration_of_isCanonical h.canonical, h.upper_eq, h.canonical,
    Bool.not_true, Bool.false_eq_true, if_false, Bool.or_eq_true, decide_eq_true_eq,
    List.elem_eq_mem]
  rfl

def Lists (catalog : Catalog) (guid name : Text) : Prop :=
  ∃ guids, catalog.guids.get? name = some guids ∧ guid ∈ guids

variable {catalog : Catalog} {guid name : Text}

@[simp] theorem names_bind (catalog : Catalog) (guid name : Text) :
    (catalog.bind guid name).names = catalog.names.insert guid name := rfl

@[simp] theorem clashes_bind (catalog : Catalog) (guid name : Text) :
    (catalog.bind guid name).clashes = catalog.clashes := rfl

@[simp] theorem names_recordClash (catalog : Catalog) (guid name existing : Text) :
    (catalog.recordClash guid name existing).names = catalog.names := rfl

@[simp] theorem guids_recordClash (catalog : Catalog) (guid name existing : Text) :
    (catalog.recordClash guid name existing).guids = catalog.guids := rfl

theorem get?_guids_bind (catalog : Catalog) (guid name other : Text) :
    (catalog.bind guid name).guids.get? other =
      if other = name then some (((catalog.guids.get? name).getD []).insert guid)
      else catalog.guids.get? other := by
  rw [bind, Directory.get?_insert]
  rfl

theorem lists_bind {g n : Text} :
    (catalog.bind guid name).Lists g n ↔ catalog.Lists g n ∨ (g = guid ∧ n = name) := by
  simp only [Lists, get?_guids_bind]
  by_cases hn : n = name
  case pos =>
    subst hn
    cases h : catalog.guids.get? n <;> simp [or_comm]
  case neg => simp [hn]

/-- What adding an accepted declaration can do: make the name that of the GUID, keep the longer
related name, or record that the names clash. -/
theorem insert_cases (catalog : Catalog) (guid name : Text) :
    (catalog.names.get? guid = none ∧ catalog.insert guid name = catalog.bind guid name) ∨
    ∃ existing, catalog.names.get? guid = some existing ∧
      ((extendsName existing name = true ∧ catalog.insert guid name = catalog.bind guid existing) ∨
      (extendsName existing name = false ∧ extendsName name existing = true ∧
        catalog.insert guid name = catalog.bind guid name) ∨
      (extendsName existing name = false ∧ extendsName name existing = false ∧
        catalog.insert guid name =
          (catalog.recordClash guid name existing).bind guid name)) := by
  cases h : catalog.names.get? guid with
  | none => exact .inl ⟨rfl, by simp [insert, h]⟩
  | some existing =>
      refine .inr ⟨existing, rfl, ?_⟩
      cases hold : extendsName existing name with
      | true => exact .inl ⟨rfl, by simp [insert, h, hold]⟩
      | false =>
          cases hnew : extendsName name existing with
          | true => exact .inr (.inl ⟨rfl, rfl, by simp [insert, h, hold, hnew]⟩)
          | false => exact .inr (.inr ⟨rfl, rfl, by simp [insert, h, hold, hnew]⟩)

/-- The catalogs that declarations build up when every name that gets stored is allowed. -/
inductive Reachable (allowed : Text → Prop) : Catalog → Prop
  | empty : Reachable allowed empty
  | add {catalog : Catalog} (h : Reachable allowed catalog) (guid name : Text)
      (hallowed : ∀ key stored, accept guid name = .ok (key, stored) → allowed stored) :
      Reachable allowed (catalog.addOrKeep guid name)
  | addUndocumented {catalog : Catalog} (h : Reachable allowed catalog) :
      Reachable allowed catalog.addUndocumented

theorem Reachable.undocumented {allowed : Text → Prop} : Reachable allowed undocumented :=
  .addUndocumented .empty

theorem addOrKeep_of_accept {key stored : Text} (h : accept guid name = .ok (key, stored)) :
    catalog.addOrKeep guid name = catalog.insert key stored := by
  simp [addOrKeep, add, h, Except.map]

theorem addOrKeep_of_reject {rejection : Rejection} (h : accept guid name = .error rejection) :
    catalog.addOrKeep guid name = catalog := by
  simp [addOrKeep, add, h, Except.map]

theorem accept_undocumented :
    ∀ row ∈ undocumentedInterfaces, accept row.1 row.2 = .ok (row.1, row.2) := by
  decide

/-- What holds of the empty catalog and survives the insertion of an accepted declaration holds of
every reachable catalog. -/
theorem Reachable.invariant {allowed : Text → Prop} {p : Catalog → Prop} (hempty : p .empty)
    (hinsert : ∀ catalog guid name, p catalog → IsKey guid → IsStoredName name →
      allowed name ∨ name ∈ undocumentedInterfaces.map Prod.snd → p (catalog.insert guid name))
    (h : Reachable allowed catalog) : p catalog := by
  induction h with
  | empty => exact hempty
  | add h guid name hallowed ih =>
      cases haccept : accept guid name with
      | error rejection => rwa [addOrKeep_of_reject haccept]
      | ok accepted =>
          obtain ⟨hkey, hname⟩ := accept_eq_ok haccept
          rw [addOrKeep_of_accept haccept]
          exact hinsert _ _ _ ih hkey hname (.inl (hallowed _ _ haccept))
  | addUndocumented h ih =>
      refine List.foldlRecOn _ _ ih fun catalog hcatalog row hrow => ?_
      have haccept := accept_undocumented row hrow
      obtain ⟨hkey, hname⟩ := accept_eq_ok haccept
      change p (catalog.addOrKeep row.1 row.2)
      rw [addOrKeep_of_accept haccept]
      exact hinsert _ _ _ hcatalog hkey hname (.inr (List.mem_map_of_mem hrow))

end GuidAtlas.Catalog
