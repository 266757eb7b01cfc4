import GuidAtlas.Proofs.Catalog.Representation

/-!
What a sequence of declarations does to one GUID. The name it resolves to, the rows it has and
whether it is ambiguous only depend on the names that were accepted for it, in their order:
`Standing` says how, and a declaration of another GUID changes nothing of it.
-/

namespace GuidAtlas.Catalog

open Text

/-- One of two names extends the other. -/
def Related (first second : Text) : Prop :=
  extendsName first second = true ∨ extendsName second first = true

instance (first second : Text) : Decidable (Related first second) :=
  inferInstanceAs (Decidable (_ ∨ _))

theorem Related.refl (name : Text) : Related name name := .inl (extendsName_self name)

theorem Related.symm {first second : Text} (h : Related first second) : Related second first :=
  Or.symm h

/-- The name that a GUID resolves to after one more name. -/
def nextName (current : Option Text) (name : Text) : Option Text :=
  match current with
  | none => some name
  | some existing => some (if extendsName existing name then existing else name)

/-- The name that a GUID resolves to after these names. -/
def resolved (names : List Text) : Option Text := names.foldl nextName none

/-- The name `next` came while the GUID resolved to `current`, to which it is unrelated. -/
def Clash (names : List Text) (current next : Text) : Prop :=
  ∃ before, before ++ [next] <+: names ∧ resolved before = some current ∧ ¬Related current next

/-- One of the names came while the GUID resolved to a name that is unrelated to it. -/
def MeetsUnrelated (names : List Text) : Prop := ∃ current next, Clash names current next

variable {catalog : Catalog} {key other name n : Text} {names : List Text}

@[simp] theorem resolved_nil : resolved [] = none := rfl

theorem resolved_append (names : List Text) (name : Text) :
    resolved (names ++ [name]) = nextName (resolved names) name := by
  rw [resolved, List.foldl_concat, ← resolved]

theorem exists_resolved (h : names ≠ []) : ∃ name, resolved names = some name := by
  obtain ⟨before, last, rfl⟩ := (List.eq_nil_or_concat' names).resolve_left h
  rw [resolved_append]
  cases resolved before with
  | none => exact ⟨last, rfl⟩
  | some current => exact ⟨_, rfl⟩

theorem not_clash_nil (current next : Text) : ¬Clash [] current next := by
  rintro ⟨before, hprefix, -⟩
  simp at hprefix

theorem clash_append {current next : Text} :
    Clash (names ++ [name]) current next ↔
      Clash names current next ∨
        (next = name ∧ resolved names = some current ∧ ¬Related current name) := by
  constructor
  · rintro ⟨before, hprefix, hcurrent, hunrelated⟩
    rcases List.prefix_concat_iff.1 hprefix with heq | hprefix
    · obtain ⟨rfl, rfl⟩ := List.concat_inj.1 (by simpa using heq)
      exact .inr ⟨rfl, hcurrent, hunrelated⟩
    · exact .inl ⟨before, hprefix, hcurrent, hunrelated⟩
  · rintro (⟨before, hprefix, hcurrent, hunrelated⟩ | ⟨rfl, hcurrent, hunrelated⟩)
    · exact ⟨before, hprefix.trans (List.prefix_append _ _), hcurrent, hunrelated⟩
    · exact ⟨names, List.prefix_rfl, hcurrent, hunrelated⟩

theorem meetsUnrelated_append :
    MeetsUnrelated (names ++ [name]) ↔
      MeetsUnrelated names ∨ ∃ current, resolved names = some current ∧ ¬Related current name := by
  simp [MeetsUnrelated, clash_append, exists_or]

/-- Accepting a name moves the GUID on to its next name, which is a row from then on, and records a
clash of unrelated names. -/
theorem get?_names_insert (catalog : Catalog) (key other name : Text) :
    (catalog.insert key name).names.get? other =
      if other = key then nextName (catalog.names.get? key) name else catalog.names.get? other := by
  rcases insert_cases catalog key name with ⟨hget, heq⟩ | ⟨existing, hget, hcases⟩
  case inl => simp [heq, hget, nextName]
  case inr =>
    rcases hcases with ⟨hold, heq⟩ | ⟨hold, -, heq⟩ | ⟨hold, -, heq⟩ <;>
      simp [heq, hget, hold, nextName]

theorem lists_insert :
    (catalog.insert key name).Lists other n ↔
      catalog.Lists other n ∨ (other = key ∧ nextName (catalog.names.get? key) name = some n) := by
  have hbind {stored : Text} (hnext : nextName (catalog.names.get? key) name = some stored) :
      (catalog.bind key stored).Lists other n ↔
        catalog.Lists other n ∨
          (other = key ∧ nextName (catalog.names.get? key) name = some n) := by
    rw [lists_bind, hnext, Option.some_inj, @eq_comm _ n]
  rcases insert_cases catalog key name with ⟨hget, heq⟩ | ⟨existing, hget, hcases⟩
  case inl => exact heq ▸ hbind (by rw [hget, nextName])
  case inr =>
    rcases hcases with ⟨hold, heq⟩ | ⟨hold, -, heq⟩ | ⟨hold, -, heq⟩
    · exact heq ▸ hbind (by simp [hget, nextName, hold])
    · exact heq ▸ hbind (by simp [hget, nextName, hold])
    · exact heq ▸ hbind (by simp [hget, nextName, hold])

theorem isSome_clashes_insert :
    ((catalog.insert key name).clashes.get? other).isSome ↔
      (catalog.clashes.get? other).isSome ∨
        (other = key ∧
          ∃ current, catalog.names.get? key = some current ∧ ¬Related current name) := by
  rcases insert_cases catalog key name with ⟨hget, heq⟩ | ⟨existing, hget, hcases⟩
  case inl => simp [heq, hget]
  case inr =>
    rcases hcases with ⟨hold, heq⟩ | ⟨-, hnew, heq⟩ | ⟨hold, hnew, heq⟩
    · simp [heq, hget, Related, hold]
    · simp [heq, hget, Related, hnew]
    · simp only [heq, hget, recordClash, clashes_bind, Directory.get?_insert]
      by_cases hother : other = key <;> simp [hother, Related, hold, hnew]

/-- What the maps say of a GUID that was given these names, one after the other. -/
structure Standing (catalog : Catalog) (key : Text) (names : List Text) : Prop where
  name : catalog.names.get? key = resolved names
  clash : (catalog.clashes.get? key).isSome ↔ MeetsUnrelated names
  row : ∀ name, catalog.Lists key name ↔ ∃ before, before <+: names ∧ resolved before = some name

theorem standing_of_not_holds (h : ¬catalog.Holds key) : Standing catalog key [] := by
  simp only [Holds, not_or, Bool.not_eq_true, Option.isSome_eq_false_iff, not_exists] at h
  obtain ⟨hname, hclash, hlists⟩ := h
  refine ⟨by simpa using hname, ?_, fun name => iff_of_false (hlists name) ?_⟩
  · refine iff_of_false (by simpa using hclash) ?_
    simp [MeetsUnrelated, not_clash_nil]
  · rintro ⟨before, hprefix, hresolved⟩
    cases List.prefix_nil.1 hprefix
    cases hresolved

theorem Standing.insert (h : Standing catalog key names) :
    Standing (catalog.insert key name) key (names ++ [name]) where
  name := by rw [get?_names_insert, if_pos rfl, h.name, resolved_append]
  clash := by
    rw [isSome_clashes_insert, h.clash, h.name, meetsUnrelated_append]
    simp
  row n := by
    rw [lists_insert, h.row, h.name, ← resolved_append]
    constructor
    · rintro (⟨before, hprefix, hresolved⟩ | ⟨-, hresolved⟩)
      · exact ⟨before, hprefix.trans (List.prefix_append _ _), hresolved⟩
      · exact ⟨names ++ [name], List.prefix_rfl, hresolved⟩
    · rintro ⟨before, hprefix, hresolved⟩
      rcases List.prefix_concat_iff.1 hprefix with rfl | hprefix
      · exact .inr ⟨rfl, hresolved⟩
      · exact .inl ⟨before, hprefix, hresolved⟩

theorem Standing.insert_of_ne (h : Standing catalog key names) (hne : key ≠ other) :
    Standing (catalog.insert other name) key names where
  name := by rw [get?_names_insert, if_neg hne, h.name]
  clash := by
    rw [isSome_clashes_insert, h.clash]
    simp [hne]
  row n := by
    rw [lists_insert, h.row]
    simp [hne]

/-- The catalog after declarations one after the other, of which rejected ones change nothing. -/
def addAll (catalog : Catalog) (declarations : List (Text × Text)) : Catalog :=
  declarations.foldl (fun catalog (guid, name) => catalog.addOrKeep guid name) catalog

theorem addAll_append (catalog : Catalog) (first second : List (Text × Text)) :
    catalog.addAll (first ++ second) = (catalog.addAll first).addAll second :=
  List.foldl_append

theorem Reachable.addAll {allowed : Text → Prop} {declarations : List (Text × Text)}
    (h : Reachable allowed catalog)
    (hallowed : ∀ declaration ∈ declarations, ∀ key stored,
      accept declaration.1 declaration.2 = .ok (key, stored) → allowed stored) :
    Reachable allowed (catalog.addAll declarations) :=
  List.foldlRecOn declarations _ h fun _ hcatalog declaration hdeclaration =>
    .add hcatalog _ _ (hallowed declaration hdeclaration)

/-- The name that a declaration adds to the GUID with this key, if it is accepted for it. -/
def nameFor? (key : Text) (declaration : Text × Text) : Option Text :=
  match accept declaration.1 declaration.2 with
  | .ok (other, name) => if other = key then some name else none
  | .error _ => none

/-- The names that were accepted for a GUID as they are stored, in their order. -/
def namesFor (key : Text) (declarations : List (Text × Text)) : List Text :=
  declarations.filterMap (nameFor? key)

/-- What holds of a GUID and its names, goes on with each name that it is given and does not depend
on other GUIDs holds after any declarations. -/
theorem addAll_induction {p : Catalog → List Text → Prop}
    (hinsert : ∀ {catalog names name}, p catalog names →
      p (catalog.insert key name) (names ++ [name]))
    (hother : ∀ {catalog names other name}, key ≠ other → p catalog names →
      p (catalog.insert other name) names)
    (h : p catalog names) (declarations : List (Text × Text)) :
    p (catalog.addAll declarations) (names ++ namesFor key declarations) := by
  induction declarations generalizing catalog names with
  | nil => simpa [Catalog.addAll, namesFor] using h
  | cons declaration declarations ih =>
      have hstep : p (catalog.addOrKeep declaration.1 declaration.2)
          (names ++ namesFor key [declaration]) := by
        cases haccept : accept declaration.1 declaration.2 with
        | error rejection =>
            simpa [addOrKeep_of_reject haccept, namesFor, nameFor?, haccept] using h
        | ok accepted =>
            obtain ⟨other, name⟩ := accepted
            rw [addOrKeep_of_accept haccept]
            by_cases hkey : other = key
            case pos =>
              subst hkey
              simpa [namesFor, nameFor?, haccept] using hinsert h
            case neg =>
              simpa [namesFor, nameFor?, haccept, hkey] using hother (Ne.symm hkey) h
      have hrest := ih hstep
      rw [List.append_assoc, namesFor, namesFor, ← List.filterMap_append, List.singleton_append]
        at hrest
      exact hrest

/-- After any declarations a GUID stands as the names accepted for it say. -/
theorem Standing.addAll (h : Standing catalog key names) (declarations : List (Text × Text)) :
    Standing (catalog.addAll declarations) key (names ++ namesFor key declarations) :=
  addAll_induction (p := fun catalog names => Standing catalog key names) Standing.insert
    (fun hne h => h.insert_of_ne hne) h declarations

theorem standing_addAll (h : ¬catalog.Holds key) (declarations : List (Text × Text)) :
    Standing (catalog.addAll declarations) key (namesFor key declarations) := by
  simpa using (standing_of_not_holds h).addAll declarations

theorem not_holds_empty (key : Text) : ¬empty.Holds key := by
  simp [Holds, empty, Lists]

theorem isSome_resolved : (resolved names).isSome ↔ names ≠ [] := by
  constructor
  · rintro h rfl
    cases h
  · intro hne
    obtain ⟨name, hname⟩ := exists_resolved hne
    simp [hname]

theorem nameFor?_eq_some {declaration : Text × Text} :
    nameFor? key declaration = some name ↔
      accept declaration.1 declaration.2 = .ok (key, name) := by
  rw [nameFor?]
  split
  case h_1 other stored haccept => simp [haccept]
  case h_2 rejection haccept => simp [haccept]

/-- No declaration makes a GUID disappear: the ones with a name are those that were accepted. -/
theorem isSome_names_addAll (declarations : List (Text × Text)) (key : Text) :
    ((empty.addAll declarations).names.get? key).isSome ↔
      ∃ declaration ∈ declarations, ∃ name,
        accept declaration.1 declaration.2 = .ok (key, name) := by
  rw [(standing_addAll (not_holds_empty key) declarations).name, isSome_resolved, namesFor, ne_eq,
    List.filterMap_eq_nil_iff]
  simp only [← nameFor?_eq_some, ← Option.ne_none_iff_exists', ne_eq]
  push Not
  rfl

theorem holds_addAll (declarations : List (Text × Text)) (key : Text) :
    (empty.addAll declarations).Holds key ↔
      ∃ declaration ∈ declarations, ∃ name,
        accept declaration.1 declaration.2 = .ok (key, name) := by
  have hreachable : Reachable (fun _ => True) (empty.addAll declarations) :=
    .addAll .empty fun _ _ _ _ _ => trivial
  rw [← isSome_names_addAll]
  constructor
  · intro hholds
    obtain ⟨name, hlists⟩ := hreachable.consistent.exists_lists_of_holds hholds
    exact (hreachable.consistent.of_lists hlists).2.2
  · exact fun hname => .inl hname

theorem isSome_names_iff_holds (declarations : List (Text × Text)) (key : Text) :
    ((empty.addAll declarations).names.get? key).isSome ↔
      (empty.addAll declarations).Holds key := by
  rw [isSome_names_addAll, holds_addAll]

theorem holds_addAll_of_subset {declarations more : List (Text × Text)} (h : declarations ⊆ more)
    (hholds : (empty.addAll declarations).Holds key) : (empty.addAll more).Holds key := by
  obtain ⟨declaration, hmem, haccept⟩ := (holds_addAll _ _).1 hholds
  exact (holds_addAll _ _).2 ⟨declaration, h hmem, haccept⟩

theorem guidCount_addAll_of_subset {declarations others : List (Text × Text)}
    (h : declarations ⊆ others) (hback : others ⊆ declarations) :
    (empty.addAll declarations).guidCount = (empty.addAll others).guidCount := by
  have hkeys (guid : Text) : guid ∈ (empty.addAll others).names.entries.map Prod.fst ↔
      ((empty.addAll declarations).names.get? guid).isSome := by
    rw [Directory.mem_keys_iff, isSome_names_iff_holds, isSome_names_iff_holds]
    exact ⟨holds_addAll_of_subset hback, holds_addAll_of_subset h⟩
  rw [guidCount, Directory.size_eq_length _ (Directory.nodup_keys _) hkeys, List.length_map]
  rfl

end GuidAtlas.Catalog
