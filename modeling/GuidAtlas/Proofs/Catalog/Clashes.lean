import GuidAtlas.Proofs.Catalog.Frame

/-!
What is noted for an ambiguous GUID. A clash notes the new name and then the one that the GUID had,
each unless it is there already, and nothing else is ever noted: a name that the GUID only moved on
from to a longer one, or only moved on to from a shorter one, has a row but no place in the note.
-/

namespace GuidAtlas.Catalog

open Text

/-- What is noted for a GUID after one more name. -/
def noteClash (current : Option Text) (name : Text) (noted : List Text) : List Text :=
  match current with
  | none => noted
  | some existing =>
    if Related existing name then noted else appendNew (appendNew noted name) existing

def nextNote (state : Option Text × List Text) (name : Text) : Option Text × List Text :=
  (nextName state.1 name, noteClash state.1 name state.2)

/-- What is noted for a GUID that was given these names, one after the other. -/
def noted (names : List Text) : List Text := (names.foldl nextNote (none, [])).2

/-- One of the two names of a clash. -/
def Clashed (names : List Text) (name : Text) : Prop :=
  ∃ current next, Clash names current next ∧ (name = next ∨ name = current)

variable {catalog : Catalog} {key other name n : Text} {names : List Text}

theorem noted_append (names : List Text) (name : Text) :
    noted (names ++ [name]) = noteClash (resolved names) name (noted names) := by
  have hresolved : (names.foldl nextNote (none, [])).1 = resolved names := by
    induction names using List.reverseRecOn with
    | nil => rfl
    | append_singleton names next ih => rw [List.foldl_concat, nextNote, ih, resolved_append]
  rw [noted, List.foldl_concat, nextNote, hresolved, ← noted]

theorem mem_noteClash {current : Option Text} {noted : List Text} :
    n ∈ noteClash current name noted ↔
      n ∈ noted ∨ ∃ existing, current = some existing ∧ ¬Related existing name ∧
        (n = name ∨ n = existing) := by
  cases current with
  | none => simp [noteClash]
  | some existing =>
      by_cases hrelated : Related existing name
      case pos => simp [noteClash, hrelated]
      case neg => simp [noteClash, hrelated, mem_appendNew, or_assoc]

theorem clashed_append :
    Clashed (names ++ [name]) n ↔
      Clashed names n ∨ ∃ current, resolved names = some current ∧ ¬Related current name ∧
        (n = name ∨ n = current) := by
  simp only [Clashed, clash_append, or_and_right, exists_or]
  refine or_congr_right ⟨?_, ?_⟩
  · rintro ⟨current, next, ⟨rfl, hcurrent, hunrelated⟩, hn⟩
    exact ⟨current, hcurrent, hunrelated, hn⟩
  · rintro ⟨current, hcurrent, hunrelated, hn⟩
    exact ⟨current, name, ⟨rfl, hcurrent, hunrelated⟩, hn⟩

theorem mem_noted : n ∈ noted names ↔ Clashed names n := by
  induction names using List.reverseRecOn with
  | nil => simp [noted, Clashed, not_clash_nil]
  | append_singleton names name ih => rw [noted_append, mem_noteClash, clashed_append, ih]

theorem getD_clashes_insert (catalog : Catalog) (key other name : Text) :
    ((catalog.insert key name).clashes.get? other).getD [] =
      if other = key then
        noteClash (catalog.names.get? key) name ((catalog.clashes.get? key).getD [])
      else (catalog.clashes.get? other).getD [] := by
  by_cases hother : other = key
  case neg => rw [if_neg hother, get?_clashes_insert_of_ne hother]
  case pos =>
    subst hother
    rw [if_pos rfl]
    rcases insert_cases catalog other name with ⟨hget, heq⟩ | ⟨existing, hget, hcases⟩
    case inl => simp [heq, hget, noteClash]
    case inr =>
      rcases hcases with ⟨hold, heq⟩ | ⟨-, hnew, heq⟩ | ⟨hold, hnew, heq⟩
      · simp [heq, hget, noteClash, Related, hold]
      · simp [heq, hget, noteClash, Related, hnew]
      · simp [heq, hget, noteClash, Related, hold, hnew, recordClash]

/-- After any declarations the note of a GUID is that of the names accepted for it. -/
theorem getD_clashes_addAll (h : ¬catalog.Holds key) (declarations : List (Text × Text)) :
    ((catalog.addAll declarations).clashes.get? key).getD [] =
      noted (namesFor key declarations) := by
  have hstart : catalog.names.get? key = resolved [] ∧
      (catalog.clashes.get? key).getD [] = noted [] := by
    have hstanding := standing_of_not_holds h
    refine ⟨hstanding.name, ?_⟩
    simp only [Holds, not_or] at h
    rw [Option.not_isSome_iff_eq_none.1 h.2.1]
    rfl
  have hrun := addAll_induction
    (p := fun catalog names => catalog.names.get? key = resolved names ∧
      (catalog.clashes.get? key).getD [] = noted names)
    (fun {catalog names name} h => by
      rw [get?_names_insert, getD_clashes_insert, if_pos rfl, if_pos rfl, h.1, h.2,
        resolved_append, noted_append]
      exact ⟨rfl, rfl⟩)
    (fun {catalog names other name} (hne : key ≠ other) h => by
      rw [get?_names_insert, getD_clashes_insert, if_neg hne, if_neg hne]
      exact h)
    hstart declarations
  simpa using hrun.2

theorem ambiguity?_addAll (declarations : List (Text × Text)) (guid : Text) :
    (empty.addAll declarations).ambiguity? guid =
      if noted (namesFor (upper guid) declarations) = [] then none
      else some (noted (namesFor (upper guid) declarations)) := by
  have hreachable : Reachable (fun _ => True) (empty.addAll declarations) :=
    .addAll .empty fun _ _ _ _ _ => trivial
  have hnoted := getD_clashes_addAll (not_holds_empty (upper guid)) declarations
  rw [ambiguity?]
  cases hclash : (empty.addAll declarations).clashes.get? (upper guid) with
  | none =>
      rw [hclash] at hnoted
      exact (if_pos hnoted.symm).symm
  | some names =>
      rw [hclash, Option.getD_some] at hnoted
      have hlength := (hreachable.consistent.of_clash hclash).1
      have hne : names ≠ [] := List.ne_nil_of_length_pos (by omega)
      rw [← hnoted, if_neg hne]

/-- What is noted for an ambiguous GUID are rows of it, those whose names clashed. These are all its
rows exactly if every name that it ever resolved to clashed with another one. -/
theorem mem_note_iff (declarations : List (Text × Text)) {guid : Text}
    (h : (empty.addAll declarations).ambiguity? guid = some names) :
    (∀ name ∈ names, ∃ row ∈ (empty.addAll declarations).entries,
      row.guid = upper guid ∧ row.name = name) ∧
    (∀ row ∈ (empty.addAll declarations).entries, row.guid = upper guid →
      (row.name ∈ names ↔ Clashed (namesFor (upper guid) declarations) row.name)) ∧
    ((∀ row ∈ (empty.addAll declarations).entries, row.guid = upper guid → row.name ∈ names) ↔
      ∀ before name, before <+: namesFor (upper guid) declarations → resolved before = some name →
        Clashed (namesFor (upper guid) declarations) name) := by
  have hreachable : Reachable (fun _ => True) (empty.addAll declarations) :=
    .addAll .empty fun _ _ _ _ _ => trivial
  have hstanding := standing_addAll (not_holds_empty (upper guid)) declarations
  have hmem (name : Text) :
      name ∈ names ↔ Clashed (namesFor (upper guid) declarations) name := by
    rw [ambiguity?_addAll] at h
    split at h
    · cases h
    · cases h
      exact mem_noted
  refine ⟨fun name hname => ((hreachable.consistent.of_clash h).2.2 name hname).exists_row,
    fun row _ _ => hmem row.name, ?_⟩
  simp only [hmem]
  constructor
  · intro hrows before name hprefix hresolved
    have hlists := (hstanding.row name).2 ⟨before, hprefix, hresolved⟩
    obtain ⟨row, hrow, hguid, rfl⟩ := hlists.exists_row
    exact hrows row hrow hguid
  · intro hnames row hrow hguid
    have hlists := (mem_entries_iff.1 hrow).1
    rw [hguid] at hlists
    obtain ⟨before, hprefix, hresolved⟩ := (hstanding.row row.name).1 hlists
    exact hnames before row.name hprefix hresolved

/-- A name that the GUID moved on from is noted once it comes back and clashes itself. -/
theorem clashed_after_return :
    let guid : Text := "AEC22FB8-76F3-4639-9BE0-28EB43A67A2E"
    let declarations : List (Text × Text) :=
      [(guid, "IFoo"), (guid, "Ns.IFoo"), (guid, "IBar"), (guid, "IFoo")]
    let catalog := empty.addAll declarations
    catalog.ambiguity? guid = some (["IBar", "Ns.IFoo", "IFoo"] : List Text) ∧
    (∀ row ∈ catalog.entries, row.guid = guid →
      row.name ∈ (["IBar", "Ns.IFoo", "IFoo"] : List Text)) ∧
    Clashed (namesFor guid declarations) "IFoo" := by
  intro guid declarations catalog
  have hnote : catalog.ambiguity? guid = some (["IBar", "Ns.IFoo", "IFoo"] : List Text) := by
    decide +kernel
  obtain ⟨-, -, hall⟩ := mem_note_iff declarations hnote
  have hrows : ∀ row ∈ catalog.entries, row.guid = guid →
      row.name ∈ (["IBar", "Ns.IFoo", "IFoo"] : List Text) := by decide +kernel
  exact ⟨hnote, hrows, hall.1 hrows [("IFoo" : Text)] "IFoo" (by decide +kernel) rfl⟩

/-- The longer name that a GUID moves on to after a clash has a row, and the GUID resolves to it,
but it is not noted. -/
theorem resolved_name_not_noted :
    let guid : Text := "AEC22FB8-76F3-4639-9BE0-28EB43A67A2E"
    let catalog := empty.addAll [(guid, "IFoo"), (guid, "IBar"), (guid, "Ns.IBar")]
    let note : List Text := ["IBar", "IFoo"]
    Reachable (fun _ => True) catalog ∧ catalog.ambiguity? guid = some note ∧
    ¬(∀ name, name ∈ note ↔ ∃ row ∈ catalog.entries, row.guid = guid ∧ row.name = name) ∧
    ¬∃ name ∈ catalog.nameOf? guid, name ∈ note := by
  intro guid catalog note
  refine ⟨.addAll .empty fun _ _ _ _ _ => trivial, by decide +kernel, fun h => ?_, ?_⟩
  · exact absurd ((h "Ns.IBar").2 (by decide +kernel)) (by decide +kernel)
  · rintro ⟨name, hname, hmem⟩
    cases (by decide +kernel : catalog.nameOf? guid = some ("Ns.IBar" : Text)).symm.trans hname
    exact absurd hmem (by decide +kernel)

theorem resolved_of_unrelated (h : names.Pairwise (¬Related · ·)) :
    resolved names = names.getLast? := by
  induction names using List.reverseRecOn with
  | nil => rfl
  | append_singleton names next ih =>
      obtain ⟨hnames, -, hnext⟩ := List.pairwise_append.1 h
      rw [resolved_append, ih hnames, List.getLast?_concat]
      cases hlast : names.getLast? with
      | none => rfl
      | some last =>
          have hunrelated := hnext last (List.mem_of_getLast? hlast) next List.mem_cons_self
          rw [nextName, if_neg fun hextends => hunrelated (.inl hextends)]

/-- Of unrelated names the second is noted first, then the first, then the others as they come. -/
theorem noted_of_unrelated {first second : Text} {rest : List Text}
    (h : (first :: second :: rest).Pairwise (¬Related · ·)) :
    noted (first :: second :: rest) = second :: first :: rest := by
  induction rest using List.reverseRecOn with
  | nil =>
      have hunrelated : ¬Related first second := by simpa using h
      have hne : first ≠ second := by
        rintro rfl
        exact hunrelated (Related.refl first)
      simp [noted, nextNote, nextName, noteClash, hunrelated, appendNew, hne]
  | append_singleton rest next ih =>
      rw [← List.cons_append, ← List.cons_append] at h ⊢
      obtain ⟨hnames, -, hnext⟩ := List.pairwise_append.1 h
      have hlast := List.getLast?_eq_some_getLast (List.cons_ne_nil first (second :: rest))
      have hmem := List.mem_of_getLast? hlast
      have hunrelated (n : Text) (hn : n ∈ first :: second :: rest) : ¬Related n next :=
        hnext n hn next List.mem_cons_self
      have hswap (n : Text) : n ∈ second :: first :: rest ↔ n ∈ first :: second :: rest := by
        simp [or_left_comm]
      have hnew : next ∉ second :: first :: rest := fun hnext =>
        hunrelated next ((hswap next).1 hnext) (Related.refl next)
      -- The GUID resolves to the name before the new one, which is noted already.
      rw [noted_append, ih hnames, resolved_of_unrelated hnames, hlast, noteClash,
        if_neg (hunrelated _ hmem), appendNew_of_not_mem hnew,
        appendNew_of_mem (List.mem_append_left _ ((hswap _).2 hmem))]
      rfl

/-- Names that are unrelated to each other are noted in the order in which they came, except that
the first two are exchanged: newest first only as long as there are no more. -/
theorem ambiguity?_of_unrelated (declarations : List (Text × Text)) {guid first second : Text}
    {rest : List Text}
    (hnames : namesFor (upper guid) declarations = first :: second :: rest)
    (hunrelated : (first :: second :: rest).Pairwise (¬Related · ·)) :
    (empty.addAll declarations).ambiguity? guid = some (second :: first :: rest) ∧
    ((empty.addAll declarations).ambiguity? guid = some (first :: second :: rest).reverse ↔
      rest = []) := by
  have hnote : (empty.addAll declarations).ambiguity? guid = some (second :: first :: rest) := by
    rw [ambiguity?_addAll, hnames, noted_of_unrelated hunrelated, if_neg (List.cons_ne_nil _ _)]
  refine ⟨hnote, ?_⟩
  rw [hnote, Option.some_inj]
  constructor
  · intro hreverse
    rcases List.eq_nil_or_concat' rest with rfl | ⟨init, last, rfl⟩
    · rfl
    -- The newest name would be the second one.
    · have hlast : second = last := by simpa using congrArg List.head? hreverse
      have hrest := (List.pairwise_cons.1 (List.pairwise_cons.1 hunrelated).2).1
      exact absurd (hlast ▸ Related.refl second) (hrest _ List.mem_concat_self)
  · rintro rfl
    rfl

theorem ambiguity?_two_unrelated :
    let guid : Text := "AEC22FB8-76F3-4639-9BE0-28EB43A67A2E"
    let query : Text := "aec22fb8-76f3-4639-9be0-28eb43a67a2e"
    let other : Text := "C1D432BA-C824-4452-A7FD-512BC3BBE9A1"
    let declarations : List (Text × Text) :=
      [(guid, "IOne"), (other, "IThree"), (query, " \"ITwo\""), (other, "IOne")]
    let names : List Text := ["IOne", "ITwo"]
    namesFor (upper query) declarations = names ∧ names.Pairwise (¬Related · ·) ∧
    (empty.addAll declarations).ambiguity? query = some names.reverse := by
  intro guid query other declarations names
  have hnames : namesFor (upper query) declarations = names := by decide +kernel
  have hunrelated : names.Pairwise (¬Related · ·) := by decide +kernel
  exact ⟨hnames, hunrelated, (ambiguity?_of_unrelated declarations hnames hunrelated).2.2 rfl⟩

theorem not_newest_first_of_three :
    let guid : Text := "AEC22FB8-76F3-4639-9BE0-28EB43A67A2E"
    let declarations : List (Text × Text) := [(guid, "IOne"), (guid, "ITwo"), (guid, "IThree")]
    let names : List Text := ["IOne", "ITwo", "IThree"]
    namesFor guid declarations = names ∧ names.Nodup ∧ names.Pairwise (¬Related · ·) ∧
    (empty.addAll declarations).ambiguity? guid = some (["ITwo", "IOne", "IThree"] : List Text) ∧
    (empty.addAll declarations).ambiguity? guid ≠ some names.reverse := by
  decide +kernel

end GuidAtlas.Catalog
