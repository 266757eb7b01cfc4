import GuidAtlas.Lookup.Database
import GuidAtlas.Proofs.Lookup.Index

/-!
The sections of a document and the entries of a section may be listed in another order than that in
which they stand. As long as those of one name keep their order, and the names that of their first
occurrences, a database holds the same.
-/

namespace GuidAtlas.Lookup

open Text Storage

variable {α : Type}

def named (name : Text) (listed : List (Text × α)) : List (Text × α) :=
  listed.filter (·.1 = name)

def others (name : Text) (listed : List (Text × α)) : List (Text × α) :=
  listed.filter (·.1 ≠ name)

/-- What has one name is put together, in the place of the first of it. -/
def grouped : List (Text × α) → List (Text × α)
  | [] => []
  | first :: rest => first :: named first.1 rest ++ grouped (others first.1 rest)
termination_by listed => listed.length
decreasing_by exact Nat.lt_succ_of_le (List.length_filter_le _ _)

def sectionsOf : List Item → List (Text × List (Text × Text))
  | [] => []
  | .header name :: items => (name, leadingEntries items) :: sectionsOf items
  | .entry _ _ :: items => sectionsOf items

theorem find?_named {p : Text → Bool} {name : Text} (h : p name = false)
    (listed : List (Text × α)) : (named name listed).find? (p ·.1) = none := by
  rw [List.find?_eq_none]
  intro entry hentry
  have hname : entry.1 = name := by simpa using (List.mem_filter.1 hentry).2
  simp [hname, h]

theorem find?_others {p : Text → Bool} {name : Text} (h : p name = false)
    (listed : List (Text × α)) : (others name listed).find? (p ·.1) = listed.find? (p ·.1) := by
  rw [others, List.find?_filter]
  refine congrArg (listed.find? ·) (funext fun entry => ?_)
  by_cases hname : entry.1 = name <;> simp [hname, h]

theorem find?_grouped (p : Text → Bool) (listed : List (Text × α)) :
    (grouped listed).find? (p ·.1) = listed.find? (p ·.1) := by
  fun_induction grouped listed with
  | case1 => rfl
  | case2 first rest ih =>
      rw [List.cons_append, List.find?_cons, List.find?_cons]
      cases hfirst : p first.1 with
      | true => rfl
      | false => simp only [List.find?_append, find?_named hfirst, Option.none_or, ih,
          find?_others hfirst]

theorem sectionEntries?_eq (p : Text → Bool) (items : List Item) :
    sectionEntries? p items = ((sectionsOf items).find? (p ·.1)).map (·.2) := by
  induction items with
  | nil => rfl
  | cons item items ih =>
      cases item with
      | header name => cases hname : p name <;> simp [sectionEntries?, sectionsOf, hname, ih]
      | entry key value => exact ih

theorem indexFirst_grouped (entries : List (Text × Text)) :
    indexFirst (grouped entries) = indexFirst entries := by
  refine Directory.eq_of_get? fun key => ?_
  rw [get?_indexFirst, get?_indexFirst, find?_grouped (Guid.normalizeKey · = key)]

/-- A database holds the same whether sections and keys are listed as they stand in the document or
with those of one name put together. -/
theorem ofText_grouped (path : Path) (t : Text) :
    Database.ofText path t =
      match readItems (Database.withoutMark t) with
      | .error fault => .error ⟨.ini, fault.message, some ("Reading " ++ path)⟩
      | .ok items =>
        match (grouped (sectionsOf items)).find? (isDatabaseSection ·.1) with
        | none => .error ⟨.missingSection, "[" ++ databaseSection ++ "]", some path⟩
        | some (_, entries) => .ok ⟨path, indexFirst (grouped entries)⟩ := by
  rw [Database.ofText]
  cases readItems (Database.withoutMark t) with
  | error fault => rfl
  | ok items =>
      simp only [sectionEntries?_eq, find?_grouped, indexFirst_grouped]
      cases (sectionsOf items).find? (isDatabaseSection ·.1) <;> rfl

end GuidAtlas.Lookup
