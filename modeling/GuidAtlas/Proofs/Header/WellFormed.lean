import GuidAtlas.Proofs.Header.Names
import GuidAtlas.Proofs.Header.Phases

/-!
What can be relied on in the contents of every header, however broken its text is.
-/

namespace GuidAtlas.Header

open Text

/-- Records are numbered upwards by lines after the first `start` and up to `stop`, and no line has
two of them. -/
structure Contents.Numbered (contents : Contents) (start stop : Nat) : Prop where
  declarations_increase : (contents.declarations.map (·.line)).Pairwise (· < ·)
  unread_increase : contents.unread.Pairwise (· < ·)
  disjoint : ∀ declaration ∈ contents.declarations, declaration.line ∉ contents.unread
  declaration_bounds : ∀ declaration ∈ contents.declarations,
    start < declaration.line ∧ declaration.line ≤ stop
  unread_bounds : ∀ n ∈ contents.unread, start < n ∧ n ≤ stop

variable {contents : Contents} {start stop : Nat}

theorem Contents.Numbered.of_later (h : contents.Numbered (start + 1) stop) :
    contents.Numbered start stop :=
  { h with
    declaration_bounds := fun declaration hmem =>
      (h.declaration_bounds declaration hmem).imp_left Nat.lt_of_succ_lt
    unread_bounds := fun n hmem => (h.unread_bounds n hmem).imp_left Nat.lt_of_succ_lt }

theorem Contents.Numbered.withOutcome {above : List Text}
    (h : contents.Numbered (above.length + 1) stop) (hstop : above.length < stop)
    (outcome : Outcome) : (contents.withOutcome above outcome).Numbered above.length stop := by
  have hlater := h.of_later
  have hdeclarations (declaration : Declaration) (hmem : declaration ∈ contents.declarations) :=
    (h.declaration_bounds declaration hmem).1
  have hunread (n : Nat) (hmem : n ∈ contents.unread) := (h.unread_bounds n hmem).1
  have hnot : above.length + 1 ∉ contents.unread :=
    fun hmem => absurd (hunread _ hmem) (Nat.lt_irrefl _)
  cases outcome with
  | nothing => exact hlater
  | found guid name =>
      exact { hlater with
        declarations_increase :=
          List.pairwise_cons.2 ⟨List.forall_mem_map.2 hdeclarations, h.declarations_increase⟩
        disjoint := List.forall_mem_cons.2 ⟨hnot, h.disjoint⟩
        declaration_bounds := List.forall_mem_cons.2
          ⟨⟨Nat.lt_succ_self _, hstop⟩, hlater.declaration_bounds⟩ }
  | unread =>
      exact { hlater with
        unread_increase := List.pairwise_cons.2 ⟨hunread, h.unread_increase⟩
        disjoint := fun declaration hmem hline => by
          rcases List.mem_cons.1 hline with hline | hline
          · exact absurd (hline ▸ hdeclarations declaration hmem) (Nat.lt_irrefl _)
          · exact h.disjoint declaration hmem hline
        unread_bounds := List.forall_mem_cons.2
          ⟨⟨Nat.lt_succ_self _, hstop⟩, hlater.unread_bounds⟩ }

theorem numbered_contentsFrom (projected : Bool) (above : List Text) (skip : Nat)
    (below : List Text) :
    (contentsFrom projected above skip below).Numbered above.length
      (above.length + below.length) := by
  induction below generalizing above skip with
  | nil =>
      exact ⟨.nil, .nil, by simp [contentsFrom], by simp [contentsFrom], by simp [contentsFrom]⟩
  | cons line below ih =>
      have hstop :
          (line :: above).length + below.length = above.length + (line :: below).length := by
        simp only [List.length_cons]
        omega
      have hlt : above.length < above.length + (line :: below).length := by simp
      have ih (skip : Nat) := hstop ▸ ih (line :: above) skip
      cases skip with
      | succ skip => exact (ih skip).of_later
      | zero =>
          rw [contentsFrom]
          split
          · exact (ih _).withOutcome hlt _
          · exact (ih 0).of_later

/-- A declaration with a GUID that the catalog takes and a name of single spaces. -/
structure Declaration.WellFormed (declaration : Declaration) : Prop where
  canonical : Guid.isCanonical declaration.guid = true
  upper_eq : upper declaration.guid = declaration.guid
  not_invalidGuid : ∀ (catalog : Catalog) (guid : Text),
    catalog.add declaration.guid declaration.name ≠ .error (.invalidGuid guid)
  no_lineFeed : '\n' ∉ declaration.name
  no_carriageReturn : '\r' ∉ declaration.name
  only_spaces : ∀ c ∈ declaration.name, isBlank c = true → c = ' '
  no_two_spaces : ¬[' ', ' '] <:+: declaration.name

/-- Whatever the text of a header is, its records are numbered by its lines and its declarations are
well formed. -/
theorem read_wellFormed (projected : Bool) (t : Text) :
    (read projected t).Numbered 0 (lines t).length ∧
      ∀ declaration ∈ (read projected t).declarations, declaration.WellFormed := by
  constructor
  · have hnumbered := numbered_contentsFrom projected [] 0 (prepare t)
    rwa [List.length_nil, Nat.zero_add, length_prepare] at hnumbered
  · intro declaration hmem
    obtain ⟨hkey, hname⟩ := wellFormed_of_mem_declarations hmem
    exact
      { canonical := hkey.canonical
        upper_eq := hkey.upper_eq
        not_invalidGuid := fun catalog guid hadd => by
          rw [Catalog.add, Catalog.accept_of_isKey hkey] at hadd
          split at hadd <;> cases hadd
        no_lineFeed := fun hmem => absurd (hname.spaced _ hmem (by decide)) (by decide)
        no_carriageReturn := fun hmem => absurd (hname.spaced _ hmem (by decide)) (by decide)
        only_spaces := hname.spaced
        no_two_spaces := hname.not_two_spaces }

end GuidAtlas.Header
