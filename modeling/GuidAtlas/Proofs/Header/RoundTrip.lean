import GuidAtlas.Proofs.Header.Extraction

/-!
A header of printed declarations, with blank lines and comments between them, is read as exactly
these declarations.
-/

namespace GuidAtlas.Header

open Text

inductive Row where
  | blank (blanks : Text)
  | comment (indent text : Text)
  | declaration (printed : Printed)

namespace Row

def text : Row → Text
  | .blank blanks => blanks
  | .comment indent text => indent ++ '/' :: '/' :: text
  | .declaration printed => printed.text

/-- A comment does not end in a backslash, with or without blanks behind it. -/
def Fits : Row → Prop
  | .blank blanks => ∀ c ∈ blanks, isBlank c = true ∧ c ≠ '\n'
  | .comment indent text => (∀ c ∈ indent, isBlank c = true ∧ c ≠ '\n') ∧ '\n' ∉ text ∧
      (trimEnd text).getLast? ≠ some '\\'
  | .declaration printed => printed.Fits

def prepared : Row → Text
  | .blank _ => []
  | .comment _ _ => []
  | .declaration printed => printed.text

variable {row : Row}

theorem Fits.prepares (h : row.Fits) : Prepares row.text row.prepared := by
  cases row with
  | blank blanks => exact prepares_blank fun c hc => (h c hc).1
  | comment indent text => exact prepares_comment (fun c hc => (h.1 c hc).1) h.2.2
  | declaration printed => exact h.prepares_text

theorem Fits.not_lf (h : row.Fits) : '\n' ∉ row.text := by
  cases row with
  | blank blanks => exact fun hmem => (h _ hmem).2 rfl
  | comment indent text =>
      have hindent : '\n' ∉ indent := fun hmem => (h.1 _ hmem).2 rfl
      simp [Row.text, hindent, h.2.1]
  | declaration printed => exact Printed.Fits.not_mem_text h (by decide)

theorem Fits.not_namespace (h : row.Fits) : ¬"namespace".toList <:+: row.prepared := by
  cases row with
  | blank | comment => simp [prepared]
  | declaration printed => exact Printed.Fits.not_namespace_text h

end Row

def headerText (rows : List Row) : Text := unlines (rows.map Row.text)

/-- The declarations of a header whose first row has the given number. -/
def declarationsFrom (projected : Bool) : (line : Nat) → List Row → List Declaration
  | _, [] => []
  | line, .declaration printed :: rows =>
    ⟨upper printed.guid, printed.name projected, line⟩ :: declarationsFrom projected (line + 1) rows
  | line, _ :: rows => declarationsFrom projected (line + 1) rows

variable {rows : List Row}

theorem prepare_headerText (h : ∀ row ∈ rows, row.Fits) :
    prepare (headerText rows) = rows.map Row.prepared := by
  refine prepare_unlines ?_ ?_
  · rw [List.forall₂_map_left_iff, List.forall₂_map_right_iff, List.forall₂_same]
    exact fun row hrow => (h row hrow).prepares
  · intro source hsource
    obtain ⟨row, hrow, rfl⟩ := List.mem_map.1 hsource
    exact (h row hrow).not_lf

/-- Reading goes on row by row; what is above matters only for namespaces, and has none. -/
theorem contentsFrom_prepared (projected : Bool) {above : List Text}
    (habove : ∀ line ∈ above, ¬"namespace".toList <:+: line) (h : ∀ row ∈ rows, row.Fits) :
    contentsFrom projected above 0 (rows.map Row.prepared) =
      ⟨declarationsFrom projected (above.length + 1) rows, []⟩ := by
  -- On the rows, with the lines above them: none has a namespace, and none takes a line below it.
  induction rows generalizing above with
  | nil => rfl
  | cons row rows ih =>
      have hrow := h row List.mem_cons_self
      have hmore : ∀ line ∈ row.prepared :: above, ¬"namespace".toList <:+: line := by
        intro line hline
        rcases List.mem_cons.1 hline with rfl | hline
        · exact hrow.not_namespace
        · exact habove line hline
      have hrest := ih hmore fun other hother => h other (List.mem_cons_of_mem _ hother)
      rw [List.length_cons] at hrest
      cases row with
      | blank blanks => exact hrest
      | comment indent text => exact hrest
      | declaration printed =>
          have hvalid := printed.isValid_text
          have hread : readLine projected above printed.text (rows.map Row.prepared) =
              ⟨.found (upper printed.guid) (printed.name projected), 0⟩ := hrow.readLine_text habove
          rw [List.map_cons, Row.prepared, contentsFrom, if_pos hvalid, hread]
          show (contentsFrom projected (printed.text :: above) 0 _).withOutcome above _ = _
          rw [Row.prepared] at hrest
          rw [hrest]
          rfl

/-- A printed header is read as its declarations, in their order and with their lines. -/
theorem read_headerText (projected : Bool) (h : ∀ row ∈ rows, row.Fits) :
    read projected (headerText rows) = ⟨declarationsFrom projected 1 rows, []⟩ := by
  rw [read, prepare_headerText h]
  exact contentsFrom_prepared projected (by simp) h

def sampleGuid : Text := "00000001-0002-0003-0000-0000000000ab"

def sampleNumbers : List Text :=
  ["0x1", "0x2", "0x3", "0x0", "0x0", "0x0", "0x0", "0x0", "0x0", "0x0", "0xAB"]

theorem numerals_sample : List.Forall₂ Guid.Numeral sampleNumbers (Guid.fieldsOf sampleGuid) := by
  have hhex (digits : Text) (h : IsDigits 16 digits) :
      Guid.Numeral ('0' :: 'x' :: digits) (valueOf 16 digits) := by
    have hnumeral := @Guid.Numeral.hex 'x' digits [] (.inl rfl) h (by simp)
    rwa [List.append_nil] at hnumeral
  have hfields : Guid.fieldsOf sampleGuid =
      ["1", "2", "3", "0", "0", "0", "0", "0", "0", "0", "AB"].map (valueOf 16 ·.toList) := by
    decide +kernel
  rw [hfields]
  repeat' first
    | exact .nil
    | refine .cons (hhex _ (by decide)) ?_

theorem fits_defineGuid : Printed.Fits ⟨.defineGuid, sampleGuid, ["IID_A"], sampleNumbers⟩ where
  guid := by decide +kernel
  path_ne_nil := by simp
  identifier := by decide
  reserved := by decide
  single := by simp
  long := by simp
  numbers := numerals_sample

theorem fits_variableTemplate :
    Printed.Fits ⟨.variableTemplate, sampleGuid, ["Foo", "IBar"], sampleNumbers⟩ where
  guid := by decide +kernel
  path_ne_nil := by simp
  identifier := by decide
  reserved := by decide
  single := by simp
  long := by decide
  numbers := numerals_sample

theorem read_two_declarations :
    let rows : List Row := [.comment [] " two \\ interfaces",
      .declaration ⟨.defineGuid, sampleGuid, ["IID_A"], sampleNumbers⟩, .blank [' '],
      .declaration ⟨.variableTemplate, sampleGuid, ["Foo", "IBar"], sampleNumbers⟩]
    (∀ row ∈ rows, row.Fits) ∧ read true (headerText rows) =
      ⟨[⟨upper sampleGuid, "IID_A", 2⟩, ⟨upper sampleGuid, "ABI.Foo.IBar", 4⟩], []⟩ := by
  intro rows
  have hfits : ∀ row ∈ rows, row.Fits := by
    have hcomment : (Row.comment [] " two \\ interfaces").Fits :=
      ⟨by simp, by decide, by decide +kernel⟩
    have hblank : (Row.blank [' ']).Fits := by
      intro c hc
      rw [List.mem_singleton.1 hc]
      decide
    simp only [rows, List.forall_mem_cons]
    exact ⟨hcomment, fits_defineGuid, hblank, fits_variableTemplate, by simp⟩
  exact ⟨hfits, read_headerText true hfits⟩

/-- Blanks behind a backslash do not end a comment: the declaration below it goes on with it. -/
theorem not_read_below_continued_comment :
    let comment : Text := " note\\ "
    let printed : Printed := ⟨.defineGuid, sampleGuid, ["IID_A"], sampleNumbers⟩
    let rows : List Row := [.comment [] comment, .declaration printed]
    comment.getLast? ≠ some '\\' ∧ printed.Fits ∧
    read false (headerText rows) ≠ ⟨declarationsFrom false 1 rows, []⟩ := by
  intro comment printed rows
  refine ⟨by decide, fits_defineGuid, ?_⟩
  have hread : read false (headerText rows) = ⟨[], []⟩ := by decide +kernel
  rw [hread]
  simp [rows, declarationsFrom]

end GuidAtlas.Header
