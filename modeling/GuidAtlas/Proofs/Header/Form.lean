import GuidAtlas.Header.Declaration
import GuidAtlas.Proofs.Guid.Number
import GuidAtlas.Proofs.Header.Word

/-!
Declarations as they are printed on a line: fixed text with holes for the name, the GUID and its
numbers. What no printed line contains is checked on the forms alone.
-/

namespace GuidAtlas.Header

open Text

inductive Hole where
  | name
  | guid
  | number (index : Nat)
  deriving DecidableEq

abbrev Pieces := List (Piece Hole)

namespace Pieces

def joined (sep : Text) (parts : List Pieces) : Pieces := List.intercalate [.lit sep] parts

def name : Pieces := [.hole .name]

def quotedGuid : Pieces := [.lit "\"", .hole .guid, .lit "\""]

def numbers (first count : Nat) : List Pieces :=
  (List.range' first count).map fun index => [.hole (.number index)]

def call (head sep : Text) (args : List Pieces) (tail : Text) : Pieces :=
  .lit head :: .lit "(" :: joined sep args ++ [.lit ")", .lit tail]

/-- The eleven numbers of a GUID, the last eight between braces of their own. -/
def bracedNumbers : Pieces :=
  .lit "\x7b " :: joined ", " (numbers 0 3) ++ .lit ", \x7b " :: joined ", " (numbers 3 8) ++
    [.lit " \x7d \x7d;"]

end Pieces

/-- The forms of declarations that fit on a line. -/
inductive Form where
  | staticUuid
  | defineGuid
  | variableTemplate
  | midlInterface
  | declspecClass
  | declspecTypedef
  | derivedInterface
  | plainInterface
  | crossPlatform
  | startList
  | guidStruct
  | codecapi
  | bstr
  deriving DecidableEq

open Pieces in
def Form.pieces : Form → Pieces
  | .staticUuid => .lit "static const UUID " :: .hole .name :: .lit " = " :: bracedNumbers
  | .defineGuid => call "DEFINE_GUID" ", " (name :: numbers 0 11) ";"
  | .variableTemplate =>
    .lit "template <> inline constexpr guid guid_v<" :: .hole .name :: .lit ">" :: bracedNumbers
  | .midlInterface => .lit "MIDL_INTERFACE(" :: quotedGuid ++ [.lit ") ", .hole .name]
  | .declspecClass =>
    .lit "class DECLSPEC_UUID(" :: quotedGuid ++ [.lit ") ", .hole .name, .lit ";"]
  | .declspecTypedef =>
    .lit "typedef DECLSPEC_UUID(" :: quotedGuid ++
      [.lit ") struct ", .hole .name, .lit " ", .hole .name, .lit ";"]
  | .derivedInterface =>
    call "DECLARE_INTERFACE_IID_" ", " [name, [.lit "IUnknown"], quotedGuid] ""
  | .plainInterface => call "DECLARE_INTERFACE_IID" ", " [name, quotedGuid] ""
  | .crossPlatform => call "CROSS_PLATFORM_UUIDOF" ", " [name, quotedGuid] ""
  | .startList => call "IMMPID_START_LIST" "," [name, [.lit "0x4000"], quotedGuid] ""
  | .guidStruct => call "DEFINE_GUIDSTRUCT" ", " [quotedGuid, name] ";"
  | .codecapi => call "DEFINE_CODECAPI_GUID" ", " (name :: quotedGuid :: numbers 0 11) ""
  | .bstr => [.lit "const BSTR ", .hole .name, .lit " = L\"\x7b", .hole .guid, .lit "\x7d\";"]

/-- A declaration to be printed. The name of a variable template is a path, of the other forms a
single identifier. -/
structure Printed where
  form : Form
  guid : Text
  path : List Text
  numbers : List Text

namespace Printed

def values (printed : Printed) : Hole → Text
  | .name => join "::" printed.path
  | .guid => printed.guid
  | .number index => printed.numbers.getD index []

def text (printed : Printed) : Text := fillAll printed.values printed.form.pieces

def dottedPath (printed : Printed) : Text := join "." printed.path

/-- The name that a declaration stands for. In a language projection the paths of variable templates
start at the root `ABI`. -/
def name (projected : Bool) (printed : Printed) : Text :=
  if projected ∧ printed.form = .variableTemplate ∧ 1 < printed.path.length ∧
      printed.path.head? ≠ some "ABI".toList then "ABI." ++ printed.dottedPath
  else printed.dottedPath

/-- The words that identifiers must not contain. -/
def reservedWords : List Text := ["namespace", "DECLSPEC_UUID", "DECLSPEC_NOVTABLE"]

/-- The numbers that a form shows: those of its GUID where it shows no other writing of it, any
eleven where it does. -/
def NumbersFit (printed : Printed) : Prop :=
  match printed.form with
  | .staticUuid | .defineGuid | .variableTemplate =>
    List.Forall₂ Guid.Numeral printed.numbers (Guid.fieldsOf printed.guid)
  | .codecapi => printed.numbers.length = 11 ∧ ∀ part ∈ printed.numbers, ∃ n, Guid.Numeral part n
  | _ => True

structure Fits (printed : Printed) : Prop where
  guid : Guid.isCanonical printed.guid = true
  path_ne_nil : printed.path ≠ []
  identifier : ∀ part ∈ printed.path, IsIdentifier part
  reserved : ∀ part ∈ printed.path, ∀ word ∈ reservedWords, ¬word <:+: part
  single : printed.form ≠ .variableTemplate → printed.path.length = 1
  long : printed.form = .variableTemplate → 4 ≤ utf8Length printed.dottedPath
  numbers : printed.NumbersFit

end Printed

def allForms : List Form := [
  .staticUuid, .defineGuid, .variableTemplate, .midlInterface, .declspecClass, .declspecTypedef,
  .derivedInterface, .plainInterface, .crossPlatform, .startList, .guidStruct, .codecapi, .bstr]

theorem mem_allForms (form : Form) : form ∈ allForms := by
  cases form <;> decide

/-- The fixed parts of a form have single spaces, and only some forms have the markers of rules. -/
def Form.Checked (form : Form) : Prop :=
  form.pieces.foldl tightenPiece (some false) = some true ∧
  litsAll (fun c => !(['\n', '/', '\\', '['].elem c)) form.pieces = true ∧
  mayMeet "__declspec(" form.pieces = false ∧
  mayMeet "DECLSPEC_NOVTABLE" form.pieces = false ∧
  mayMeet "namespace" form.pieces = false ∧
  (form ∈ [.declspecClass, .declspecTypedef] ∨ mayMeet "DECLSPEC_UUID" form.pieces = false) ∧
  (form = .variableTemplate ∨ mayMeet "inline constexpr guid" form.pieces = false)

instance (form : Form) : Decidable form.Checked :=
  inferInstanceAs (Decidable (_ ∧ _))

theorem Form.checked (form : Form) : form.Checked := by
  -- One computation for all forms shares the words that are searched.
  have hall : ∀ form ∈ allForms, form.Checked := by decide +kernel
  exact hall form (mem_allForms form)

variable {printed : Printed}

def Form.showsNumbers : Form → Bool
  | .staticUuid | .defineGuid | .variableTemplate | .codecapi => true
  | _ => false

theorem Form.showsNumbers_of_mem {form : Form} {index : Nat}
    (h : .hole (.number index) ∈ form.pieces) : form.showsNumbers = true ∧ index < 11 := by
  have hall : form.pieces.all (fun
      | .hole (.number index) => form.showsNumbers && decide (index < 11)
      | _ => true) = true := by
    cases form <;> decide
  simpa using List.all_eq_true.1 hall _ h

namespace Printed.Fits

theorem numbers_eq (h : printed.Fits) (hnumbers : printed.form.showsNumbers = true) :
    printed.numbers.length = 11 ∧ ∀ part ∈ printed.numbers, ∃ n, Guid.Numeral part n := by
  have hspelled (h : List.Forall₂ Guid.Numeral printed.numbers (Guid.fieldsOf printed.guid)) :
      printed.numbers.length = 11 ∧ ∀ part ∈ printed.numbers, ∃ n, Guid.Numeral part n :=
    ⟨h.length_eq.trans (Guid.length_fieldsOf _), Guid.exists_numeral_of_forall₂ h⟩
  have hfit := h.numbers
  rw [NumbersFit] at hfit
  cases hform : printed.form <;> rw [hform] at hfit hnumbers
  case staticUuid | defineGuid | variableTemplate => exact hspelled hfit
  case codecapi => exact hfit
  all_goals cases hnumbers

theorem exists_number (h : printed.Fits) {index : Nat}
    (hmem : .hole (.number index) ∈ printed.form.pieces) :
    ∃ n, Guid.Numeral (printed.values (.number index)) n := by
  obtain ⟨hshows, hindex⟩ := Form.showsNumbers_of_mem hmem
  obtain ⟨hlength, hnumerals⟩ := h.numbers_eq hshows
  have hlt : index < printed.numbers.length := by omega
  rw [values, List.getD_eq_getElem?_getD, List.getElem?_eq_getElem hlt, Option.getD_some]
  exact hnumerals _ (List.getElem_mem hlt)

theorem guid_ne_nil (h : printed.Fits) : printed.guid ≠ [] := by
  have hlength := Guid.length_of_isCanonical h.guid
  intro hnil
  rw [hnil] at hlength
  cases hlength

theorem mem_name (h : printed.Fits) {c : Char} (hc : c ∈ join "::" printed.path) :
    c ∈ identifierChars ∨ c = ':' := by
  rcases mem_join hc with hc | ⟨part, hpart, hc⟩
  · exact .inr (by simpa using hc)
  · exact .inl ((h.identifier part hpart).mem c hc)

theorem name_ne_nil (h : printed.Fits) : join "::" printed.path ≠ [] := by
  obtain ⟨first, rest, hpath⟩ := List.exists_cons_of_ne_nil h.path_ne_nil
  have hfirst := (h.identifier first (by simp [hpath])).ne_nil
  rw [hpath]
  cases rest with
  | nil => simpa using hfirst
  | cons second rest => simp [join_cons_cons]

theorem fills (h : printed.Fits) : Fills printed.values printed.form.pieces := by
  refine ⟨fun hole hmem => ?_, fun hole hmem c hc => ?_⟩
  · cases hole with
    | name => exact h.name_ne_nil
    | guid => exact h.guid_ne_nil
    | number index =>
        obtain ⟨n, hn⟩ := h.exists_number hmem
        exact hn.ne_nil
  · cases hole with
    | name =>
        have hall : identifierChars.all isHoleChar = true := by decide
        rcases h.mem_name hc with hc | rfl
        · exact List.all_eq_true.1 hall c hc
        · rfl
    | guid => exact Guid.guidChars_induction (by decide) h.guid hc
    | number index =>
        obtain ⟨n, hn⟩ := h.exists_number hmem
        exact hn.induction (by decide) hc

/-- A character that is in no form and in no hole is in no printed line. -/
theorem not_mem_text (h : printed.Fits) {d : Char} (hd : d ∈ ['\n', '/', '\\', '[']) :
    d ∉ printed.text := by
  obtain ⟨-, hlits, -⟩ := printed.form.checked
  exact not_mem_fillAll h.fills hlits (by decide) hd

theorem not_infix_text (h : printed.Fits) {part : Text}
    (hmeet : mayMeet part printed.form.pieces = false) (hword : part.all isHoleChar = false) :
    ¬part <:+: printed.text :=
  not_infix_fillAll h.fills hmeet hword

/-- A reserved word is in a printed line only where the form has it. -/
theorem not_reserved_text (h : printed.Fits) {word : Text} (hword : word ∈ reservedWords)
    (hmeet : mayMeet word printed.form.pieces = false) : ¬word <:+: printed.text := by
  have hne : word ≠ [] := by
    rintro rfl
    exact absurd hword (by decide)
  have hcolon : ':' ∉ word := by
    have hall : reservedWords.all (fun word => !word.elem ':') = true := by decide
    simpa using List.all_eq_true.1 hall word hword
  -- Each word has a letter that is in no GUID and in no number.
  obtain ⟨d, hd, hletter⟩ : ∃ d ∈ word,
      d ∉ Guid.guidChars ∧ d ∉ Guid.numeralChars := by
    have hall : reservedWords.all (fun word => word.any fun d =>
        !Guid.guidChars.elem d && !Guid.numeralChars.elem d) = true := by decide
    simpa using List.all_eq_true.1 hall word hword
  intro hpart
  rcases mayMeet_of_infix h.fills hne hpart with hfound | ⟨hole, hmem, hinside⟩
  · rw [hmeet] at hfound
    cases hfound
  · cases hole with
    | name =>
        obtain ⟨part, hpath, hinside⟩ := infix_join hinside hne (by simp) (by simpa using hcolon)
        exact h.reserved part hpath word hword hinside
    | guid => exact hletter.1 (Guid.mem_guidChars h.guid (hinside.subset hd))
    | number index =>
        obtain ⟨n, hn⟩ := h.exists_number hmem
        exact hletter.2 (hn.mem (hinside.subset hd))

end Printed.Fits

end GuidAtlas.Header
