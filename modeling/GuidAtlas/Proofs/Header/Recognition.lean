import GuidAtlas.Proofs.Header.Arguments
import GuidAtlas.Proofs.Header.Prepare

/-!
Every printed declaration is recognized by the rule of its form: no rule that is tried before takes
its line, and the rule reads the GUID and the name without a look at other lines.
-/

namespace GuidAtlas.Header

open Text Pieces

variable {printed : Printed} {form : Form} {projected : Bool} {above below : List Text}

def Form.beforeGuid (form : Form) : Pieces := form.pieces.takeWhile (· ≠ .hole .guid)

def Form.afterGuid (form : Form) : Pieces := (form.pieces.dropWhile (· ≠ .hole .guid)).tail

def Form.showsGuid (form : Form) : Bool := form.pieces.elem (.hole .guid)

/-- The number of arguments of a macro with the GUID among them, and the place of the name. -/
def Form.argument? : Form → Option (Nat × Nat)
  | .derivedInterface | .startList => some (3, 0)
  | .plainInterface | .crossPlatform => some (2, 0)
  | .guidStruct => some (2, 1)
  | .codecapi => some (13, 0)
  | _ => none

theorem Form.pieces_eq (h : form.showsGuid = true) :
    form.pieces = form.beforeGuid ++ .hole .guid :: form.afterGuid := by
  cases form <;> first | rfl | cases h

def isBeforeGuid : Piece Hole → Bool
  | .lit t => !t.elem '-'
  | .hole hole => hole = .name

theorem Form.beforeGuid_parts (h : form.showsGuid = true) :
    form.beforeGuid.all isBeforeGuid = true := by
  revert h
  cases form <;> decide

theorem Form.beforeGuid_last (h : form.showsGuid = true) : ∃ (first : Pieces) (t : Text) (c : Char),
    form.beforeGuid = first ++ [.lit (t ++ [c])] ∧ Guid.isHexDigit c = false := by
  have hcheck : (form.beforeGuid.getLast?.any fun
      | .lit t => t.getLast?.any (!Guid.isHexDigit ·)
      | .hole _ => false) = true := by
    revert h
    cases form <;> decide
  obtain ⟨piece, hpiece, hcheck⟩ := (Option.any_eq_true _ _).1 hcheck
  obtain ⟨first, hfirst⟩ := List.getLast?_eq_some_iff.1 hpiece
  cases piece with
  | hole hole => cases hcheck
  | lit t =>
      obtain ⟨c, hlast, hc⟩ := (Option.any_eq_true _ _).1 hcheck
      obtain ⟨t, rfl⟩ := List.getLast?_eq_some_iff.1 hlast
      exact ⟨first, t, c, hfirst, by simpa using hc⟩

namespace Printed

theorem text_eq (h : printed.form.showsGuid = true) :
    printed.text = fillAll printed.values printed.form.beforeGuid ++ printed.guid ++
      fillAll printed.values printed.form.afterGuid := by
  rw [text, Form.pieces_eq h, fillAll_append, fillAll_cons, List.append_assoc]
  rfl

theorem isValid_text (printed : Printed) : isValid printed.text false = true := by
  obtain ⟨form, guid, path, numbers⟩ := printed
  cases form <;> rfl

theorem afterStart?_staticUuid (h : printed.form ≠ .staticUuid) :
    afterStart? "static const UUID " printed.text = none := by
  obtain ⟨form, guid, path, numbers⟩ := printed
  cases form <;> first | rfl | exact absurd rfl h

theorem isDefineGuid_text (printed : Printed) :
    isDefineGuid printed.text = decide (printed.form = .defineGuid) := by
  obtain ⟨form, guid, path, numbers⟩ := printed
  cases form <;> rfl

namespace Fits

theorem isTight_text (h : printed.Fits) : IsTight printed.text := by
  obtain ⟨hscan, -⟩ := printed.form.checked
  exact (foldl_tighten_fillAll h.fills (some false)).trans hscan

theorem not_namespace_text (h : printed.Fits) : ¬"namespace".toList <:+: printed.text := by
  obtain ⟨-, -, -, -, hnamespace, -⟩ := printed.form.checked
  exact h.not_reserved_text List.mem_cons_self hnamespace

theorem not_declspec_text (h : printed.Fits) (rest : Text) :
    ¬"__declspec(".toList ++ rest <:+: printed.text := by
  obtain ⟨-, -, hdeclspec, -⟩ := printed.form.checked
  intro hpart
  exact h.not_infix_text hdeclspec (by decide) ((List.prefix_append _ rest).isInfix.trans hpart)

theorem prepares_text (h : printed.Fits) : Prepares printed.text printed.text := by
  obtain ⟨-, -, -, hnovtable, -⟩ := printed.form.checked
  have hbackslash : '\\' ∉ printed.text := h.not_mem_text (by decide)
  exact prepares_self h.isTight_text (fun hlast => hbackslash (List.mem_of_getLast? hlast))
    (h.not_mem_text (by decide)) (h.not_declspec_text "novtable)".toList)
    (h.not_reserved_text (by decide) hnovtable)

/-- The first GUID of a line is the one in its hole: before it stand names and fixed parts without
dashes, and last a quote or a brace. -/
theorem first?_text (h : printed.Fits) (hshows : printed.form.showsGuid = true) :
    Guid.first? printed.text =
      some (fillAll printed.values printed.form.beforeGuid, printed.guid) := by
  have hdash : '-' ∉ fillAll printed.values printed.form.beforeGuid := by
    intro hmem
    obtain ⟨piece, hpiece, hmem⟩ := List.mem_flatMap.1 hmem
    have hpart := List.all_eq_true.1 (Form.beforeGuid_parts hshows) piece hpiece
    cases piece with
    | lit t =>
        have hnone : '-' ∉ t := by simpa [isBeforeGuid] using hpart
        exact hnone hmem
    | hole hole =>
        cases of_decide_eq_true hpart
        rcases h.mem_name hmem with hname | hcolon
        · exact absurd hname (by decide)
        · cases hcolon
  have hlast : ∀ c ∈ (fillAll printed.values printed.form.beforeGuid).getLast?,
      Guid.isHexDigit c = false := by
    obtain ⟨first, t, c, hbefore, hc⟩ := Form.beforeGuid_last hshows
    rw [hbefore, fillAll_append]
    simpa [Piece.fill] using hc
  rw [text_eq hshows]
  exact Guid.first?_append h.guid hdash hlast _

/-- Where a GUID is written no rule for numbers is tried. -/
theorem readLine_eq_writtenForm (h : printed.Fits) (hshows : printed.form.showsGuid = true) :
    readLine projected above printed.text below =
      writtenForm (upper printed.guid) above ⟨printed.text,
        utf8Length (fillAll printed.values printed.form.beforeGuid ++ printed.guid), below⟩ := by
  have hform : printed.form ≠ .staticUuid ∧ printed.form ≠ .defineGuid ∧
      printed.form ≠ .variableTemplate := by
    revert hshows
    cases printed.form <;> decide
  obtain ⟨hstatic, hdefine, htemplate⟩ := hform
  obtain ⟨-, -, -, -, -, -, hmarker⟩ := printed.form.checked
  have hcut : cut? "inline constexpr guid" printed.text = none :=
    cut?_eq_none_iff.2 (h.not_infix_text (hmarker.resolve_left htemplate) (by decide))
  rw [readLine, afterStart?_staticUuid hstatic, isDefineGuid_text, decide_eq_false hdefine, hcut,
    h.first?_text hshows, utf8Length_append]
  rfl

theorem contains_uuid (h : printed.Fits) : contains printed.text "[uuid(" = false := by
  rw [Bool.eq_false_iff, ne_eq, contains_iff]
  intro hpart
  exact h.not_mem_text (d := '[') (by decide) (hpart.subset (by simp))

theorem any_nameAfterMarkers (h : printed.Fits)
    (hform : printed.form ∉ [.declspecClass, .declspecTypedef]) :
    nameAfterMarkers.any (contains printed.text) = false := by
  obtain ⟨-, -, -, -, -, hword, -⟩ := printed.form.checked
  have huuid : contains printed.text "DECLSPEC_UUID" = false := by
    rw [Bool.eq_false_iff, ne_eq, contains_iff]
    exact h.not_reserved_text (by decide) (hword.resolve_left hform)
  have hdeclspec : contains printed.text "__declspec(uuid(" = false := by
    rw [Bool.eq_false_iff, ne_eq, contains_iff]
    exact h.not_declspec_text "uuid(".toList
  rw [nameAfterMarkers, List.any_cons, List.any_cons, List.any_nil, huuid, hdeclspec]
  rfl

theorem writtenForm_nameAfter (h : printed.Fits)
    (hform : printed.form = .midlInterface ∨ printed.form = .declspecClass) {guid : Text}
    {offset : Nat} :
    writtenForm guid above ⟨printed.text, offset, below⟩ =
      nameAfter guid above ⟨printed.text, offset, below⟩ := by
  have hbracket := h.contains_uuid
  obtain ⟨form, written, path, numbers⟩ := printed
  rcases hform with rfl | rfl
  all_goals
    simp only [writtenForm, hbracket, Bool.or_false]
    rfl

theorem writtenForm_kindAndName (hform : printed.form = .declspecTypedef) {guid : Text}
    {offset : Nat} : writtenForm guid above ⟨printed.text, offset, below⟩ =
      kindAndName guid ⟨printed.text, offset, below⟩ := by
  obtain ⟨form, written, path, numbers⟩ := printed
  cases hform
  rfl

theorem writtenForm_argument (h : printed.Fits) {count index : Nat}
    (hform : printed.form.argument? = some (count, index)) {guid : Text} {offset : Nat} :
    writtenForm guid above ⟨printed.text, offset, below⟩ =
      argument guid count index printed.text below := by
  have hbracket := h.contains_uuid
  have hdeclspec : printed.form ∉ [.declspecClass, .declspecTypedef] := by
    revert hform
    cases printed.form <;> simp [Form.argument?]
  have hmarkers := h.any_nameAfterMarkers hdeclspec
  obtain ⟨form, written, path, numbers⟩ := printed
  -- What is left are tests of the start of the line, which compute on each form.
  cases form <;> cases hform
  all_goals
    simp only [writtenForm, hbracket, hmarkers, Bool.or_false]
    rfl

end Fits

end Printed

end GuidAtlas.Header
