import GuidAtlas.Proofs.Header.Visits
import GuidAtlas.Proofs.Text.Search

/-!
Which lines that show a GUID end up in what is read from a header. A visited line has an outcome of
its own unless its form is skipped; a line that is taken from above has none.
-/

namespace GuidAtlas.Header

open Text

/-- What follows the marker of a variable template, unless its line starts with the marker. -/
def afterTemplateMarker? (line : Text) : Option Text :=
  match cut? "inline constexpr guid" line with
  | some (_ :: _, rest) => some rest
  | _ => none

/-- What stands between the brackets after the marker. -/
def bracketed? (afterMarker : Text) : Option Text := do
  let (_, rest) ← cut? "<" afterMarker
  let (name, _) ← cutLast? ">" rest
  return name

/-- The forms for which a line with a GUID says nothing. -/
def SkippedOnPurpose (line : Text) : Prop :=
  startsWith line "DECLARE_EVENTGUID_STRING" = true ∨
  (isDefineGuid line = true ∧
    (contains line "STATIC_IID_" || contains line "STATIC_CLSID_") = true) ∨
  ((afterTemplateMarker? line).isSome = true ∧ Guid.ofInitializer? line = none)

instance (line : Text) : Decidable (SkippedOnPurpose line) :=
  inferInstanceAs (Decidable (_ ∨ _ ∨ _))

/-- A variable template that names nothing between brackets. -/
def Nameless (line : Text) : Prop :=
  afterStart? "static const UUID " line = none ∧ isDefineGuid line = false ∧
    ∃ rest, afterTemplateMarker? line = some rest ∧ bracketed? rest = none

variable {projected : Bool} {line before guid : Text} {above below : List Text}

/-- The rules that a line is read by, in the order in which they are tried. -/
theorem readLine_eq_byRule (projected : Bool) (above : List Text) (line : Text)
    (below : List Text) : readLine projected above line below =
      match afterStart? "static const UUID " line with
      | some rest => staticUuid rest line below
      | none =>
        if isDefineGuid line then defineGuid line below
        else match afterTemplateMarker? line with
          | some rest => ⟨variableTemplate projected line rest, 0⟩
          | none =>
            match Guid.first? line with
            | none => ⟨.nothing, 0⟩
            | some (before, guid) =>
              writtenForm (upper guid) above
                ⟨line, utf8Length before + utf8Length guid, below⟩ := by
  rw [readLine, afterTemplateMarker?]
  cases cut? "inline constexpr guid" line with
  | none => rfl
  | some parts =>
      obtain ⟨head, rest⟩ := parts
      cases head <;> rfl

theorem staticUuid_ne_nothing (rest line : Text) (below : List Text) :
    (staticUuid rest line below).value ≠ .nothing := by
  rw [staticUuid]
  cases assigned? rest with
  | none => simp
  | some name =>
      cases h : (initializer line below).value <;> simp [h]

theorem defineGuid_ne_nothing
    (h : (contains line "STATIC_IID_" || contains line "STATIC_CLSID_") = false) :
    (defineGuid line below).value ≠ .nothing := by
  simp only [defineGuid, h]
  cases (arguments 12 line below).value with
  | none => simp
  | some args =>
      cases hname : args.head? <;> cases hguid : Guid.ofNumbers? args.tail <;> simp [hname, hguid]

theorem variableTemplate_eq_nothing_iff {rest : Text} (h : Guid.ofInitializer? line ≠ none) :
    variableTemplate projected line rest = .nothing ↔ bracketed? rest = none := by
  obtain ⟨guid, hguid⟩ := Option.ne_none_iff_exists'.1 h
  simp only [variableTemplate, bracketed?, hguid]
  cases cut? "<" rest with
  | none => simp
  | some open_ =>
      cases hclose : cutLast? ">" open_.2 with
      | none =>
          simp only [Option.bind_eq_bind, Option.bind_some, hclose]
          simp
      | some close =>
          simp only [Option.bind_eq_bind, Option.bind_some, hclose]
          by_cases hshort : utf8Length (dotted close.1) ≤ 3 <;> simp [hshort]

theorem argument_ne_nothing (guid : Text) (count index : Nat) (line : Text) (below : List Text) :
    (argument guid count index line below).value ≠ .nothing := by
  simp only [argument]
  cases (arguments count line below).value.bind (·[index]?) <;> simp

theorem kindAndName_ne_nothing (guid : Text) (place : Place) :
    (kindAndName guid place).value ≠ .nothing := by
  simp only [kindAndName]
  cases (nextWord place).value with
  | none => simp
  | some kind => by_cases hkind : (tidy kind.text).isEmpty = true <;> simp [hkind]

theorem nameAfter_ne_nothing (guid : Text) (above : List Text) (place : Place) :
    (nameAfter guid above place).value ≠ .nothing := by
  simp only [nameAfter]
  split <;> simp

theorem writtenForm_ne_nothing {place : Place}
    (h : startsWith place.line "DECLARE_EVENTGUID_STRING" = false) :
    (writtenForm guid above place).value ≠ .nothing := by
  simp only [writtenForm, h, Bool.false_eq_true, if_false]
  repeat' split
  all_goals first
    | exact kindAndName_ne_nothing _ _
    | exact nameAfter_ne_nothing _ _ _
    | exact argument_ne_nothing _ _ _ _ _
    | simp

/-- A line that shows a GUID in a form that is not skipped has an outcome, unless it is nameless. -/
theorem readLine_eq_nothing_iff (hguid : Guid.first? line = some (before, guid))
    (hskip : ¬SkippedOnPurpose line) :
    (readLine projected above line below).value = .nothing ↔ Nameless line := by
  simp only [SkippedOnPurpose, not_or, not_and, Bool.not_eq_true] at hskip
  obtain ⟨hevent, hstatic, htemplate⟩ := hskip
  rw [readLine_eq_byRule]
  cases huuid : afterStart? "static const UUID " line with
  | some rest =>
      refine iff_of_false (staticUuid_ne_nothing rest line below) fun h => ?_
      rw [h.1] at huuid
      cases huuid
  | none =>
      cases hdefine : isDefineGuid line with
      | true =>
          refine iff_of_false (defineGuid_ne_nothing (hstatic hdefine)) fun h => ?_
          rw [h.2.1] at hdefine
          cases hdefine
      | false =>
          have hnameless : Nameless line ↔
              ∃ rest, afterTemplateMarker? line = some rest ∧ bracketed? rest = none := by
            simp only [Nameless, huuid, hdefine, true_and]
          rw [hnameless]
          cases hafter : afterTemplateMarker? line with
          | none =>
              simp only [hguid]
              exact iff_of_false (writtenForm_ne_nothing hevent) (by simp)
          | some rest =>
              have hread := htemplate (by rw [hafter]; rfl)
              simp only [Option.some.injEq, exists_eq_left']
              exact variableTemplate_eq_nothing_iff hread

/-- A line, which is counted from one, has an outcome of its own, or a declaration that started
above it has its GUID. -/
def Contents.AccountsFor (contents : Contents) (n : Nat) (guid : Text) : Prop :=
  (∃ declaration ∈ contents.declarations, declaration.line = n) ∨ n ∈ contents.unread ∨
    ∃ declaration ∈ contents.declarations, declaration.line < n ∧ declaration.guid = guid

theorem exists_outcome_iff {t : Text} {i : Nat} :
    ((∃ declaration ∈ (read projected t).declarations, declaration.line = i + 1) ∨
      i + 1 ∈ (read projected t).unread) ↔
    Visited projected (prepare t) i ∧ (readingAt projected (prepare t) i).value ≠ .nothing := by
  constructor
  · rintro (⟨⟨guid, name, _⟩, hmem, rfl⟩ | hmem)
    · obtain ⟨j, hvisited, hvalue, hline⟩ :=
        (@holds_read projected (.found guid name) (by simp) t _).1 hmem
      cases hline
      exact ⟨hvisited, by simp [hvalue]⟩
    · obtain ⟨j, hvisited, hvalue, hline⟩ := (@holds_read projected .unread (by simp) t _).1 hmem
      cases hline
      exact ⟨hvisited, by simp [hvalue]⟩
  · rintro ⟨hvisited, hne⟩
    have hholds := (holds_read hne).2 ⟨i, hvisited, rfl, rfl⟩
    cases houtcome : (readingAt projected (prepare t) i).value with
    | found guid name => exact .inl ⟨⟨guid, name, i + 1⟩, by rwa [houtcome] at hholds, rfl⟩
    | unread => exact .inr (by rwa [houtcome] at hholds)
    | nothing => exact absurd houtcome hne

/-- A valid line that shows a GUID in a form that is not skipped is accounted for unless a reading
from above takes it or it is a nameless template, and no declaration above it has its GUID. -/
theorem accountsFor_iff {t : Text} {i : Nat} (hline : (prepare t)[i]? = some line)
    (hvalid : isValid line false = true) (hguid : Guid.first? line = some (before, guid))
    (hskip : ¬SkippedOnPurpose line) :
    (read projected t).AccountsFor (i + 1) (upper guid) ↔
      (¬Taken projected (prepare t) i ∧ ¬Nameless line) ∨
      ∃ declaration ∈ (read projected t).declarations,
        declaration.line < i + 1 ∧ declaration.guid = upper guid := by
  have hvisited : Visited projected (prepare t) i ↔ ¬Taken projected (prepare t) i :=
    ⟨Visited.not_taken, (visited_or_taken projected (prepare t) i).resolve_right⟩
  rw [Contents.AccountsFor, ← or_assoc, exists_outcome_iff, hvisited,
    readingAt_of_getElem? hline hvalid, ne_eq, readLine_eq_nothing_iff hguid hskip]

/-- A line that the declaration above it takes for its name shows the GUID of that declaration; the
line below is visited again. -/
theorem accountsFor_taken_line :
    let first : Text := "MIDL_INTERFACE(\"aec22fb8-76f3-4639-9be0-28eb43a67a2e\")"
    let line : Text := "IFoo __declspec(uuid(\"AEC22FB8-76f3-4639-9be0-28eb43a67a2e\"))"
    let last : Text := "MIDL_INTERFACE(\"0af86e2e-b12d-4c6a-9c5a-d7aa65101e90\") IBar"
    let t : Text := first ++ '\n' :: line ++ '\n' :: last
    let before : Text := "IFoo __declspec(uuid(\""
    let guid : Text := "AEC22FB8-76f3-4639-9be0-28eb43a67a2e"
    let marker : Text := "MIDL_INTERFACE(\""
    let other : Text := "0af86e2e-b12d-4c6a-9c5a-d7aa65101e90"
    ((prepare t)[1]? = some line ∧ isValid line false = true ∧
      Guid.first? line = some (before, guid) ∧ ¬SkippedOnPurpose line ∧
      Taken false (prepare t) 1 ∧ (read false t).AccountsFor 2 (upper guid)) ∧
    ((prepare t)[2]? = some last ∧ isValid last false = true ∧
      Guid.first? last = some (marker, other) ∧ ¬SkippedOnPurpose last ∧
      ¬Taken false (prepare t) 2 ∧ (read false t).AccountsFor 3 (upper other)) := by
  intro first line last t before guid marker other
  have hlines : prepare t = [first, line, last] := by decide +kernel
  have hline : (prepare t)[1]? = some line := congrArg (·[1]?) hlines
  have hlast : (prepare t)[2]? = some last := congrArg (·[2]?) hlines
  have hvalid : isValid line false = true := by decide +kernel
  have hvalidLast : isValid last false = true := by decide +kernel
  have hguid : Guid.first? line = some (before, guid) := by decide +kernel
  have hguidLast : Guid.first? last = some (marker, other) := by decide +kernel
  have hskip : ¬SkippedOnPurpose line := by decide +kernel
  have hskipLast : ¬SkippedOnPurpose last := by decide +kernel
  have htook : (readingAt false (prepare t) 0).taken = 1 := by rw [hlines]; decide +kernel
  have htaken : Taken false (prepare t) 1 := ⟨0, Nat.one_pos, .here 0, by rw [htook]⟩
  have hvisited : Visited false (prepare t) 2 := by
    have hnext : nextVisit false (prepare t) 0 = 2 := by rw [nextVisit, htook]
    refine .later ?_
    rw [hnext]
    exact .here 2
  have habove : ⟨upper guid, "IFoo", 1⟩ ∈ (read false t).declarations := by decide +kernel
  have hmarker : afterTemplateMarker? last = none := by decide +kernel
  have hnamed : ¬Nameless last := by
    rintro ⟨-, -, rest, hrest, -⟩
    rw [hmarker] at hrest
    cases hrest
  refine ⟨⟨hline, hvalid, hguid, hskip, htaken, ?_⟩,
    ⟨hlast, hvalidLast, hguidLast, hskipLast, hvisited.not_taken, ?_⟩⟩
  · exact (accountsFor_iff hline hvalid hguid hskip).2 (.inr ⟨_, habove, Nat.one_lt_two, rfl⟩)
  · exact (accountsFor_iff hlast hvalidLast hguidLast hskipLast).2
      (.inl ⟨hvisited.not_taken, hnamed⟩)

/-- A declaration whose arguments break off takes the declaration below it along, of which nothing
is recorded. -/
theorem not_accountsFor_below_unfinished :
    let line : Text := "MIDL_INTERFACE(\"aec22fb8-76f3-4639-9be0-28eb43a67a2e\") IFoo"
    let t : Text := "DEFINE_GUID(IID_A, 0x1,\n" ++ line
    let before : Text := "MIDL_INTERFACE(\""
    let guid : Text := "aec22fb8-76f3-4639-9be0-28eb43a67a2e"
    (prepare t)[1]? = some line ∧ isValid line false = true ∧
    Guid.first? line = some (before, guid) ∧ ¬SkippedOnPurpose line ∧
    ¬(read false t).AccountsFor 2 (upper guid) := by
  intro line t before guid
  have hread : read false t = ⟨[], [1]⟩ := by decide +kernel
  refine ⟨by decide +kernel, by decide +kernel, by decide +kernel, by decide +kernel, ?_⟩
  rw [hread]
  rintro (⟨declaration, hmem, -⟩ | hmem | ⟨declaration, hmem, -⟩)
  · cases hmem
  · exact absurd hmem (by decide)
  · cases hmem

end GuidAtlas.Header
