import GuidAtlas.Proofs.Header.Positions.Cursor
import Mathlib.Data.List.Basic
import Mathlib.Data.List.TakeWhile

/-!
Initializers and argument lists, gathered line by line and cut out by the positions of their braces
and parentheses.
-/

namespace GuidAtlas.Header

open Text

/-- The GUID of an initializer, from its first opening brace to the first two closing ones. -/
def initializerGuid? (t : Text) : Option (Option Text) :=
  let compact := t.filter fun c => !isBlank c
  match find? "\x7b" compact, find? "\x7d\x7d" compact with
  | some start, some stop =>
    if stop ≤ start then some none
    else do
      let body ← slice? start stop compact
      return Guid.ofNumbers? (splitAt ',' (body.filter (· ≠ '{')))
  | _, _ => some none

def argumentsIn? (t : Text) : Option (Option (List Text)) :=
  match find? "(" t with
  | none => some none
  | some opening => do
    let start := opening + 1
    let rest ← sliceFrom? start t
    match find? ")" rest with
    | none => some none
    | some closing =>
      let inner ← slice? start (closing + start) t
      return some ((splitAt ',' inner).map trim)

namespace Cursor

def initializerFrom? (text : Text) (closing : Nat) (cursor : Cursor) :
    Option (Option Text × Cursor) :=
  if isValid cursor.current true then
    let closing := closing + cursor.current.count '}'
    let text := text ++ cursor.current
    if 2 ≤ closing then do
      let guid ← initializerGuid? text
      return (guid, cursor)
    else
      match _hadvance : cursor.advanceValid true searchWindow with
      | (some _, cursor) => initializerFrom? text closing cursor
      | (none, cursor) => some (none, cursor)
  else some (none, cursor)
termination_by cursor.below.length
decreasing_by exact length_below_lt _hadvance

def initializer? (cursor : Cursor) : Option (Option Text × Cursor) :=
  initializerFrom? [] 0 cursor

def gatherParentheses? (text : Text) (cursor : Cursor) : Option (Option Text × Cursor) :=
  if hasParentheses text then some (some text, cursor)
  else
    match _hadvance : cursor.advanceValid false searchWindow with
    | (some line, cursor) => gatherParentheses? (text ++ line) cursor
    | (none, cursor) => some (none, cursor)
termination_by cursor.below.length
decreasing_by exact length_below_lt _hadvance

def arguments? (count : Nat) (cursor : Cursor) : Option (Option (List Text) × Cursor) := do
  match ← gatherParentheses? cursor.current cursor with
  | (none, cursor) => return (none, cursor)
  | (some text, cursor) =>
    let args ← argumentsIn? text
    return (args.filter (·.length = count), cursor)

end Cursor

theorem initializerGuid?_eq (t : Text) : initializerGuid? t = some (Guid.ofInitializer? t) := by
  rw [initializerGuid?, Guid.ofInitializer?]
  generalize t.filter (fun c => !isBlank c) = compact
  cases hclose : cut? "\x7d\x7d" compact with
  | none =>
      rw [find?, find?, hclose]
      cases cut? "\x7b" compact <;> rfl
  | some parts =>
      obtain ⟨head, rest⟩ := parts
      have hcompact := eq_append_of_cut? hclose
      have hstop : find? "\x7d\x7d" compact = some (utf8Length head) := by rw [find?, hclose]; rfl
      rw [hstop]
      simp only [Option.bind_eq_bind, Option.bind_some]
      by_cases hopen : '{' ∈ head
      case pos =>
        obtain ⟨before, body, rfl, hbefore⟩ := List.eq_append_cons_of_mem hopen
        have htext : compact = before ++ ('{' :: body ++ ("\x7d\x7d".toList ++ rest)) := by
          simpa using hcompact
        have hstart : find? "\x7b" compact = some (utf8Length before) := by
          rw [htext]
          exact find?_append_self hbefore [] (body ++ ("\x7d\x7d".toList ++ rest))
        have hless : ¬utf8Length (before ++ '{' :: body) ≤ utf8Length before := by
          have := '{'.utf8Size_pos
          rw [utf8Length_append, utf8Length_cons]
          omega
        have hbody : slice? (utf8Length before) (utf8Length (before ++ '{' :: body)) compact =
            some ('{' :: body) := by
          rw [htext, utf8Length_append, Nat.add_comm, slice?_append]
        have hskipped : (before ++ '{' :: body).dropWhile (· ≠ '{') = '{' :: body := by
          have hpassed : ∀ c ∈ before, decide (c ≠ '{') = true := fun c hc => by
            simpa using ne_of_mem_of_not_mem hc hbefore
          rw [List.dropWhile_append_of_pos hpassed]
          simp
        simp only [hstart, if_neg hless, hbody, hskipped]
        rfl
      case neg =>
        have hskipped : head.dropWhile (· ≠ '{') = [] :=
          List.dropWhile_eq_nil_iff.2 fun c hc => by simpa using ne_of_mem_of_not_mem hc hopen
        have hfind : find? "\x7b" compact =
            (find? ['{'] ("\x7d\x7d".toList ++ rest)).map (· + utf8Length head) := by
          rw [hcompact, List.append_assoc]
          exact find?_append hopen [] _
        rw [hskipped, hfind]
        cases find? ['{'] ("\x7d\x7d".toList ++ rest) with
        | none => rfl
        | some start => simp

theorem argumentsIn?_eq (t : Text) : argumentsIn? t = some (argumentsOf? t) := by
  rw [argumentsIn?, argumentsOf?, find?]
  cases hopen : cut? "(" t with
  | none => rfl
  | some parts =>
      obtain ⟨before, rest⟩ := parts
      obtain rfl := eq_append_of_cut? hopen
      have hstart : utf8Length before + 1 = utf8Length (before ++ "(".toList) :=
        (utf8Length_append before "(").symm
      simp only [Option.map_some, hstart, sliceFrom?_append, Option.bind_eq_bind, Option.bind_some,
        find?]
      cases hclose : cut? ")" rest with
      | none => rfl
      | some parts =>
          obtain ⟨inner, behind⟩ := parts
          obtain rfl := eq_append_of_cut? hclose
          simp only [Option.map_some, Option.bind_some, List.append_assoc inner, slice?_append]
          rfl

namespace Cursor

theorem searches_gatherFrom (complete : Text → Bool) (allowBraces : Bool) (text : Text) :
    Searches allowBraces none (fun line => gather complete allowBraces (text ++ line))
      (gatherFrom complete allowBraces text) where
  closed below := by cases below <;> rfl
  ended window := by cases window <;> rfl
  looked window line below := by
    rw [gatherFrom, gather]
    by_cases hdone : complete (text ++ line) = true
    · simp [hdone, Reading.below]
    · simp [hdone]

theorem reads_gatherParentheses? (text : Text) (cursor : Cursor) :
    cursor.Reads (cursor.gatherParentheses? text)
      (gather hasParentheses false text cursor.below) := by
  induction hn : cursor.below.length using Nat.strong_induction_on generalizing text cursor with
  | h n ih =>
      rw [gatherParentheses?, gather]
      by_cases hdone : hasParentheses text = true
      case pos =>
        rw [if_pos hdone, if_pos hdone]
        exact ⟨cursor, rfl, .refl cursor⟩
      case neg =>
        rw [if_neg hdone, if_neg hdone]
        rcases advanceValid_cases (searches_gatherFrom hasParentheses false text) cursor
            searchWindow with
          ⟨later, taken, hadvance, htakes, hsearch⟩ |
            ⟨line, later, taken, hadvance, -, -, htakes, hsearch⟩
        · rw [hadvance, hsearch]
          exact ⟨later, rfl, htakes⟩
        · rw [hadvance, hsearch]
          obtain ⟨last, hread, hlast⟩ :=
            ih _ (hn ▸ length_below_lt hadvance) (text ++ line) later rfl
          exact ⟨last, hread, Nat.add_comm _ _ ▸ htakes.trans hlast⟩

theorem reads_initializerFrom? {text : Text} {closing : Nat} {cursor : Cursor}
    (hvalid : isValid cursor.current true = true) (hclosing : closing = text.count '}') :
    cursor.Reads (cursor.initializerFrom? text closing)
      ⟨(gather closesTwice true (text ++ cursor.current) cursor.below).value.bind
        Guid.ofInitializer?,
        (gather closesTwice true (text ++ cursor.current) cursor.below).taken⟩ := by
  induction hn : cursor.below.length using Nat.strong_induction_on generalizing text closing cursor
    with
  | h n ih =>
      have hcount : closing + cursor.current.count '}' = (text ++ cursor.current).count '}' := by
        rw [hclosing, List.count_append]
      rw [initializerFrom?, if_pos hvalid, gather]
      simp only [hcount, initializerGuid?_eq, closesTwice, decide_eq_true_eq]
      by_cases hdone : 2 ≤ (text ++ cursor.current).count '}'
      case pos =>
        simp only [if_pos hdone]
        exact ⟨cursor, rfl, .refl cursor⟩
      case neg =>
        simp only [if_neg hdone]
        rcases advanceValid_cases (searches_gatherFrom closesTwice true (text ++ cursor.current))
            cursor searchWindow with
          ⟨later, taken, hadvance, htakes, hsearch⟩ |
            ⟨line, later, taken, hadvance, rfl, hfound, htakes, hsearch⟩
        · rw [hadvance, hsearch]
          exact ⟨later, rfl, htakes⟩
        · rw [hadvance, hsearch]
          obtain ⟨last, hread, hlast⟩ := ih _ (hn ▸ length_below_lt hadvance) hfound rfl rfl
          exact ⟨last, hread, Nat.add_comm _ _ ▸ htakes.trans hlast⟩

theorem reads_initializer? {cursor : Cursor} (hvalid : isValid cursor.current true = true) :
    cursor.Reads cursor.initializer? (initializer cursor.current cursor.below) :=
  reads_initializerFrom? hvalid rfl

theorem reads_arguments? (count : Nat) (cursor : Cursor) :
    cursor.Reads (cursor.arguments? count) (arguments count cursor.current cursor.below) := by
  obtain ⟨later, hgather, htakes⟩ := reads_gatherParentheses? cursor.current cursor
  refine ⟨later, ?_, htakes⟩
  rw [arguments?, hgather, arguments]
  cases (gather hasParentheses false cursor.current cursor.below).value with
  | none => rfl
  | some text => simp [argumentsIn?_eq]

end Cursor

end GuidAtlas.Header
