import GuidAtlas.Logging.Level
import GuidAtlas.Text.Alphanumeric

/-!
Filters on events: directives with verbosities for targets. Of the directives whose target starts
the target of an event the longest one decides.
-/

namespace GuidAtlas.Logging

open Text

inductive Scope where
  | everything
  | field (name : Text)
  /-- Events inside a span, of which there are none. -/
  | span
  deriving DecidableEq

structure Directive where
  /-- The start of the targets that are meant; `none` means all of them. -/
  target : Option Text
  verbosity : Verbosity
  scope : Scope
  deriving DecidableEq

inductive DirectiveFault where
  | malformed
  | level
  deriving DecidableEq

def DirectiveFault.message : DirectiveFault → Text
  | .malformed => "invalid filter directive"
  | .level => Verbosity.expectedText

namespace Directive

def startsTarget (c : Char) : Bool := c = '-' || c = ':' || c = '_' || isAlphanumeric c

def levelAfter (t : Text) : Except DirectiveFault Verbosity :=
  if t.isEmpty then .ok (some .trace)
  else match Verbosity.ofText? t with
    | some verbosity => .ok verbosity
    | none => .error .level

def slice (start stop : Nat) (t : Text) : Text :=
  let rest := dropBytes start t
  rest.take (rest.length - (dropBytes (stop - start) rest).length)

/-- The end of a directive after a bracket: `rest`, which stands at a byte position of `t`. -/
def ofEnd (target : Option Text) (scope : Scope) (t : Text) (position : Nat) :
    (rest : Text) → Except DirectiveFault Directive
  | [] => .ok ⟨target, some .trace, scope⟩
  | '=' :: _ =>
    (levelAfter (dropBytes (position + 1) t)).map fun verbosity => ⟨target, verbosity, scope⟩
  | _ => .error .malformed

/-- What stands in square brackets: a span, or a span and a field in curly brackets. Without a span
and a value the field is asked of the event itself. -/
def ofBracket (target : Option Text) (t : Text) (position : Nat) (rest : Text) :
    Except DirectiveFault Directive :=
  let span := rest.takeWhile fun c => c ≠ ']' && c ≠ '\x7b'
  let spanEnd := position + utf8Length span
  match rest.drop span.length with
  | ']' :: rest => ofEnd target .span t (spanEnd + 1) rest
  | _ :: rest =>
    let inner := rest.takeWhile (· ≠ '\x7d')
    let innerEnd := spanEnd + 1 + utf8Length inner
    let field := slice (spanEnd + 1) innerEnd t
    match rest.drop inner.length with
    | _ :: ']' :: rest =>
      if inner.isEmpty then .error .malformed
      else
        let scope := if span.isEmpty && !field.elem '=' then .field field else .span
        ofEnd target scope t (innerEnd + 2) rest
    | _ => .error .malformed
  | [] => .error .malformed

/-- Reads a directive. Positions are found in the text without the blanks around it and taken from
the whole text. -/
def parse (t : Text) : Except DirectiveFault Directive :=
  match trim t with
  | [] => .error .malformed
  | c :: rest =>
    if c = '[' then ofBracket none t 1 rest
    else if !startsTarget c then .error .malformed
    else
      let before := (c :: rest).takeWhile fun c => c ≠ '=' && c ≠ '['
      let position := utf8Length before
      let target := slice 0 position t
      match (c :: rest).drop before.length with
      | [] =>
        .ok (match Verbosity.ofText? t with
          | some verbosity => ⟨none, verbosity, .everything⟩
          | none => ⟨some t, some .trace, .everything⟩)
      | '=' :: rest => ofEnd (some target) .everything t position ('=' :: rest)
      | _ :: inner => ofBracket (some target) t (position + 1) inner

def messageField : Text := "message"

def concerns (directive : Directive) (target : Text) : Bool :=
  (match directive.scope with
    | .everything => true
    | .field name => name = messageField
    | .span => false) &&
    directive.target.all (startsWith target)

/-- Orders directives: first by the number of bytes of the target, one more than that to be above a
directive without one, then by whether a field is asked for. -/
def specificity (directive : Directive) : Nat :=
  2 * directive.target.elim 0 (fun target => utf8Length target + 1) +
    match directive.scope with
    | .field _ => 1
    | _ => 0

end Directive

abbrev Filter := List Directive

namespace Filter

def parts (t : Text) : List Text := (splitAt ',' t).filter (!·.isEmpty)

/-- The directives, or the one for all targets if there are none. -/
def orDefault (standard : Verbosity) (directives : Filter) : Filter :=
  if directives.isEmpty then [⟨none, standard, .everything⟩] else directives

def parse (standard : Verbosity) (t : Text) : Except DirectiveFault Filter :=
  ((parts t).mapM Directive.parse).map (orDefault standard)

def parseLossy (standard : Verbosity) (t : Text) : Filter :=
  orDefault standard ((parts t).filterMap fun part => (Directive.parse part).toOption)

def notes (t : Text) : Text :=
  unlines ((parts t).filterMap fun part =>
    match Directive.parse part with
    | .ok _ => none
    | .error fault => some ("ignoring `" ++ part ++ "`: " ++ fault.message))

/-- The directive that decides about a target: the most specific one, the last of equal ones. -/
def deciding? (filter : Filter) (target : Text) : Option Directive :=
  (filter.filter (·.concerns target)).foldl (fun best directive =>
    match best with
    | none => some directive
    | some other =>
      if other.specificity ≤ directive.specificity then some directive else some other) none

def allows (filter : Filter) (target : Text) (level : Level) : Bool :=
  (filter.deciding? target).any fun directive => Verbosity.allows directive.verbosity level

end Filter

end GuidAtlas.Logging
