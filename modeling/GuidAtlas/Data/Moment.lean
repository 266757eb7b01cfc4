import GuidAtlas.Text.Basic

/-!
Dates and times of day, as they are written in data files.
-/

namespace GuidAtlas

open Text

structure CalendarDay where
  year : Nat
  month : Nat
  day : Nat
  deriving DecidableEq, Repr

structure TimeOfDay where
  hour : Nat
  minute : Nat
  second : Option Nat
  /-- At most nine digits after the point, without needless zeros at the end. -/
  fraction : Option Text
  deriving DecidableEq, Repr

/-- How far a clock is ahead of universal time. -/
inductive ClockOffset where
  | universal
  | ahead (minutes : Int)
  deriving DecidableEq, Repr

/-- A date, a time or both; the offset belongs to both. -/
structure Moment where
  day : Option CalendarDay
  time : Option TimeOfDay
  offset : Option ClockOffset
  deriving DecidableEq, Repr

/-- A number of exactly `width` decimal digits and what follows it. -/
def fixedNumber? (width : Nat) (t : Text) : Option (Nat × Text) :=
  if t.length < width then none else (number? 10 (t.take width)).map (·, t.drop width)

def fixedText (width n : Nat) : Text :=
  List.replicate (width - (decimal n).length) '0' ++ decimal n

namespace CalendarDay

def isLeapYear (year : Nat) : Bool := year % 4 = 0 && (year % 100 ≠ 0 || year % 400 = 0)

def daysIn (year month : Nat) : Nat :=
  if month = 2 then if isLeapYear year then 29 else 28
  else if ([4, 6, 9, 11] : List Nat).elem month then 30
  else 31

def read? (t : Text) : Option (CalendarDay × Text) := do
  let (year, t) ← fixedNumber? 4 t
  let t ← afterStart? "-" t
  let (month, t) ← fixedNumber? 2 t
  let t ← afterStart? "-" t
  let (day, t) ← fixedNumber? 2 t
  if 1 ≤ month ∧ month ≤ 12 ∧ 1 ≤ day ∧ day ≤ daysIn year month then
    some (⟨year, month, day⟩, t)
  else none

def text (d : CalendarDay) : Text :=
  fixedText 4 d.year ++ '-' :: fixedText 2 d.month ++ '-' :: fixedText 2 d.day

end CalendarDay

namespace TimeOfDay

def hoursAndMinutes? (t : Text) : Option (Nat × Nat × Text) := do
  let (hour, t) ← fixedNumber? 2 t
  let t ← afterStart? ":" t
  let (minute, t) ← fixedNumber? 2 t
  if hour ≤ 23 ∧ minute ≤ 59 then some (hour, minute, t) else none

def fraction? : Text → Option (Option Text × Text)
  | '.' :: t =>
    match t.takeWhile Char.isDigit with
    | [] => none
    | digits =>
      let kept := trimEndOf (· = '0') (digits.take 9)
      some (some (if kept.isEmpty then ['0'] else kept), t.dropWhile Char.isDigit)
  | t => some (none, t)

/-- A minute may have a leap second; seconds may be left out. -/
def read? (t : Text) : Option (TimeOfDay × Text) := do
  let (hour, minute, t) ← hoursAndMinutes? t
  match t with
  | ':' :: t =>
    let (second, t) ← fixedNumber? 2 t
    let (fraction, t) ← fraction? t
    if second ≤ 60 then some (⟨hour, minute, some second, fraction⟩, t) else none
  | t => some (⟨hour, minute, none, none⟩, t)

def text (time : TimeOfDay) : Text :=
  fixedText 2 time.hour ++ ':' :: fixedText 2 time.minute ++
    time.second.elim [] (fun second => ':' :: fixedText 2 second) ++
    time.fraction.elim [] fun digits => '.' :: digits

end TimeOfDay

namespace ClockOffset

/-- The offset that is all of a text; no text is no offset. -/
def parse? : Text → Option (Option ClockOffset)
  | [] => some none
  | ['Z'] | ['z'] => some (some .universal)
  | c :: t => do
    let (hours, minutes, rest) ← TimeOfDay.hoursAndMinutes? t
    let n : Int := (hours * 60 + minutes : Nat)
    match c, rest with
    | '+', [] => some (some (.ahead n))
    | '-', [] => some (some (.ahead (-n)))
    | _, _ => none

def text : ClockOffset → Text
  | .universal => ['Z']
  | .ahead n =>
    (if n < 0 then '-' else '+') :: fixedText 2 (n.natAbs / 60) ++
      ':' :: fixedText 2 (n.natAbs % 60)

end ClockOffset

namespace Moment

def parse? (t : Text) : Option Moment :=
  match CalendarDay.read? t with
  | none =>
    match TimeOfDay.read? t with
    | some (time, []) => some ⟨none, some time, none⟩
    | _ => none
  | some (day, []) => some ⟨some day, none, none⟩
  | some (day, c :: t) => do
    if c = 'T' || c = 't' || c = ' ' then
      let (time, t) ← TimeOfDay.read? t
      let offset ← ClockOffset.parse? t
      return ⟨some day, some time, offset⟩
    else none

/-- A `T` stands between date and time. -/
def text (moment : Moment) : Text :=
  moment.day.elim [] CalendarDay.text ++
    (if moment.day.isSome && moment.time.isSome then ['T'] else []) ++
    moment.time.elim [] TimeOfDay.text ++ moment.offset.elim [] ClockOffset.text

end Moment

end GuidAtlas
