import RouteDoc.Number.Numeral

/-! Dates and times as YAML 1.1 writes them. -/

namespace RouteDoc.Yaml

/-- The fields of a time of day and its zone, as written. -/
structure TimeOfDay where
  hour : Nat
  minute : Nat
  second : Nat
  microsecond : Nat
  /-- Minutes from the standard time, if a zone is written. -/
  zone : Option Int
  deriving DecidableEq, Repr

/-- The fields of a date, and of a time of day if there is one. `short` if the month or the day has
one digit. -/
structure Timestamp where
  year : Nat
  month : Nat
  day : Nat
  short : Bool
  time : Option TimeOfDay
  deriving DecidableEq, Repr

namespace Timestamp

/-- A number of at least `least` and at most `most` digits at the start of a text: how many digits
it has, its value, and the rest. -/
def number? (least most : Nat) (t : Text) : Option (Nat × Nat × Text) :=
  let digits := (t.take most).takeWhile Char.isDigit
  if least ≤ digits.length then some (digits.length, Numeral.ofText digits, t.drop digits.length)
  else none

def after? (c : Char) : Text → Option Text
  | d :: rest => if c = d then some rest else none
  | [] => none

def isGap (c : Char) : Bool := c == ' ' || c == '\t'

/-- The minutes of a zone behind its hours: none, or two digits behind a colon. -/
def zoneMinutes? : Text → Option Nat
  | [] => some 0
  | c :: rest =>
    match c, number? 2 2 rest with
    | ':', some (_, minutes, []) => some minutes
    | _, _ => none

/-- A zone that takes up a whole text, in minutes: nothing, `Z`, or a sign with hours and perhaps
minutes. -/
def zone? (t : Text) : Option (Option Int) :=
  match t.dropWhile isGap with
  | [] => if t.isEmpty then some none else none
  | ['Z'] => some (some 0)
  | sign :: rest =>
    if sign = '+' ∨ sign = '-' then do
      let (_, hours, rest) ← number? 1 2 rest
      let span : Int := 60 * hours + (← zoneMinutes? rest)
      return some (if sign = '-' then -span else span)
    else none

/-- The first six digits of a fraction of a second, as a number. -/
def microseconds (fraction : Text) : Nat :=
  let digits := fraction.take 6
  Numeral.ofText (digits ++ Text.fill '0' (6 - digits.length))

/-- A time of day that takes up a whole text. -/
def timeOfDay? (t : Text) : Option TimeOfDay := do
  let (_, hour, rest) ← number? 1 2 t
  let (_, minute, rest) ← number? 2 2 (← after? ':' rest)
  let (_, second, rest) ← number? 2 2 (← after? ':' rest)
  let (fraction, rest) := match rest with
    | '.' :: more => (more.takeWhile Char.isDigit, more.dropWhile Char.isDigit)
    | rest => ([], rest)
  return ⟨hour, minute, second, microseconds fraction, ← zone? rest⟩

/-- What stands between a date and a time of day: a letter, or spaces and tabs. -/
def separated? : Text → Option Text
  | 'T' :: rest | 't' :: rest => some rest
  | c :: rest => if isGap c then some (rest.dropWhile isGap) else none
  | [] => none

/-- A date with or without a time of day that takes up a whole text. -/
def ofText? (t : Text) : Option Timestamp := do
  let (_, year, rest) ← number? 4 4 t
  let (m, month, rest) ← number? 1 2 (← after? '-' rest)
  let (d, day, rest) ← number? 1 2 (← after? '-' rest)
  let short := m = 1 || d = 1
  if rest.isEmpty then return ⟨year, month, day, short, none⟩
  else return ⟨year, month, day, short, some (← timeOfDay? (← separated? rest))⟩

/-- Whether a text is a timestamp without being marked as one. A date alone needs two digits for the
month and for the day. -/
def isPlain (t : Text) : Bool :=
  match ofText? t with
  | some stamp => stamp.time.isSome || !stamp.short
  | none => false

/-! ### The calendar -/

def isLeap (year : Nat) : Bool := year % 4 = 0 ∧ (year % 100 ≠ 0 ∨ year % 400 = 0)

def monthLengths (year : Nat) : List Nat :=
  [31, if isLeap year then 29 else 28, 31, 30, 31, 30, 31, 31, 30, 31, 30, 31]

/-- The number of a day, where the first day of the first year has number one. -/
def dayNumber (year month day : Nat) : Nat :=
  let before := year - 1
  365 * before + before / 4 - before / 100 + before / 400 +
    ((monthLengths year).take (month - 1)).foldl (· + ·) 0 + day

end Timestamp

end RouteDoc.Yaml
