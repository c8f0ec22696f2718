import RouteDoc.Schema.Fault

/-! What can be wrong with YAML text: its form, or a scalar that is not what its tag says. -/

namespace RouteDoc.Yaml

inductive Fault where
  /-- The text is not YAML, or a value is of the wrong form for its tag. -/
  | malformed
  /-- An escape sequence for a code point that does not exist. -/
  | codePoint (code : Nat)
  /-- A whole number with more digits than are read. -/
  | oversized (digits : Nat)
  /-- A text that is no whole number in its base. -/
  | notInteger (base : Nat) (t : Text)
  | notFloat (t : Text)
  /-- A number without a character. -/
  | emptyNumber
  | notTruth (t : Text)
  | notTimestamp
  | year (n : Nat)
  | month
  | day
  | hour
  | minute
  | second
  /-- A zone a day or more from the standard time, in minutes. -/
  | zone (minutes : Int)
  deriving DecidableEq, Repr, Inhabited

namespace Fault

/-- A span of minutes in words: whole days, and the seconds that are left. -/
def spanText (minutes : Int) : Text :=
  let days := minutes.fdiv 1440
  let seconds := minutes.fmod 1440 * 60
  "datetime.timedelta(days=".toList ++ Text.ofInt days ++
    (if seconds = 0 then [] else ", seconds=".toList ++ Text.ofInt seconds) ++ [')']

def message : Fault → Text
  | .malformed => "the text is not YAML".toList
  | .codePoint code =>
    if code < 0x80000000 then "chr() arg not in range(0x110000)".toList
    else "Python int too large to convert to C int".toList
  | .oversized digits => (Failure.oversized digits).message
  | .notInteger base t =>
    "invalid literal for int() with base ".toList ++ Text.ofNat base ++ ": ".toList ++ Text.quoted t
  | .notFloat t => "could not convert string to float: ".toList ++ Text.quoted t
  | .emptyNumber => "string index out of range".toList
  | .notTruth t => Text.quoted t
  | .notTimestamp => "'NoneType' object has no attribute 'groupdict'".toList
  | .year n => "year ".toList ++ Text.ofNat n ++ " is out of range".toList
  | .month => "month must be in 1..12".toList
  | .day => "day is out of range for month".toList
  | .hour => "hour must be in 0..23".toList
  | .minute => "minute must be in 0..59".toList
  | .second => "second must be in 0..59".toList
  | .zone minutes =>
    "offset must be a timedelta strictly between -timedelta(hours=24) and timedelta(hours=24), not "
      |>.toList |> (· ++ spanText minutes ++ ['.'])

end Fault

end RouteDoc.Yaml
