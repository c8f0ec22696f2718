import RouteDoc.Text.Blank

/-! Directives: the words that begin the annotation lines of a comment. -/

namespace RouteDoc

/-- What a line of a comment says about a route. -/
inductive Directive where
  | description
  | summary
  | router
  | response
  deriving DecidableEq, Repr, Inhabited

namespace Directive

def all : List Directive := [.description, .summary, .router, .response]

def word : Directive → Text
  | .description => "@description".toList
  | .summary => "@summary".toList
  | .router => "@router".toList
  | .response => "@response".toList

def ofWord? (t : Text) : Option Directive := all.find? fun directive => directive.word = t

def isMark (c : Char) : Bool := c == '#' || c == '/'

/-- A comment line without blanks at its ends and marks at its start. -/
def body (line : Text) : Text := Text.strip (Text.trimStart isMark (Text.strip line))

def firstWord (t : Text) : Text := t.takeWhile fun c => !Text.isBlank c

/-- The directive that a comment line begins with, in any case of its letters, and what follows it.
The words have only ASCII letters. Of the letters beyond ASCII only the Kelvin sign has an ASCII
letter as its whole lower case, and no word has that letter. -/
def ofLine? (line : Text) : Option (Directive × Text) :=
  let text := body line
  let word := firstWord text
  (ofWord? (Text.toLowerAscii word)).map fun directive =>
    (directive, Text.strip (text.drop word.length))

/-- The directive that the first of the words of a comment line names, behind its marks. -/
def ofFirstWord? (line : Text) : Option Directive :=
  match Text.words (Text.trimStart isMark (Text.strip line)) with
  | [] => none
  | word :: _ => ofWord? (Text.toLowerAscii word)

end Directive

end RouteDoc
