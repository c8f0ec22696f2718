import RouteDoc.Command.Opt

/-! How the command line is used, and what is wrong with arguments, in the words of click. -/

namespace RouteDoc.Command

/-- The part of the command line that arguments belong to: the program, or its command that makes a
document. -/
inductive Scope where
  | program
  | generate
  deriving DecidableEq, Repr, Inhabited

inductive ValueFault where
  | missing (value : Text)
  | isFile (value : Text)
  | isDirectory (value : Text)
  | unknownFormat (value : Text)
  deriving DecidableEq, Repr, Inhabited

inductive UsageFault where
  | unknownOption (name : Text)
  | noValue (name : Text)
  /-- A value for an option that takes none. -/
  | extraValue (name : Text)
  | badValue (opt : Opt) (fault : ValueFault)
  | extraArguments (arguments : List Text)
  | noSources
  | noCommand
  | unknownCommand (name : Text)
  deriving DecidableEq, Repr, Inhabited

inductive Format where
  | json
  | yaml
  deriving DecidableEq, Repr, Inhabited

namespace Format

def all : List Format := [json, yaml]

def word : Format → Text
  | json => "json".toList
  | yaml => "yaml".toList

def ofWord? (t : Text) : Option Format := all.find? (·.word = t)

end Format

namespace Scope

/-- How the command line is used, in one line. -/
def usage : Scope → Text
  | program => "Usage: main [OPTIONS] COMMAND [ARGS]...\n".toList
  | generate => "Usage: main generate [OPTIONS]\n".toList

def hint : Scope → Text
  | program => "Try 'main --help' for help.\n".toList
  | generate => "Try 'main generate --help' for help.\n".toList

def options : Scope → List Opt
  | program => [.help]
  | generate => Opt.all

def help (scope : Scope) : Text :=
  scope.usage ++ scope.options.flatMap fun opt =>
    "  ".toList ++ Text.join ", ".toList opt.names ++ "  ".toList ++ opt.purpose ++ ['\n']

end Scope

/-- What the value of an option that names a file should be. -/
def Opt.noun : Opt → Text
  | .config => "File".toList
  | _ => "Directory".toList

def ValueFault.message (opt : Opt) : ValueFault → Text
  | .missing value => opt.noun ++ ' ' :: Text.quoted value ++ " does not exist.".toList
  | .isFile value => opt.noun ++ ' ' :: Text.quoted value ++ " is a file.".toList
  | .isDirectory value => opt.noun ++ ' ' :: Text.quoted value ++ " is a directory.".toList
  | .unknownFormat value =>
    Text.quoted value ++ " is not one of ".toList ++
      Text.join ", ".toList (Format.all.map fun format => Text.quoted format.word) ++ ['.']

namespace UsageFault

def message : UsageFault → Text
  | .unknownOption name => "No such option ".toList ++ Text.quoted name ++ ['.']
  | .noValue name => "Option ".toList ++ Text.quoted name ++ " requires an argument.".toList
  | .extraValue name => "Option ".toList ++ Text.quoted name ++ " does not take a value.".toList
  | .badValue opt fault =>
    "Invalid value for ".toList ++ Text.join " / ".toList (opt.names.map Text.quoted) ++
      ": ".toList ++ fault.message opt
  | .extraArguments arguments =>
    (if arguments.length = 1 then "Got unexpected extra argument (".toList
      else "Got unexpected extra arguments (".toList) ++ Text.join [' '] arguments ++ [')']
  | .noSources => "Provide at least one --dir or --routes.".toList
  | .noCommand => "Missing command.".toList
  | .unknownCommand name => "No such command ".toList ++ Text.quoted name ++ ['.']

/-- Whether a report begins with how the command line is used. -/
def showsUsage : UsageFault → Bool
  | .noValue _ | .extraValue _ => false
  | _ => true

def report (scope : Scope) (fault : UsageFault) : Text :=
  (if fault.showsUsage then scope.usage ++ scope.hint ++ ['\n'] else []) ++
    "Error: ".toList ++ fault.message ++ ['\n']

end UsageFault

end RouteDoc.Command
