import RouteDoc.Text.Quoted

/-! The options of the command line. -/

namespace RouteDoc.Command

inductive Opt where
  /-- A directory of annotated sources. -/
  | directory
  | target
  /-- Where the modules of targets are looked for. -/
  | appDirectory
  | output
  | format
  | config
  | title
  | description
  | apiVersion
  | recursive
  | verbose
  | help
  deriving DecidableEq, Repr, Inhabited

namespace Opt

def all : List Opt :=
  [directory, target, appDirectory, output, format, config, title, description, apiVersion,
    recursive, verbose, help]

def names : Opt → List Text
  | directory => ["-d".toList, "--dir".toList]
  | target => ["-r".toList, "--routes".toList]
  | appDirectory => ["--app-dir".toList]
  | output => ["-o".toList, "--output".toList]
  | format => ["--format".toList]
  | config => ["--config".toList]
  | title => ["--title".toList]
  | description => ["--description".toList]
  | apiVersion => ["--api-version".toList]
  | recursive => ["--recursive".toList]
  | verbose => ["-v".toList, "--verbose".toList]
  | help => ["--help".toList]

def purpose : Opt → Text
  | directory => "Directory of annotated source files to parse.".toList
  | target => "Routes declared in code, as 'module:attribute'.".toList
  | appDirectory => "Directory added to the import path for --routes.".toList
  | output => "Output directory for the generated document.".toList
  | format => "Document format.".toList
  | config => "YAML file with title, version, contact, license and servers.".toList
  | title => "Document title.".toList
  | description => "Document description.".toList
  | apiVersion => "API version.".toList
  | recursive => "Also parse sub-directories.".toList
  | verbose => "Log skipped routes and discovery details.".toList
  | help => "Show this message and exit.".toList

def takesValue : Opt → Bool
  | recursive | verbose | help => false
  | _ => true

/-- Whether every value of an option counts, and not only the last. -/
def isMultiple : Opt → Bool
  | directory | target => true
  | _ => false

def standard? : Opt → Option Text
  | appDirectory => some ['.']
  | output => some "./docs/api".toList
  | format => some "json".toList
  | _ => none

def named? (allowed : List Opt) (name : Text) : Option Opt :=
  allowed.find? (·.names.contains name)

/-- Whether a name has one dash and one letter. -/
def isShort (name : Text) : Bool := name.length == 2

end Opt

end RouteDoc.Command
