import ScriptTree.Parse
import ScriptTree.Sample.Text

/-!
# Sample scripts

A small corpus for tests and benchmarks.  Every sample parses without
diagnostics but one, which has a mistake in every declaration.
-/

namespace ScriptTree

/-- The samples of the corpus. -/
inductive Sample where
  /-- Instances with assignments, calls and a forward declaration. -/
  | instances
  | prototypes
  /-- Parameters, locals, branches and returns. -/
  | functions
  | classes
  /-- Globals, constants and array initializers in mixed casing. -/
  | variables
  /-- Every operator and every postfix form. -/
  | expressions
  /-- Broken declarations, followed by ones that are still found. -/
  | recovery
  /-- A bit of everything. -/
  | kitchenSink
deriving DecidableEq

namespace Sample

/-- The samples in the order of their listing. -/
def all : List Sample :=
  [.instances, .prototypes, .functions, .classes, .variables, .expressions, .recovery,
    .kitchenSink]

/-- The file that a sample is taken from. -/
def fileName : Sample → String
  | .instances => "instances.d"
  | .prototypes => "prototypes.d"
  | .functions => "functions.d"
  | .classes => "classes.d"
  | .variables => "variables.d"
  | .expressions => "expressions.d"
  | .recovery => "recovery.d"
  | .kitchenSink => "kitchensink.d"

/-- The sample of a file name. -/
def ofFileName? (name : String) : Option Sample :=
  all.find? fun sample => sample.fileName = name

/-- The text of a sample, line by line. -/
def lines : Sample → List String
  | .instances => instancesLines
  | .prototypes => prototypesLines
  | .functions => functionsLines
  | .classes => classesLines
  | .variables => variablesLines
  | .expressions => expressionsLines
  | .recovery => recoveryLines
  | .kitchenSink => kitchenSinkLines

/-- The text of a sample. -/
def source (sample : Sample) : String :=
  String.join (sample.lines.map (· ++ "\n"))

/-- Whether the sample is meant to parse without diagnostics. -/
def isClean (sample : Sample) : Bool :=
  sample ≠ .recovery

/-- The samples that parse without diagnostics. -/
def clean : List Sample :=
  all.filter isClean

end Sample

end ScriptTree
