import ScriptTree.Check.Declaration
import ScriptTree.Node.Traversal

/-!
# Checks of programs and diagnostics

These are the checks that start a path, so they are given an empty one.
-/

namespace ScriptTree

namespace Program

/-- The number of top-level declarations, error nodes included. -/
def checkDeclarationCount (expected : Nat) : Check Program :=
  Check.countOfNodes "declarations"
    (fun program : Program => program.declarations.map Declaration.toNode) expected

/-- Checks one declaration, counted from zero.  The path begins with its index, for the program
itself has no path. -/
def checkDeclaration (index : Nat) (check : Check Declaration) : Check Program :=
  fun _ program =>
    match program.declarations[index]? with
    | some declaration => check s!"declarations[{index}]" declaration
    | none =>
      .error (s!"program: declaration index {index} out of bounds " ++
        s!"(program has {program.declarations.length})")

/-- The error nodes and the missing nodes of a program, in source order. -/
def faults (program : Program) : List Node :=
  program.toNode.descendants.filter Node.isFaulty

/-- No node anywhere is an error node or a missing one. -/
def checkNoErrors : Check Program := fun _ program =>
  let places := ", ".intercalate <| program.faults.map fun node =>
    s!"{node.kind.label} at {node.range.start.display}"
  Check.require program.faults.isEmpty
    s!"Expected a tree without error nodes, found: [{places}]"

/-- Compares how a program is written as an S-expression. -/
def checkSexp (expected : String) : Check Program := fun _ program =>
  Check.require (program.toNode.sexp = expected) "program: S-expression mismatch"

/-- Check a whole program. -/
def satisfies (check : Check Program) (program : Program) : Except String Unit :=
  check "" program

end Program

namespace Diagnostic

/-- Compares the code of a diagnostic. -/
def checkCode (expected : DiagnosticCode) : Check Diagnostic := fun path diagnostic =>
  Check.require (diagnostic.problem.code = expected)
    s!"{path}: Expected code {expected.name}, found {diagnostic.problem.code.name}"

/-- Compares the severity of a diagnostic. -/
def checkSeverity (expected : Severity) : Check Diagnostic := fun path diagnostic =>
  Check.require (diagnostic.problem.severity = expected) s!"{path}: Unexpected severity"

/-- Compares the message of a diagnostic. -/
def checkMessage (comparison : TextMatch) : Check Diagnostic :=
  Check.inside "" (fun diagnostic => diagnostic.problem.message) comparison.check

/-- Compares the byte offsets of a diagnostic. -/
def checkSpan (start stop : Nat) : Check Diagnostic := fun path diagnostic =>
  Check.require (diagnostic.range.span = ⟨start, stop⟩) s!"{path}: Unexpected span"

/-- A diagnostic without width, for something that is to be inserted. -/
def checkAt (offset : Nat) : Check Diagnostic :=
  checkSpan offset offset

/-- Compares the position where a diagnostic begins. -/
def checkStart (line column : Nat) : Check Diagnostic := fun path diagnostic =>
  Check.require (diagnostic.range.start = ⟨line, column⟩)
    s!"{path}: Unexpected start position"

/-- The codes and places of some diagnostics, for the text of a failure. -/
def listing (diagnostics : List Diagnostic) : String :=
  ", ".intercalate <| diagnostics.map fun diagnostic =>
    s!"{diagnostic.problem.code.name} at {diagnostic.range.start.display}"

/-- Compares how many diagnostics there are, and lists them if there are more or fewer. -/
def checkCount (expected : Nat) : Check (List Diagnostic) := fun _ diagnostics =>
  let actual := diagnostics.length
  Check.require (actual = expected)
    s!"Expected {expected} diagnostics, found {actual}: [{listing diagnostics}]"

/-- Demands that there are no diagnostics. -/
def checkNone : Check (List Diagnostic) :=
  checkCount 0

/-- Checks one diagnostic, counted from zero. -/
def checkItem (index : Nat) (check : Check Diagnostic) : Check (List Diagnostic) :=
  fun _ diagnostics =>
    match diagnostics[index]? with
    | some diagnostic => check s!"diagnostics[{index}]" diagnostic
    | none =>
      .error (s!"diagnostics: diagnostic index {index} out of bounds " ++
        s!"(diagnostics has {diagnostics.length})")

/-- Some diagnostic has the code, wherever it is. -/
def checkContainsCode (code : DiagnosticCode) : Check (List Diagnostic) := fun _ diagnostics =>
  Check.require (diagnostics.any fun diagnostic => diagnostic.problem.code = code)
    s!"Expected a {code.name} diagnostic, found: [{listing diagnostics}]"

/-- Whether diagnostics come in the order of their places. -/
def inOrder : List Diagnostic → Bool
  | first :: second :: rest =>
    first.range.span.start ≤ second.range.span.start && inOrder (second :: rest)
  | _ => true

/-- Demands that the diagnostics are listed in the order of the source. -/
def checkSorted : Check (List Diagnostic) := fun _ diagnostics =>
  Check.require (inOrder diagnostics)
    s!"Expected diagnostics in source order, found: [{listing diagnostics}]"

/-- Check all diagnostics of a source. -/
def satisfies (check : Check (List Diagnostic)) (diagnostics : List Diagnostic) :
    Except String Unit :=
  check "" diagnostics

end Diagnostic

end ScriptTree
