import ScriptTree.Parse
import ScriptTree.Snapshot

/-!
# Parsing a declaration by itself

The source text under a top-level node is a source of its own.
-/

namespace ScriptTree.Declaration

/-- What the own text of a declaration is parsed as. -/
def parsedAlone (source : String) (declaration : Declaration) : ParseResult :=
  parse (declaration.toNode.text source)

/-- Whether a declaration is all that its own text is parsed as, ranges apart. -/
def isReproduced (source : String) (declaration : Declaration) : Bool :=
  (declaration.parsedAlone source).program.declarations.map
      (fun alone => Snapshot.ofNode false alone.toNode) =
    [Snapshot.ofNode false declaration.toNode]

end ScriptTree.Declaration
