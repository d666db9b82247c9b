import ScriptTree.Proofs.Grammar.Agreement.Declaration
import ScriptTree.Proofs.Grammar.Agreement.Statement

/-!
# The rules describe the functions

A derivation of a production determines what its function computes.  The proof
goes through the rules and unfolds each function along the path of the rule, so
this is the one place where both ways to write the grammar meet.
-/

namespace ScriptTree.Grammar

/-- If the functions compute what is read inside of a production, its function computes what the
production reads. -/
theorem Production.inherits_computes (production : Production) :
    production.Inherits State.Any Computes := by
  cases production with
  | optional token => exact computes_optional token
  | expected token => exact computes_expected token
  | closingBrace => exact computes_closingBrace
  | terminator => exact computes_terminator
  | identifier => exact computes_identifier
  | directName => exact computes_directName
  | typeReference => exact computes_typeReference
  | operation power => exact computes_operation power
  | operators power => exact computes_operators power
  | operand => exact computes_operand
  | primary => exact computes_primary
  | accesses => exact computes_accesses
  | arguments => exact computes_arguments
  | elements isFirst => exact computes_elements isFirst
  | initialValue => exact computes_initialValue
  | arraySize => exact computes_arraySize
  | initializer => exact computes_initializer
  | variableDeclaration => exact computes_variableDeclaration
  | assignmentTail => exact computes_assignmentTail
  | condition => exact computes_condition
  | block => exact computes_block
  | statements => exact computes_statements
  | statement => exact computes_statement
  | branch => exact computes_branch
  | parentClause => exact computes_parentClause
  | instanceBody hasParent => exact computes_instanceBody hasParent
  | declarationBody => exact computes_declarationBody
  | qualifier => exact computes_qualifier
  | parameter => exact computes_parameter
  | parameters => exact computes_parameters
  | parameterList => exact computes_parameterList
  | classItem => exact computes_classItem
  | classItems => exact computes_classItems
  | classBody => exact computes_classBody
  | declaration => exact computes_declaration
  | declarations => exact computes_declarations

/-- What a derivation says is what the function computes. -/
theorem Derivation.computes {production : Production} {state next : State}
    {value : production.Value} (reads : Derivation State.Any production state value next) :
    Computes production state value next :=
  reads.of_inherits Production.inherits_computes

/-- A derivation that is begun in the mode its production relies on says what the function
computes. -/
theorem Derivation.computes_of_suits {production : Production} {state next : State}
    {value : production.Value} (reads : Reads production state value next)
    (suited : production.SuitsMode state) : Computes production state value next :=
  Derivation.computes ((reads_iff (fun _ => trivial) suited).mp reads)

end ScriptTree.Grammar
