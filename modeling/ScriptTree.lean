import ScriptTree.Check.Program
import ScriptTree.Format
import ScriptTree.Lookup
import ScriptTree.Parse.Json
import ScriptTree.Parse.OptionsText
import ScriptTree.Sample
import ScriptTree.Parse.Alone
import ScriptTree.Proofs.Acceptance
import ScriptTree.Proofs.ParsedAlone
import ScriptTree.Proofs.ReadingBack
import ScriptTree.Proofs.Grammar.Fitting
import ScriptTree.Proofs.Grammar.Avoidance
import ScriptTree.Proofs.Grammar.Heading
import ScriptTree.Proofs.Heading
import ScriptTree.Proofs.Progress
import ScriptTree.Proofs.Grammar.Braces
import ScriptTree.Proofs.Braces
import ScriptTree.Proofs.Placement
import ScriptTree.Proofs.Faults
import ScriptTree.Proofs.MissingSemicolon
import ScriptTree.Proofs.Partition
import ScriptTree.Proofs.Layout
import ScriptTree.Proofs.Respelling
import ScriptTree.Proofs.Joining
import ScriptTree.Proofs.Coherence
import ScriptTree.Proofs.Grouping
import ScriptTree.Proofs.Snapshot.Json
import ScriptTree.Proofs.Snapshot.Yaml
import ScriptTree.Proofs.Reparsing
import ScriptTree.Proofs.Conditionals
import ScriptTree.Proofs.Expectations
import ScriptTree.Proofs.Targets
import ScriptTree.Proofs.Grammar.Skipping
import ScriptTree.Proofs.Lexeme.Locality
import ScriptTree.Proofs.Lookup
import ScriptTree.Proofs.Node.Structure
import ScriptTree.Proofs.Node.Captions
import ScriptTree.Proofs.Snapshot.Erased
import ScriptTree.Proofs.Snapshot.Structure
import ScriptTree.Proofs.Node.Walking
import ScriptTree.Proofs.Lexeme.Closing
import ScriptTree.Proofs.Format.SExpression
import ScriptTree.Proofs.Format.TreeDrawing
import ScriptTree.Proofs.Lexeme.Segments
import ScriptTree.Proofs.Lexeme.Escapes
import ScriptTree.Proofs.Lexeme.Quotation
import ScriptTree.Proofs.Position
import ScriptTree.Proofs.Node.Draft
