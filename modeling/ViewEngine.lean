import ViewEngine.Engine.Environment
import ViewEngine.Proofs.Code.Blocks
import ViewEngine.Proofs.Code.Composition
import ViewEngine.Proofs.Code.Indentation
import ViewEngine.Proofs.Code.LineEnds
import ViewEngine.Proofs.Code.Lines
import ViewEngine.Proofs.Code.Nesting
import ViewEngine.Proofs.Code.OutputTags
import ViewEngine.Proofs.Code.PassThrough
import ViewEngine.Proofs.Code.Snippets
import ViewEngine.Proofs.Code.Trimming
import ViewEngine.Proofs.Code.Validation
import ViewEngine.Proofs.Diagnostic.Colours
import ViewEngine.Proofs.Engine.Calling
import ViewEngine.Proofs.Engine.TrailingComments
import ViewEngine.Proofs.Fragment.Correctness
import ViewEngine.Proofs.Fragment.Helpers
import ViewEngine.Proofs.Html.Entities
import ViewEngine.Proofs.Layout.Concatenation
import ViewEngine.Proofs.Layout.Guard
import ViewEngine.Proofs.Layout.Inline
import ViewEngine.Proofs.Layout.Missing
import ViewEngine.Proofs.Layout.Residue
import ViewEngine.Proofs.Layout.Sections
import ViewEngine.Proofs.Markup.Decomposition
import ViewEngine.Proofs.Script.Quoting
import ViewEngine.Proofs.Store.Agreement
