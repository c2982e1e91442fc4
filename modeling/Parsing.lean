import Parsing.Kind
import Parsing.Lexer
import Parsing.Parser.Derived
import Parsing.Parser.Reference
import Parsing.Span.Quoted
import Parsing.Value.Builder
import Parsing.Proofs.Expression.Discipline
import Parsing.Proofs.Expression.Completeness
import Parsing.Proofs.Expression.Refusals
import Parsing.Proofs.Expression.Tiers
import Parsing.Proofs.Expression.Validation
import Parsing.Proofs.Expression.Viability
import Parsing.Proofs.Label.Relabelling
import Parsing.Proofs.Peg.Agreement
import Parsing.Proofs.Text.Abreast
import Parsing.Proofs.Text.Respect
import Parsing.Proofs.Text.Context
import Parsing.Proofs.Text.Positions
import Parsing.Proofs.Tokenizer.Partition
import Parsing.Proofs.Fault.Loops
import Parsing.Proofs.Fault.Parts
import Parsing.Proofs.Fault.Termination
import Parsing.Proofs.Reference.Transparency
import Parsing.Proofs.Alternation.Nesting
import Parsing.Proofs.Alternation.Bracketing
import Parsing.Proofs.Repetition.Equations
import Parsing.Proofs.Repetition.Folding
import Parsing.Proofs.Expression.Attachment
import Parsing.Proofs.Repetition.Shortcuts
import Parsing.Proofs.Text.Division
import Parsing.Proofs.Text.Placeless
import Parsing.Proofs.Tokenizer.Inside
