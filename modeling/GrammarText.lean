import GrammarText.Main
import GrammarText.Sample
import GrammarText.Table.Check
import GrammarText.Proofs.Table.Lookup
import GrammarText.Proofs.Table.Resolvable
import GrammarText.Proofs.Table.Builtins
import GrammarText.Proofs.CommandLine.Report
import GrammarText.Proofs.Recovery.Malformed
import GrammarText.Proofs.Recovery.Layout
import GrammarText.Proofs.Recovery.Single
import GrammarText.Proofs.Recovery.Excerpt
import GrammarText.Proofs.Viability.Expected
import GrammarText.Proofs.Viability.Leftmost
import GrammarText.Proofs.Viability.LeftOut
import GrammarText.Proofs.Lexer.Lines
import GrammarText.Proofs.Location.Context
import GrammarText.Proofs.Lexer.Tiling
import GrammarText.Proofs.Lexer.Decoding
import GrammarText.Proofs.Grammar.Extension
import GrammarText.Proofs.Compilation.Literals
import GrammarText.Proofs.Quantifier.Shortest
import GrammarText.Proofs.Diagnostic.Aggregate
import GrammarText.Proofs.Table.References
import GrammarText.Proofs.Data.Declarations
import GrammarText.Proofs.CommandLine.Settings
import GrammarText.Proofs.Parser.Alternatives
