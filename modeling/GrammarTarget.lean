import GrammarTarget.Session
import GrammarTarget.Main
import GrammarTarget.Proofs.ByteOrder
import GrammarTarget.Proofs.CanonicalListing
import GrammarTarget.Proofs.CanonicalNames
import GrammarTarget.Proofs.CompoundNames
import GrammarTarget.Proofs.ConsoleSteps
import GrammarTarget.Proofs.EscapeCode
import GrammarTarget.Proofs.FileNames
import GrammarTarget.Proofs.FirstProblem
import GrammarTarget.Proofs.InsertionHistory
import GrammarTarget.Proofs.LeftOutEndings
import GrammarTarget.Proofs.LiteralEscapes
import GrammarTarget.Proofs.LogLevels
import GrammarTarget.Proofs.Outcome
import GrammarTarget.Proofs.ReservedLists
import GrammarTarget.Proofs.SharedText
import GrammarTarget.Proofs.SmallLetters
import GrammarTarget.Proofs.SymbolLists
import GrammarTarget.Proofs.TaggedGrammars
import GrammarTarget.Proofs.UnreservedNames
import GrammarTarget.Proofs.Warnings
