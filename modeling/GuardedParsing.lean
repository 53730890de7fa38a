import GuardedParsing.Trampoline.Basic
import GuardedParsing.Trampoline.Run
import GuardedParsing.Text.Alphabetic
import GuardedParsing.Text.Blank
import GuardedParsing.Text.Extending
import GuardedParsing.Text.IdentifierContinue
import GuardedParsing.Text.IdentifierStart
import GuardedParsing.Text.Numeric
import GuardedParsing.Text.Ranges
import GuardedParsing.Text.Unprintable
import GuardedParsing.Value.Basic
import GuardedParsing.Text.Decimal
import GuardedParsing.Text.Quoted
import GuardedParsing.Token
import GuardedParsing.Value.Transform
import GuardedParsing.Error.ParseError
import GuardedParsing.Error.GrammarError
import GuardedParsing.Outcome
import GuardedParsing.Cursor
import GuardedParsing.Parser.Basic
import GuardedParsing.Grammar
import GuardedParsing.Guard
import GuardedParsing.Counting
import GuardedParsing.Event
import GuardedParsing.Emptiness
import GuardedParsing.Evaluation
import GuardedParsing.Parser.Build
import GuardedParsing.Parser.Text
import GuardedParsing.Description
import GuardedParsing.Grammar.Holders
import GuardedParsing.Workspace.Basic
import GuardedParsing.Workspace.Command
import GuardedParsing.Trampoline.Job
import GuardedParsing.ItemList
import GuardedParsing.Json.Token
import GuardedParsing.Json.Basic
import GuardedParsing.Error.Written
import GuardedParsing.Workspace.Trial
import GuardedParsing.Proofs.Application
import GuardedParsing.Proofs.Graph
import GuardedParsing.Proofs.Query
import GuardedParsing.Proofs.Progress
import GuardedParsing.Proofs.LeftRecursion
import GuardedParsing.Proofs.Machine
import GuardedParsing.Proofs.Termination
import GuardedParsing.Proofs.Answering
import GuardedParsing.Proofs.Session
import GuardedParsing.Proofs.Remembering
import GuardedParsing.Proofs.ZeroWidth
import GuardedParsing.Proofs.Building
import GuardedParsing.Proofs.Commands
import GuardedParsing.Proofs.Failures
import GuardedParsing.Proofs.Diagnosis
import GuardedParsing.Proofs.LeftAdjacency
import GuardedParsing.Proofs.Reentry
import GuardedParsing.Proofs.Meaning
import GuardedParsing.Proofs.Interruption
import GuardedParsing.Proofs.Agreement
import GuardedParsing.Proofs.Bare
import GuardedParsing.Proofs.Annotations
import GuardedParsing.Proofs.Sequencing
import GuardedParsing.Proofs.Translation
import GuardedParsing.Proofs.Erasure
import GuardedParsing.Proofs.Bookkeeping
import GuardedParsing.Proofs.Applied
import GuardedParsing.Proofs.AtLeastOnce
import GuardedParsing.Proofs.Chains
import GuardedParsing.Proofs.OrderedChoice
import GuardedParsing.Proofs.TokenRuns
import GuardedParsing.Proofs.Expectations
import GuardedParsing.Proofs.Repetition
import GuardedParsing.Proofs.Holding
import GuardedParsing.Proofs.Ownership
import GuardedParsing.Proofs.StandIns
import GuardedParsing.Proofs.Spelling
import GuardedParsing.Proofs.Numerals
import GuardedParsing.Proofs.Padding
import GuardedParsing.Proofs.Memoisation
import GuardedParsing.Proofs.MemoryFrame
import GuardedParsing.Proofs.Observation
import GuardedParsing.Proofs.Merging
import GuardedParsing.Proofs.Activations
