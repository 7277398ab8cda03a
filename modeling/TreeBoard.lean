import TreeBoard.CommandLine.Launch
import TreeBoard.LevelBits
import TreeBoard.Link.ScriptedBoard
import TreeBoard.Main
import TreeBoard.PatternFile.Write
import TreeBoard.Record.Lemmas
import TreeBoard.Proofs.Operations
import TreeBoard.Proofs.Reading
import TreeBoard.Proofs.Unbounded
import TreeBoard.Proofs.Report
import TreeBoard.Proofs.Gathering
import TreeBoard.Proofs.Arguments
import TreeBoard.Proofs.Keywords
import TreeBoard.Proofs.Steps
import TreeBoard.Proofs.Grouping
import TreeBoard.Proofs.Grammar
import TreeBoard.Proofs.EarliestError
import TreeBoard.Proofs.Continuation
import TreeBoard.Proofs.LineEnds
import TreeBoard.Proofs.Ledger
import TreeBoard.Proofs.FullMemory
import TreeBoard.Proofs.RecordForms
import TreeBoard.Proofs.Rounding
import TreeBoard.Proofs.FadeLevels
import TreeBoard.Proofs.LevelRange
import TreeBoard.Proofs.PatternText
import TreeBoard.Proofs.Upload
import TreeBoard.Proofs.AllOrNothing
import TreeBoard.Proofs.FadeCourse
import TreeBoard.Proofs.TreeScript
import TreeBoard.Proofs.EndlessRepeat
import TreeBoard.Proofs.SpelledDefaults
import TreeBoard.Proofs.ChainedRepeats
import TreeBoard.Proofs.BlankLines
import TreeBoard.Proofs.PendingFades
import TreeBoard.Proofs.PatternLines
import TreeBoard.Proofs.OffendingCharacters
import TreeBoard.Proofs.GatheredDigits
import TreeBoard.Proofs.DirectiveText
import TreeBoard.Proofs.Fitting
import TreeBoard.Proofs.ReachedStates
