import LineShell.Main
import LineShell.Proofs.Sequence.Parts
import LineShell.Proofs.Sequence.OnePass
import LineShell.Proofs.Sequence.Shape
import LineShell.Proofs.Token.Spelling
import LineShell.Proofs.Sequence.Image
import LineShell.Proofs.Words.Reading
import LineShell.Proofs.PosixWords.Rereading
import LineShell.Proofs.Session.AliasWords
import LineShell.Proofs.Text.Parts
import LineShell.Proofs.Path.Normal
import LineShell.Proofs.Path.Composition
import LineShell.Proofs.History.Numbers
import LineShell.Proofs.Session.HistoryNumbers
import LineShell.Proofs.Calendar.Place
import LineShell.Proofs.Calendar.Gregorian
import LineShell.Proofs.World.Changes
import LineShell.Proofs.World.Walks
import LineShell.Proofs.World.Contents
import LineShell.Proofs.Session.AppendedLines
import LineShell.Proofs.Session.Effect
import LineShell.Proofs.Session.Executed
import LineShell.Proofs.Session.PipelineFrame
import LineShell.Proofs.Sequence.Concatenation
import LineShell.Proofs.Session.Records
import LineShell.Proofs.Session.Sequencing
import LineShell.Proofs.History.References
import LineShell.Proofs.Session.HistoryGrowth
import LineShell.Proofs.Session.Directories
import LineShell.Proofs.Session.EditMode
import LineShell.Proofs.Config.Interpreters
import LineShell.Proofs.Session.NameMeaning
import LineShell.Proofs.Token.Break
import LineShell.Proofs.Token.Hollow
import LineShell.Proofs.Sequence.Names
import LineShell.Proofs.Session.AliasChain
import LineShell.Proofs.Session.PipelineWork
import LineShell.Proofs.Session.PipelineAppend
import LineShell.Proofs.Sequence.PipeMark
import LineShell.Proofs.Words.Trimming
import LineShell.Proofs.Words.Tokens
import LineShell.Proofs.PosixWords.Escapes
import LineShell.Proofs.Session.AliasForms
import LineShell.Proofs.External.SearchOrder
import LineShell.Proofs.Config.Merging
import LineShell.Proofs.Session.WrittenBuffer
import LineShell.Proofs.World.Removal
import LineShell.Proofs.Session.Removals
import LineShell.Proofs.Sequence.Cuts
import LineShell.Proofs.Session.AliasListing
