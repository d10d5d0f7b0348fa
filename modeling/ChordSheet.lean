import ChordSheet.Main
import ChordSheet.Record.Codec
import ChordSheet.Proofs.LineEffect
import ChordSheet.Proofs.Retransposition
import ChordSheet.Proofs.WholeSheet
import ChordSheet.Proofs.Intervals
import ChordSheet.Proofs.SheetFiles
import ChordSheet.Proofs.WatchMode
import ChordSheet.Proofs.SavedSettings
import ChordSheet.Proofs.CommandEffects
import ChordSheet.Proofs.LatestWatch
import ChordSheet.Proofs.ThreeWays
import ChordSheet.Proofs.Dispatch
import ChordSheet.Proofs.LineEndings
import ChordSheet.Proofs.OutputFiles
import ChordSheet.Text.Lowercase
import ChordSheet.Proofs.Lowercase
import ChordSheet.Proofs.SourceKey
import ChordSheet.Proofs.SheetReport
import ChordSheet.Proofs.SlashWords
import ChordSheet.Proofs.SymbolGrammar
import ChordSheet.Proofs.LatestAssignment
import ChordSheet.Proofs.Arguments
import ChordSheet.Proofs.RereadLines
import ChordSheet.Text.Uppercase
import ChordSheet.Proofs.KeySpelling
import ChordSheet.Proofs.SpanPartition
import ChordSheet.Proofs.Recognition
import ChordSheet.Proofs.RecordForms
