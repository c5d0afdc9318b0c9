import PlotScript.Main
import PlotScript.Plotter.AxiDraw
import PlotScript.Plotter.Recorder
import PlotScript.Proofs.Act
import PlotScript.Proofs.Enactment
import PlotScript.Proofs.Grammar
import PlotScript.Proofs.Reading
import PlotScript.Proofs.Life
import PlotScript.Proofs.ModeSafety
import PlotScript.Proofs.Handshake
import PlotScript.Proofs.Reference
import PlotScript.Proofs.Stopping
import PlotScript.Proofs.Willing
import PlotScript.Proofs.Strict
import PlotScript.Proofs.Recovery
import PlotScript.Proofs.Words
import PlotScript.Proofs.Rows
import PlotScript.Proofs.Layout
import PlotScript.Proofs.Conduct
import PlotScript.Proofs.Blocks
import PlotScript.Proofs.Extent
import PlotScript.Proofs.Chunks
import PlotScript.Proofs.Sequence
import PlotScript.Proofs.Blanks
import PlotScript.Proofs.Seams
import PlotScript.Proofs.Courses
import PlotScript.Proofs.Batch
import PlotScript.Proofs.Sourcing
import PlotScript.Proofs.Rendering
import PlotScript.Proofs.Progress
import PlotScript.Proofs.Cleanup
import PlotScript.Proofs.Accord
import PlotScript.Proofs.Dialogue
import PlotScript.Proofs.Interruption
import PlotScript.Proofs.OpenBlock
import PlotScript.Proofs.Mild
import PlotScript.Proofs.CalmRuns
import PlotScript.Proofs.Steadiness
import PlotScript.Proofs.Places
import PlotScript.Proofs.Relocation
import PlotScript.Proofs.Renumbering
import PlotScript.Proofs.Asides
import PlotScript.Proofs.Redirects
import PlotScript.Proofs.Origins
import PlotScript.Proofs.MachineFaults
import PlotScript.Proofs.Arguments
import PlotScript.Proofs.Conclusions
import PlotScript.Proofs.ExitStatus
import PlotScript.Proofs.UnknownWords
import PlotScript.Proofs.RememberedOptions
import PlotScript.Proofs.TwoPlotters
import PlotScript.Proofs.Overwriting
import PlotScript.Proofs.NoDrawing
import PlotScript.Proofs.Relayout
import PlotScript.Proofs.HeardLines
import PlotScript.Proofs.Pending
import PlotScript.Proofs.SpoiledBlocks
import PlotScript.Proofs.Rereading
import PlotScript.Proofs.Ended
import PlotScript.Proofs.Aftermath
import PlotScript.Proofs.FailedCommands
import PlotScript.Proofs.FailedBlocks
import PlotScript.Proofs.OneLine
import PlotScript.Proofs.RefusedCalls
import PlotScript.Proofs.Drawings
import PlotScript.Proofs.Downloads
import PlotScript.Proofs.HarmlessUrls
import PlotScript.Proofs.BrokenDownloads
import PlotScript.Proofs.RefusedActions
import PlotScript.Proofs.CleanTexts
import PlotScript.Proofs.Anchors
import PlotScript.Proofs.Carets
import PlotScript.Proofs.Precedence
import PlotScript.Proofs.FirstFaults
import PlotScript.Proofs.NumberRuns
import PlotScript.Proofs.OpenComments
import PlotScript.Proofs.AppendOnly
