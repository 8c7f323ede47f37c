import Lifeline.Main
import Lifeline.Proofs.BlankCells
import Lifeline.Proofs.Forgetting
import Lifeline.Proofs.Neighbours
import Lifeline.Proofs.Overprinting
import Lifeline.Proofs.Runs
import Lifeline.Proofs.Spacing
import Lifeline.Proofs.Stacking
import Lifeline.Proofs.StrayBrace
import Lifeline.Proofs.WrittenScript
import Lifeline.Proofs.Stranded
import Lifeline.Proofs.Cast
import Lifeline.Proofs.Inlining
import Lifeline.Proofs.Joining
import Lifeline.Proofs.DocumentOrder
import Lifeline.Proofs.Xml.Drawing
import Lifeline.Proofs.Boxes
import Lifeline.Proofs.Unclipped
import Lifeline.Proofs.SignalLine
import Lifeline.Proofs.Names
import Lifeline.Proofs.HiddenBlanks
import Lifeline.Proofs.Styles
import Lifeline.Proofs.StrayAlternative
import Lifeline.Proofs.UnclosedBlocks
import Lifeline.Proofs.CommandLine.CleanRuns
import Lifeline.Proofs.Captions
import Lifeline.Proofs.DataUri
import Lifeline.Proofs.Hundredths
import Lifeline.Proofs.Precedence
import Lifeline.Proofs.Borders
import Lifeline.Proofs.Shifting
