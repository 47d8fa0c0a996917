import LineShell.Main
import LineShell.Source.Editor
import LineShell.Source.Events
import LineShell.Proofs.Lines
import LineShell.Proofs.Dialogue
import LineShell.Proofs.Place
import LineShell.Proofs.Failure
import LineShell.Proofs.Agreement
import LineShell.Proofs.Exit
import LineShell.Proofs.Deeds
import LineShell.Proofs.Likeness
import LineShell.Proofs.Room
import LineShell.Proofs.Unheard
import LineShell.Proofs.Sequence
import LineShell.Proofs.Composition
import LineShell.Proofs.Unflushed
import LineShell.Proofs.Execution
import LineShell.Proofs.Buffered
import LineShell.Proofs.Unerased
import LineShell.Proofs.Sparing
import LineShell.Proofs.TwoSources
import LineShell.Proofs.Acts
import LineShell.Proofs.Transcript
import LineShell.Proofs.WholeRun
import LineShell.Proofs.Encoding
import LineShell.Proofs.Components
import LineShell.Proofs.Search
import LineShell.Proofs.Inheritance
import LineShell.Proofs.Launching
import LineShell.Proofs.Narrow
import LineShell.Proofs.Echo
import LineShell.Proofs.Journey
import LineShell.Proofs.Options
import LineShell.Proofs.Prompts
import LineShell.Proofs.History
