import CommandShell.FileTree.Change
import CommandShell.Launch
import CommandShell.Main
import CommandShell.ByteStream
import CommandShell.Probe
import CommandShell.Proofs.Token.Element
import CommandShell.Proofs.Token.Decomposition
import CommandShell.Proofs.Token.Rendering
import CommandShell.Proofs.Command.WellFormed
import CommandShell.Proofs.FileTree.Growth
import CommandShell.Proofs.Shell.Failure
import CommandShell.Proofs.FileTree.Opening
import CommandShell.Proofs.State.Writing
import CommandShell.Proofs.Program.Busy
import CommandShell.Proofs.Shell.Impartial
import CommandShell.Proofs.Shell.Lines
import CommandShell.Proofs.Shell.Diversion
import CommandShell.Proofs.Shell.Turn
import CommandShell.Proofs.Shell.Environment
import CommandShell.Proofs.FileTree.Directory
import CommandShell.Proofs.Shell.WorkingDirectory
import CommandShell.Proofs.Shell.Naming
import CommandShell.Proofs.Shell.Input
import CommandShell.Proofs.Shell.Reading
import CommandShell.Proofs.Shell.EndedInput
import CommandShell.Proofs.Launch.SingleLine
import CommandShell.Proofs.Token.Blank
import CommandShell.Proofs.Command.Positions
import CommandShell.Proofs.Token.Serialization
import CommandShell.Proofs.Shell.Transparent
import CommandShell.Proofs.Shell.Resolution
import CommandShell.Proofs.FileTree.Reopening
import CommandShell.Proofs.Shell.Accumulation
import CommandShell.Proofs.Program.Search
import CommandShell.Proofs.FileTree.Footprint
import CommandShell.Proofs.Lookup.Separator
import CommandShell.Proofs.Shell.HomeDirectory
import CommandShell.Proofs.Launch.ExitStatus
import CommandShell.Proofs.Shell.Variables
import CommandShell.Proofs.ByteStream.Copying
