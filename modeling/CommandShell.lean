import CommandShell.Completion
import CommandShell.Main
import CommandShell.Proofs.Line.Scanning
import CommandShell.Proofs.Line.Extraction
import CommandShell.Proofs.Line.Rendering
import CommandShell.Proofs.Line.RoundTrip
import CommandShell.Proofs.Line.Composition
import CommandShell.Proofs.Host.Handles
import CommandShell.Proofs.Pipeline.Builtins
import CommandShell.Proofs.Pipeline.Frame
import CommandShell.Proofs.Session.Rejection
import CommandShell.Proofs.Session.Loop
import CommandShell.Proofs.Pipeline.Wiring
import CommandShell.Proofs.Pipeline.Exchange
import CommandShell.Proofs.Pipeline.Flow
import CommandShell.Proofs.Pipeline.Delivery
import CommandShell.Proofs.Pipeline.Filters
import CommandShell.Proofs.History.Cursor
import CommandShell.Proofs.Session.Recording
import CommandShell.Proofs.Session.Persistence
import CommandShell.Proofs.Session.Overwriting
import CommandShell.Proofs.Pipeline.Bookkeeping
import CommandShell.Proofs.Pipeline.Reaping
import CommandShell.Proofs.Pipeline.Refusing
import CommandShell.Proofs.Pipeline.Closing
import CommandShell.Proofs.Host.RegularFiles
import CommandShell.Proofs.Session.Redirecting
import CommandShell.Proofs.Line.SyntaxErrors
import CommandShell.Proofs.Line.Trimming
import CommandShell.Proofs.Session.Targets
import CommandShell.Proofs.Pipeline.Settling
import CommandShell.Proofs.Pipeline.NotStarted
import CommandShell.Proofs.Line.Grammar
import CommandShell.Proofs.Line.Cutting
import CommandShell.Proofs.Session.Exiting
import CommandShell.Proofs.History.Faithful
import CommandShell.Proofs.History.Appending
import CommandShell.Proofs.History.Operations
import CommandShell.Proofs.History.Sharing
import CommandShell.Proofs.Line.Numbers
import CommandShell.Proofs.Session.Numbering
import CommandShell.Proofs.Command.Naming
import CommandShell.Proofs.Command.Offering
import CommandShell.Proofs.Command.Staging
import CommandShell.Proofs.Settings.Precedence
import CommandShell.Proofs.Command.Accepting
