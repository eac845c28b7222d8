import BslLint.Main
import BslLint.Proofs.Broadcast.Accounting
import BslLint.Proofs.Check.AuthorizedNumbers
import BslLint.Proofs.Check.CommentBlocks
import BslLint.Proofs.Check.Concatenation
import BslLint.Proofs.Check.EmptyLines
import BslLint.Proofs.Check.Extent
import BslLint.Proofs.Check.LateDirectives
import BslLint.Proofs.Check.Loosening
import BslLint.Proofs.Check.MagicNumbers
import BslLint.Proofs.Check.ModalCalls
import BslLint.Proofs.Check.Rewording
import BslLint.Proofs.Check.ServiceTags
import BslLint.Proofs.Check.YoNames
import BslLint.Proofs.Command.Checking
import BslLint.Proofs.Command.ExitCode
import BslLint.Proofs.Command.Initial
import BslLint.Proofs.Command.Lookup
import BslLint.Proofs.Command.Printing
import BslLint.Proofs.Compatibility.RoundTrip
import BslLint.Proofs.Configuration.Order
import BslLint.Proofs.Configuration.Texts
import BslLint.Proofs.Report.Pushes
import BslLint.Proofs.Rule.Catalog
import BslLint.Proofs.Rule.Contribution
import BslLint.Proofs.Rule.Isolation
import BslLint.Proofs.Rule.Platform
import BslLint.Proofs.Rule.Validation
import BslLint.Proofs.Session.Custody
import BslLint.Proofs.Session.LineEnds
import BslLint.Proofs.Session.Listing
import BslLint.Proofs.Session.Merge
import BslLint.Proofs.Session.Restriction
import BslLint.Proofs.Session.Translation
import BslLint.Proofs.Session.Tree
import BslLint.Proofs.Session.Watching
import BslLint.Proofs.Session.Wording
import BslLint.Proofs.Sharing.Mode
import BslLint.Proofs.Sharing.Walk
import BslLint.Proofs.Source.Comments
import BslLint.Proofs.Watching.Convergence
import BslLint.Proofs.Watching.Settling
import BslLint.Proofs.Watching.Starting
import BslLint.Proofs.Workspace.Declaration
import BslLint.Proofs.Workspace.Editing
import BslLint.Source.Span
