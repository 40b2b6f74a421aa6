import PlaceholderExports.Loader
import PlaceholderExports.Main
import PlaceholderExports.Session
import PlaceholderExports.Store.Terminal
import PlaceholderExports.Proofs.Classification.Accumulation
import PlaceholderExports.Proofs.Classification.Growth
import PlaceholderExports.Proofs.Classification.Rewriting
import PlaceholderExports.Proofs.Classification.Stability
import PlaceholderExports.Proofs.Classification.ValueExports
import PlaceholderExports.Proofs.Loader.Transparency
import PlaceholderExports.Proofs.Placeholder.Appending
import PlaceholderExports.Proofs.Placeholder.Hygiene
import PlaceholderExports.Proofs.Placeholder.Validity
import PlaceholderExports.Proofs.CacheHistory
import PlaceholderExports.Proofs.FsPath.Decomposition
import PlaceholderExports.Proofs.FsPath.Joining
import PlaceholderExports.Proofs.FsPath.Placement
import PlaceholderExports.Proofs.FsPath.Resolution
import PlaceholderExports.Proofs.Batch.Containment
import PlaceholderExports.Proofs.Batch.Effect
import PlaceholderExports.Proofs.Batch.Independence
import PlaceholderExports.Proofs.Batch.Refusals
import PlaceholderExports.Proofs.Loader.TextFunctions
import PlaceholderExports.Proofs.Placeholder.Rereading
import PlaceholderExports.Proofs.CommandLine.Selection
import PlaceholderExports.Proofs.CommandLine.Output
import PlaceholderExports.Proofs.CommandLine.Status
import PlaceholderExports.Proofs.Plugin.Extensions
import PlaceholderExports.Proofs.Config.Documents
import PlaceholderExports.Proofs.Store.SharedFiles
