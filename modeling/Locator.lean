import Locator.Text.Printable
import Locator.Text.Blank
import Locator.Text.Decimal
import Locator.Text.Quoted
import Locator.Text.Pieces
import Locator.Text.Integer
import Locator.Path
import Locator.Format.Basic
import Locator.Format
import Locator.Error
import Locator.Spec
import Locator.Coordinate
import Locator.Json
import Locator.Log
import Locator.Host
import Locator.Host.Disk
import Locator.Inference
import Locator.Validation
import Locator.Resource
import Locator.Resource.Build
import Locator.Reference
import Locator.Resolver
import Locator.Text.Wrap
import Locator.Text.Similarity
import Locator.Cli.Args
import Locator.Cli.Help
import Locator.Cli
import Locator.Main
import Locator.Proofs.Logged
import Locator.Proofs.Registry
import Locator.Proofs.Text
import Locator.Proofs.Split
import Locator.Proofs.Checking
import Locator.Proofs.Inference
import Locator.Proofs.Building
import Locator.Proofs.Resolution
import Locator.Proofs.Refusals
import Locator.Proofs.Consistency
import Locator.Proofs.RoundTrip
import Locator.Proofs.Advisories
import Locator.Proofs.Filesystem
import Locator.Proofs.Grammar
import Locator.Proofs.Document
import Locator.Proofs.CommandLine
import Locator.Proofs.CoordinateSyntax
import Locator.Proofs.Normalization
import Locator.Proofs.Subdirectory
import Locator.Proofs.Inferable
import Locator.Proofs.BareMessage
import Locator.Proofs.WholeNumber
import Locator.Proofs.Repository
import Locator.Proofs.Compression
import Locator.Proofs.ResolvedPaths
