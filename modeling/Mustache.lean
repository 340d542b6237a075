import Mustache.Main
import Mustache.Proofs.CheckedScan
import Mustache.Proofs.Commands
import Mustache.Proofs.Coverage
import Mustache.Proofs.ErrorReports
import Mustache.Proofs.ExactScan
import Mustache.Proofs.Extension
import Mustache.Proofs.KeyPathDisplay
import Mustache.Proofs.KeyPathGrammar
import Mustache.Proofs.LineNumbers
import Mustache.Proofs.ListingLines
import Mustache.Proofs.Rendering
import Mustache.Proofs.Resumption
import Mustache.Proofs.Searches
import Mustache.Proofs.Sessions
import Mustache.Proofs.Skips
import Mustache.Proofs.StartingDelimiters
import Mustache.Proofs.TagDelimiters
import Mustache.Proofs.Termination
import Mustache.Proofs.TokenDisplay
import Mustache.Proofs.TokenSoundness
import Mustache.Scan.Collection
import Mustache.Scan.Recording
