import Reimport.Main
import Reimport.Proofs.Results
import Reimport.Proofs.Walk.Visits
import Reimport.Proofs.Walk.Account
import Reimport.Proofs.Split.SourcePiece
import Reimport.Proofs.Text.Utf8
import Reimport.Proofs.FileTree.Resolve
import Reimport.Proofs.FileTree.Change
import Reimport.Proofs.Split.Target
import Reimport.Proofs.Split.Faithful
import Reimport.Proofs.Settings.Anchored
import Reimport.Proofs.Text.Decimal
import Reimport.Proofs.Report
import Reimport.Proofs.RoundTrip
import Reimport.Proofs.Summary
import Reimport.Proofs.CommandLine.Verdict
import Reimport.Proofs.Text.Markup
import Reimport.Proofs.Recording
import Reimport.Proofs.RoundTrip.Calls
import Reimport.Proofs.RoundTrip.Reproduction
import Reimport.Proofs.RoundTrip.Kept
import Reimport.Proofs.Walk.GivenUp
import Reimport.Proofs.Walk.Refused
import Reimport.Proofs.Split.Encoding
import Reimport.Proofs.Walk.Frame
import Reimport.Proofs.Walk.Order
import Reimport.Proofs.Walk.Halting
import Reimport.Proofs.Diff.Restore
import Reimport.Proofs.RoundTrip.Backend
import Reimport.Proofs.Walk.Repeated
import Reimport.Proofs.Walk.Keeping
import Reimport.Proofs.FileTree.Copying
import Reimport.Proofs.Walk.Evidence
import Reimport.Proofs.Walk.Archive
import Reimport.Proofs.Bookkeeping
import Reimport.Proofs.Split.Confined
import Reimport.Proofs.Split.Listed
import Reimport.Proofs.Split.Obstacles
import Reimport.Proofs.CommandLine.Closing
import Reimport.Proofs.Path.Glob
import Reimport.Proofs.FileTree.Searching
import Reimport.Proofs.Corpus.Order
import Reimport.Proofs.Corpus.Targets
import Reimport.Proofs.Corpus.Discovery
import Reimport.Proofs.Corpus.Filter
import Reimport.Proofs.Text.Terminal
import Reimport.Proofs.Text.Shell
import Reimport.Proofs.Settings.Sources
import Reimport.Proofs.Settings.Farther
import Reimport.Proofs.Settings.Blame
import Reimport.Proofs.Console.Legible
