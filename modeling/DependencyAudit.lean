import DependencyAudit.Main
import DependencyAudit.Proofs.DepthFirst
import DependencyAudit.Proofs.FirstOccurrence
import DependencyAudit.Proofs.Lookup
import DependencyAudit.Proofs.Mention.Parser
import DependencyAudit.Proofs.Contents
import DependencyAudit.Proofs.ScanReport
import DependencyAudit.Proofs.LongerList
import DependencyAudit.Proofs.Lockfile.Document
import DependencyAudit.Proofs.Lockfile.Rules
import DependencyAudit.Proofs.Lockfile.Lines
import DependencyAudit.Proofs.Lockfile.Decoding
import DependencyAudit.Proofs.Lockfile.LookBack
import DependencyAudit.Proofs.Faults
import DependencyAudit.Proofs.Interleaving
import DependencyAudit.Proofs.TwoViews
import DependencyAudit.Proofs.Json.Keyed
import DependencyAudit.Proofs.Declaration
import DependencyAudit.Proofs.ExitCode
import DependencyAudit.Proofs.Reordering
import DependencyAudit.Proofs.Listing
import DependencyAudit.Proofs.Lockfile.Comments
import DependencyAudit.Proofs.Agreement
import DependencyAudit.Proofs.Lockfile.BlankLines
import DependencyAudit.Proofs.Decoration
import DependencyAudit.Proofs.Groups
import DependencyAudit.Proofs.Breaks
import DependencyAudit.Proofs.Record.Line
import DependencyAudit.Proofs.Record.Written
import DependencyAudit.Proofs.Watchlist.Loading
import DependencyAudit.Proofs.Watchlist.Union
import DependencyAudit.Proofs.Merging
import DependencyAudit.Proofs.Dispatch
import DependencyAudit.Proofs.Tally
import DependencyAudit.Proofs.ReadBack
import DependencyAudit.Proofs.Watchlist.Sessions
import DependencyAudit.Proofs.RelativePath
import DependencyAudit.Proofs.Resolving
import DependencyAudit.Proofs.JoinedBack
