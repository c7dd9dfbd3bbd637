import CryptoAudit.Classify
import CryptoAudit.Command.Run
import CryptoAudit.Digest
import CryptoAudit.Environment.Load
import CryptoAudit.Json.Write
import CryptoAudit.Log.Session
import CryptoAudit.Main
import CryptoAudit.Proofs.Classification.Priority
import CryptoAudit.Proofs.Classification.Respelling
import CryptoAudit.Proofs.Name.ModeSuffix
import CryptoAudit.Proofs.Scan.Classified
import CryptoAudit.Proofs.Scan.Selection
import CryptoAudit.Proofs.Table.Columns
import CryptoAudit.Proofs.Taxonomy.Insertion
import CryptoAudit.Scan.Finding
import CryptoAudit.Scan.Report
import CryptoAudit.Scan.Summary
import CryptoAudit.Settings.Load
import CryptoAudit.Table.Read
import CryptoAudit.Taxonomy.Config
import CryptoAudit.Yaml.Document
import CryptoAudit.Proofs.Classification.Canonical
import CryptoAudit.Proofs.Classification.Separated
import CryptoAudit.Proofs.Classification.Qualified
import CryptoAudit.Proofs.Scan.Tally
import CryptoAudit.Proofs.Scan.Summary
import CryptoAudit.Proofs.Scan.Record
import CryptoAudit.Proofs.Outcome
import CryptoAudit.Proofs.Scan.Preserved
import CryptoAudit.Proofs.Command.ExitCode
import CryptoAudit.Proofs.Table.Loaded
import CryptoAudit.Proofs.Taxonomy.Listing
import CryptoAudit.Proofs.Text.Blank
import CryptoAudit.Proofs.Classification.Listed
import CryptoAudit.Proofs.Classification.Extension
import CryptoAudit.Proofs.Classification.ListedItems
import CryptoAudit.Proofs.Classification.Reordering
import CryptoAudit.Proofs.Taxonomy.Grammar
import CryptoAudit.Proofs.Taxonomy.ItemText
import CryptoAudit.Proofs.Classification.Shadowed
import CryptoAudit.Proofs.Scan.Batches
import CryptoAudit.Proofs.Settings.Resolution
import CryptoAudit.Proofs.Command.Taxonomy
import CryptoAudit.Proofs.Settings.Failures
import CryptoAudit.Proofs.Name.Shape
import CryptoAudit.Proofs.Path
import CryptoAudit.Proofs.Settings.Snapshot
import CryptoAudit.Proofs.Settings.Paths
import CryptoAudit.Log.Call
import CryptoAudit.Proofs.Files.Store
import CryptoAudit.Proofs.Log.Sink
import CryptoAudit.Proofs.Log.Delivery
import CryptoAudit.Proofs.Command.RunDirectory
import CryptoAudit.Proofs.Command.Isolation
import CryptoAudit.Proofs.Text.UpperCase
import CryptoAudit.Proofs.Name.Idempotence
import CryptoAudit.Proofs.Scan.Completion
import CryptoAudit.Proofs.Text.Quoted
import CryptoAudit.Proofs.Command.Names
import CryptoAudit.Proofs.Json.Grammar
import CryptoAudit.Proofs.Json.RoundTrip
import CryptoAudit.Proofs.Json.Artifacts
import CryptoAudit.Proofs.Text.Pattern
import CryptoAudit.Proofs.Name.SuffixPattern
import CryptoAudit.Proofs.Yaml.Quoted
import CryptoAudit.Proofs.Yaml.TextMapping
import CryptoAudit.Proofs.Settings.ColumnKeys
import CryptoAudit.Proofs.Settings.Headers
