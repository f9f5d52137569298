import TableBench.Number.Layout
import TableBench.Number.Numeral
import TableBench.Payload.Values
import TableBench.Document.Writer
import TableBench.Document.Reader
import TableBench.Table.Name
import TableBench.Session
import TableBench.Report
import TableBench.CommandLine.Program
import TableBench.Main
import TableBench.Proofs.Document.Canonical
import TableBench.Proofs.KeyValue.Refinement
import TableBench.Proofs.Session.LifeCycle
import TableBench.Proofs.Session.Fronting
import TableBench.Proofs.Session.Gate
import TableBench.Proofs.Session.Ledger
import TableBench.Proofs.CommandLine.Reporting
import TableBench.Proofs.CommandLine.Closing
import TableBench.Proofs.CommandLine.Deletion
import TableBench.Proofs.CommandLine.Breakdown
import TableBench.Proofs.CommandLine.Setup
import TableBench.Proofs.CommandLine.Keys
import TableBench.Proofs.CommandLine.Credentials
import TableBench.Proofs.CommandLine.Lines
import TableBench.Proofs.CommandLine.Names
import TableBench.Proofs.Session.Configured
import TableBench.Proofs.Session.Description
import TableBench.Proofs.Session.Deeds
import TableBench.Proofs.Session.Payloads
import TableBench.Proofs.Batch.Answers
import TableBench.Proofs.Batch.Rounds
import TableBench.Proofs.Batch.Draining
import TableBench.Proofs.Batch.Splitting
import TableBench.Proofs.Batch.Refusal
import TableBench.Proofs.Batch.Raising
import TableBench.Proofs.Table.Detection
import TableBench.Proofs.Table.Ensure
