import CommandWords.Configuration.Load
import CommandWords.Interpreter.Command
import CommandWords.Json.Writer
import CommandWords.Outcome.Record
import CommandWords.Registry
import CommandWords.Proofs.Words.Reader
import CommandWords.Proofs.Words.Marks
import CommandWords.Proofs.Words.Escaped
import CommandWords.Proofs.Words.RoundTrip
import CommandWords.Proofs.Session.Operation
import CommandWords.Proofs.Session.Memory
import CommandWords.Proofs.Session.Consulting
import CommandWords.Proofs.Session.Runs
import CommandWords.Proofs.Lookup.LookupRun
import CommandWords.Proofs.Session.History
import CommandWords.Proofs.Session.Effect
import CommandWords.Proofs.Session.StepEffect
import CommandWords.Proofs.Session.Ownership
import CommandWords.Proofs.Session.LastAnswer
import CommandWords.Proofs.Table.Positions
import CommandWords.Proofs.Number.Vast
import CommandWords.Proofs.Table.Readers
import CommandWords.Proofs.Table.Resolved
import CommandWords.Proofs.Lookup.CachedAnswer
import CommandWords.Proofs.Session.Provenance
import CommandWords.Proofs.Lookup.Justified
import CommandWords.Proofs.Lookup.Verdict
import CommandWords.Proofs.Lookup.Transparency
import CommandWords.Proofs.Lookup.ExactLookup
import CommandWords.Proofs.Lookup.KeptKeyword
import CommandWords.Proofs.Number.Total
import CommandWords.Proofs.Session.Surroundings
import CommandWords.Proofs.Lookup.Accounts
import CommandWords.Proofs.Session.Turnover
import CommandWords.Proofs.Session.Turns
import CommandWords.Proofs.Session.Turning
import CommandWords.Proofs.Session.FreedOnce
import CommandWords.Proofs.Session.Change
import CommandWords.Proofs.Session.KeptText
import CommandWords.Proofs.Number.Counts
import CommandWords.Proofs.Ledger.BoundedLog
import CommandWords.Proofs.Lookup.FailedLookup
import CommandWords.Proofs.Lookup.Reference
import CommandWords.Proofs.Lookup.Records
import CommandWords.Proofs.Lookup.LoggedRun
import CommandWords.Proofs.Usage.Undone
import CommandWords.Proofs.Interpreter.Scoping
import CommandWords.Proofs.Session.Foreign
import CommandWords.Proofs.Session.Untouched
import CommandWords.Proofs.Lookup.Unshared
import CommandWords.Proofs.Interpreter.Program
import CommandWords.Proofs.Ledger.Ignored
import CommandWords.Proofs.Text.LetterCase
import CommandWords.Proofs.Configuration.Layers
import CommandWords.Proofs.Interpreter.Results
import CommandWords.Proofs.Usage.Alternatives
import CommandWords.Proofs.Usage.Enclosed
import CommandWords.Proofs.Usage.ReadBack
import CommandWords.Proofs.Lookup.Meaning
import CommandWords.Proofs.Lookup.Suggestions
import CommandWords.Proofs.Words.Hidden
import CommandWords.Proofs.Words.Inert
import CommandWords.Proofs.Words.Braced
import CommandWords.Proofs.Words.Nested
import CommandWords.Proofs.Session.Conversion
import CommandWords.Proofs.Session.Formless
import CommandWords.Proofs.Usage.Printing
import CommandWords.Proofs.Interpreter.LastWrite
import CommandWords.Proofs.Interpreter.Unfolded
import CommandWords.Proofs.Interpreter.Direct
import CommandWords.Proofs.Text.FirstOccurrence
import CommandWords.Proofs.Text.References
import CommandWords.Proofs.Number.Numerals
import CommandWords.Proofs.Fields
import CommandWords.Proofs.Outcome.Findings
import CommandWords.Proofs.Outcome.Templates
import CommandWords.Proofs.Outcome.Verbatim
import CommandWords.Proofs.Lookup.Choices
import CommandWords.Proofs.Number.Integers
import CommandWords.Proofs.Table.Walk
import CommandWords.Proofs.Table.Entries
import CommandWords.Proofs.Session.Registries
import CommandWords.Proofs.Text.UnitOrder
import CommandWords.Proofs.Session.Registration
import CommandWords.Proofs.Configuration.Merging
import CommandWords.Proofs.Configuration.Written
