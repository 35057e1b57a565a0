import TableOptions.Draft
import TableOptions.KeyMap.Lemmas
import TableOptions.KeyMap.Enumeration
import TableOptions.Main
import TableOptions.Proofs.Properties.Continuation
import TableOptions.Proofs.Properties.Concatenation
import TableOptions.Proofs.Properties.Grouping
import TableOptions.Proofs.Properties.Layout
import TableOptions.Proofs.Properties.Unescaping
import TableOptions.Proofs.Properties.EntryGrammar
import TableOptions.Proofs.Properties.EscapedUnits
import TableOptions.Proofs.Properties.Spelling
import TableOptions.Proofs.Properties.RoundTrip
import TableOptions.Proofs.Properties.Rewriting
import TableOptions.Proofs.Properties.Isolation
import TableOptions.Proofs.Properties.Scanning
import TableOptions.Proofs.Draft.History
import TableOptions.Proofs.Registry.Lookup
import TableOptions.Proofs.Registry.Index
import TableOptions.Proofs.Registry.Runs
import TableOptions.Proofs.Registry.Groups
import TableOptions.Proofs.Listing.Filters
import TableOptions.Proofs.Changes.Entries
import TableOptions.Proofs.Streamer.Bridge
import TableOptions.Proofs.Streamer.Resolving
import TableOptions.Proofs.Text.Integer
import TableOptions.Proofs.Text.Lines
import TableOptions.Proofs.Text.Hexadecimal
import TableOptions.Proofs.Text.Utf16
import TableOptions.Proofs.Double.Scaling
import TableOptions.Proofs.Double.Reading
import TableOptions.Proofs.Value.TextForm
import TableOptions.Proofs.Changes.ChangedOnly
import TableOptions.Proofs.Changes.Reload
import TableOptions.Proofs.Changes.Views
import TableOptions.Proofs.Passthrough.Selection
import TableOptions.Proofs.Passthrough.Flattening
import TableOptions.Proofs.Passthrough.LeavingOut
import TableOptions.Proofs.Passthrough.Depth
import TableOptions.Proofs.Text.Numeral
import TableOptions.Proofs.Streamer.Precedence
import TableOptions.Proofs.Streamer.OwnEntries
import TableOptions.Proofs.CommandLine.Arrangement
import TableOptions.Proofs.CommandLine.Agreement
import TableOptions.Proofs.Text.Padding
import TableOptions.Proofs.Value.IntegerText
import TableOptions.Proofs.Streamer.Retries
import TableOptions.Proofs.Changes.OwnDefault
import TableOptions.Proofs.Streamer.FittingTypes
