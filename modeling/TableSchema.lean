import TableSchema.Json.Rendering
import TableSchema.Proofs.Check.Grouping
import TableSchema.Proofs.Collection.Copy
import TableSchema.Proofs.Collection.Move
import TableSchema.Proofs.Options.Stable
import TableSchema.Proofs.RoundTrip
import TableSchema.Proofs.Rule.Choices
import TableSchema.Proofs.Rule.DateRange
import TableSchema.Proofs.Rule.DomainLists
import TableSchema.Proofs.Rule.Email
import TableSchema.Proofs.Rule.FirstError
import TableSchema.Proofs.Rule.Json
import TableSchema.Proofs.Rule.LastWins
import TableSchema.Proofs.Rule.Pattern
import TableSchema.Proofs.Rule.RecordIds
import TableSchema.Proofs.Rule.Stored
import TableSchema.Proofs.Rule.Written
import TableSchema.Proofs.Specs.Dates
import TableSchema.Proofs.Specs.Violations
import TableSchema.Proofs.Url.Absolute
