import TableExport.Query.Compile
import TableExport.Request.Json
import TableExport.Table.Reflection
import TableExport.Table.Json
import TableExport.Proofs.Query.Outline
import TableExport.Proofs.Query.Values
import TableExport.Proofs.Query.FirstFault
import TableExport.Proofs.Query.Calls
import TableExport.Proofs.Query.SharedDraft
import TableExport.Proofs.Query.KnownTable
import TableExport.Proofs.Query.FlagName
import TableExport.Proofs.Query.Suffixes
import TableExport.Proofs.Query.Requirement
import TableExport.Proofs.Query.NativeType
import TableExport.Proofs.Query.Projection
import TableExport.Proofs.Query.BoundTypes
import TableExport.Proofs.Request.RoundTrip
import TableExport.Proofs.Request.Faults
import TableExport.Proofs.Table.Faults
import TableExport.Proofs.Query.Order
import TableExport.Proofs.Number.Decimal
import TableExport.Proofs.Time.Calendar
import TableExport.Proofs.Time.Reading
import TableExport.Proofs.Time.Seconds
import TableExport.Proofs.Time.UnixTime
import TableExport.Proofs.Query.ChangeWindow
import TableExport.Proofs.Text.UpperCase
import TableExport.Proofs.Table.Reading
import TableExport.Proofs.Query.Literal
import TableExport.Proofs.Sql.Identifier
import TableExport.Proofs.Query.NameSource
import TableExport.Proofs.Query.Rendering
import TableExport.Proofs.Query.TypeSpelling
