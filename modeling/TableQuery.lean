import TableQuery.Session
import TableQuery.Exchange
import TableQuery.Threshold
import TableQuery.Service.Handling
import TableQuery.Proofs.OData.FilterReading
import TableQuery.Proofs.OData.Addresses
import TableQuery.Proofs.Query.Filtering
import TableQuery.Proofs.Query.Sorting
import TableQuery.Proofs.Load.History
import TableQuery.Proofs.Load.Exchange
import TableQuery.Proofs.Query.Paging
import TableQuery.Proofs.Query.Pruning
import TableQuery.Proofs.Value.Faults
import TableQuery.Proofs.Query.Rejection
import TableQuery.Proofs.Session.Sharing
import TableQuery.Proofs.OData.ServedPages
import TableQuery.Proofs.Text.Integers
import TableQuery.Proofs.OData.Distinction
import TableQuery.Proofs.Number.Exact
import TableQuery.Proofs.OData.Answers
import TableQuery.Proofs.Json.Readable
import TableQuery.Proofs.Request.Reading
import TableQuery.Proofs.Request.RoundTrip
import TableQuery.Proofs.Service.AccessLog
import TableQuery.Proofs.Service.Levels
import TableQuery.Proofs.Service.Network
import TableQuery.Proofs.Value.JsonLike
import TableQuery.Proofs.Request.FromJson
import TableQuery.Proofs.Service.JsonBodies
import TableQuery.Proofs.Registry.Registrations
import TableQuery.Proofs.Registry.SourceList
import TableQuery.Proofs.Value.Sameness
import TableQuery.Proofs.Query.Membership
import TableQuery.Proofs.Query.Comparing
import TableQuery.Proofs.Query.Unsortable
import TableQuery.Proofs.Query.Resorting
import TableQuery.Proofs.Number.DecimalText
import TableQuery.Proofs.Number.Nearest
import TableQuery.Proofs.Display.Decimals
import TableQuery.Proofs.Display.Integers
import TableQuery.Proofs.Display.Dates
import TableQuery.Proofs.OData.DateLiterals
import TableQuery.Proofs.Load.Pages
import TableQuery.Proofs.Registry.FieldTypes
import TableQuery.Proofs.Query.Preorder
