import TableQuery.Display.Types
import TableQuery.Proofs.Calendar.IsoText
import TableQuery.Proofs.Outcome
import TableQuery.Proofs.Text.Joining

/-! Dates on display.
A date or a moment is displayed as its ISO text is, whether blanks stand around the text or not, and
universal time may be told by a letter. A text of a date is read as the moment at which that day
begins, and so is the date itself. -/
namespace TableQuery.Pattern
open TableQuery.Text

end TableQuery.Pattern

namespace TableQuery.Display
open TableQuery.Text TableQuery.Number TableQuery.Iso

end TableQuery.Display
