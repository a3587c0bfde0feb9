import SpatialQuery.Fingerprint
import SpatialQuery.Json.Printer
import SpatialQuery.Query.Wire

/-!
# Keys of queries

Two spellings of one query have one canonical text, and results are kept under a fingerprint of that
text together with the tolerance to which their geometry was simplified.
-/

set_option autoImplicit false

namespace SpatialQuery.Query

/-- The wire form with sorted keys and without spaces. -/
def canonical (q : Query) : String := Json.canonical q.wire

def hash (q : Query) : String := Fingerprint.ofString q.canonical

def resultText (q : Query) (tolerance : Number) : String :=
  q.canonical ++ "|" ++ tolerance.text Decimal.plainLayout

def resultKey (q : Query) (tolerance : Number) : String :=
  Fingerprint.ofString (q.resultText tolerance)

end SpatialQuery.Query
