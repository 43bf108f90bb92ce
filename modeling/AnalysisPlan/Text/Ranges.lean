/-!
# Ranges of code points

A character property is stored as a list of closed ranges of code points. This
module holds the look-up; the properties themselves are tables of their own.
-/

namespace AnalysisPlan
namespace Text

/-- Whether a code point lies in one of the closed ranges. -/
def inRanges (ranges : List (Nat × Nat)) (n : Nat) : Bool :=
  ranges.any fun r => r.1 ≤ n && n ≤ r.2

end Text
end AnalysisPlan
