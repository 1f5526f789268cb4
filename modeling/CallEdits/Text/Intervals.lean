/-!
# Text/Intervals — sets of code points given by their borders

A character class of Unicode is a set of code points.  It is written down as the ascending list of
its borders `a₀ < b₀ < a₁ < b₁ < …`, and stands for the union of the half-open intervals `[aᵢ, bᵢ)`.
-/

namespace CallEdits.Text

/-- **Membership in a list of borders.**  The search stops at the first interval that begins after
the point. -/
def within : List Nat → Nat → Bool
  | a :: b :: rest, n => a ≤ n && (n < b || within rest n)
  | [a], n => a ≤ n
  | [], _ => false

end CallEdits.Text
