/-
# Character classes by their boundaries

A class of characters is written as the ascending list of the code points at which membership
changes: the first is the first member, the second the first non-member after it, and so on. A code
point belongs to the class if an odd number of boundaries lies at or below it.
-/

namespace Walkthrough
namespace Text

/-- The number of entries of an ascending `table` that are at most `c`, found by halving the open part
`[lo, hi)` at most `depth` times. -/
def countUpTo (table : Array Nat) (c : Nat) : Nat → Nat → Nat → Nat
  | 0, lo, _ => lo
  | depth + 1, lo, hi =>
    if lo < hi then
      let mid := (lo + hi) / 2
      if table.getD mid 0 ≤ c then countUpTo table c depth (mid + 1) hi
      else countUpTo table c depth lo mid
    else lo

/-- The number of entries of an ascending table that are at most `c`. -/
def rank (table : Array Nat) (c : Nat) : Nat := countUpTo table c (table.size.log2 + 1) 0 table.size

/-- Membership of a character in the class with the given boundaries. -/
def inClass (boundaries : Array Nat) (c : Char) : Bool := rank boundaries c.toNat % 2 == 1

end Text
end Walkthrough
