/-!
# Tables of runs

Data about code points is kept in two kinds of tables, both in increasing order.
A partition says where each new value begins.  A set lists the first and last
code points of its runs.  Looking up stops as soon as the code point is passed.
-/

namespace PromptStream

namespace Unicode

/-- The value of a number in a partition, given the value before its first
entry. -/
def valueAt {α : Type} (n : Nat) : List (Nat × α) → α → α
  | [], v => v
  | (start, w) :: rest, v => if n < start then v else valueAt n rest w

/-- Whether a number lies in one of the runs of a set. -/
def inRuns (n : Nat) : List (Nat × Nat) → Bool
  | [] => false
  | (low, high) :: rest => if n < low then false else n ≤ high || inRuns n rest

example : valueAt 5 [(0, 'a'), (4, 'b'), (6, 'c')] 'z' = 'b' := by decide

example : inRuns 5 [(0, 3), (5, 5)] = true := by decide

end Unicode

end PromptStream
