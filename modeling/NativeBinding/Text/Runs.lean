namespace NativeBinding.Text

-- A class of code points is given by the places where membership changes, in
-- increasing order: the first number enters the class, the second leaves it.
def inRuns : List Nat → Nat → Bool
  | [],_ => false
  | bound :: rest,n => if n < bound then false else !inRuns rest n

theorem inRuns_below (bound : Nat) (rest : List Nat) (n : Nat) (below : n < bound) :
    inRuns (bound :: rest) n = false := by
  simp [inRuns,below]

theorem inRuns_above (bound : Nat) (rest : List Nat) (n : Nat) (above : bound ≤ n) :
    inRuns (bound :: rest) n = !inRuns rest n := by
  simp only [inRuns,if_neg (Nat.not_lt.mpr above)]

end NativeBinding.Text
