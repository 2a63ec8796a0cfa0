/-!
# Ranges of code points

Classes of characters are kept as ascending ranges of code points and searched by halving.
-/

namespace LoxExpr.Text

/-- How many of the ranges in `lo .. lo + count` start at or before a code point, added to `lo`;
each step halves the part that is left. -/
def rangesUpTo (ranges : Array (Nat × Nat)) (code : Nat) : (fuel lo count : Nat) → Nat
  | 0, lo, _ => lo
  | fuel + 1, lo, count =>
    if count = 0 then lo
    else
      let half := count / 2
      if (ranges.getD (lo + half) (0, 0)).1 ≤ code then
        rangesUpTo ranges code fuel (lo + half + 1) (count - half - 1)
      else rangesUpTo ranges code fuel lo half

/-- Whether a code point lies in one of the ascending ranges: only the last range that starts
at or before it can hold it. -/
def inRanges (ranges : Array (Nat × Nat)) (code : Nat) : Bool :=
  match rangesUpTo ranges code ranges.size 0 ranges.size with
  | 0 => false
  | k + 1 => code ≤ (ranges.getD k (0, 0)).2

end LoxExpr.Text
