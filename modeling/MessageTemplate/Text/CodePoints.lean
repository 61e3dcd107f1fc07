/-!
# Sets of code points

A character class of the Unicode standard is written down as a list of closed ranges. All classes
are those of Unicode 16.0.

* `CodePoints`: the ranges, apart from each other and in increasing order.
* `CodePoints.contains`: membership, one comparison per range.
-/

namespace MessageTemplate

/-- Whether closed ranges follow one another in increasing order, the first not before `least`, and
do not touch. -/
def inOrderFrom (least : Nat) : List (Nat × Nat) → Bool
  | [] => true
  | (lo, hi) :: ranges => least ≤ lo && lo ≤ hi && inOrderFrom (hi + 2) ranges

/-- A set of code points as closed ranges in increasing order. No two of them can be joined. -/
structure CodePoints where
  ranges : List (Nat × Nat)
  inOrder : inOrderFrom 0 ranges = true := by decide +kernel

namespace CodePoints

/-- Whether the character lies in one of the ranges. -/
def contains (set : CodePoints) (c : Char) : Bool :=
  set.ranges.any fun (lo, hi) => lo ≤ c.toNat && c.toNat ≤ hi

end CodePoints

/-- Control characters: the two blocks of 32 codes and the delete character. -/
def isControl (c : Char) : Bool :=
  c.toNat < 0x20 || (0x7F ≤ c.toNat && c.toNat ≤ 0x9F)

/-- The `White_Space` property: what a source line is trimmed of. -/
def isBlank (c : Char) : Bool :=
  (0x09 ≤ c.toNat && c.toNat ≤ 0x0D) || c.toNat == 0x20 || c.toNat == 0x85 || c.toNat == 0xA0 ||
    c.toNat == 0x1680 || (0x2000 ≤ c.toNat && c.toNat ≤ 0x200A) || c.toNat == 0x2028 ||
    c.toNat == 0x2029 || c.toNat == 0x202F || c.toNat == 0x205F || c.toNat == 0x3000

end MessageTemplate
