/-! Sets of characters given as closed ranges of code points. -/
namespace StorageAccess

def inRanges (ranges : List (Nat × Nat)) (n : Nat) : Bool :=
  ranges.any fun range => range.1 ≤ n && n ≤ range.2

end StorageAccess
