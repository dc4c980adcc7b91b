/-! Runs of decimal digits. -/
namespace StorageAccess

/-- The number that a run of decimal digits writes. -/
def ofDigits (cs : List Char) : Nat := cs.foldl (fun n c => 10 * n + (c.toNat - 48)) 0

end StorageAccess
