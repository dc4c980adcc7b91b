/-! Faults: computations whose result has no representation. Unlike an error, a fault is not reported
to the caller; the program ends with it. -/
namespace StorageAccess

inductive Fault
  /-- A date past the last representable year. -/
  | instantOverflow
  /-- A delay that is not a number of seconds below `2 ^ 64`. -/
  | durationOverflow
  /-- A counter of attempts past its last value. -/
  | attemptOverflow
  /-- A variable that the environment of a process cannot hold. -/
  | unsettableVariable
  deriving DecidableEq

end StorageAccess
