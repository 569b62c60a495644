import AsterTeam.Library.MachineInteger

/-! Signed records of the security state: a value under a key, with a revision and the tag that
was made for them.
-/

namespace AsterTeam

structure SecurityStateRecord (Value : Type) where
  key : String
  value : Value
  revision : UInt64
  (mac updatedAt : String)
  deriving DecidableEq

end AsterTeam
