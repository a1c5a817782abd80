import SlabBook.Address
import SlabBook.Bytes

/-!
# Accounts

The bytes found at an address, with the owner of the account and the slot at which they were
current where these are known.
-/

namespace SlabBook

structure Account where
  address : Address
  data : Bytes
  owner : Option Address := none
  slot : Option Int := none
  deriving DecidableEq, Repr

end SlabBook
