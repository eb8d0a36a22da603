/-!
# Numbers

The powers and the zero of numbers are the core library's in every module, also in those that see
other instances for them.
-/

namespace MariaClient

attribute [instance (high), default_instance (high + 1)] instPowNat

instance (priority := high) zeroNat : Zero Nat := Zero.ofOfNat0

end MariaClient
