import Mathlib.Init

/-!
# Results and errors

An expected failure is a value: a stable reason code and a message.
-/

namespace Ssim.Core

structure Error where
  code : Nat
  message : String
  deriving Repr, DecidableEq

abbrev Result (α : Type) := Except Error α

end Ssim.Core
