import Mathlib.Data.List.Basic

/-! Values at addresses, written a stretch at a time. -/

set_option autoImplicit false

namespace Luma.Library.ByteMemory

variable {α : Type}

def load (memory : Nat → α) (address length : Nat) : List α := (List.range length).map fun offset => memory (address + offset)

end Luma.Library.ByteMemory
