/-! A lock that may be taken again by the thread that holds it. It is free once it has been left as
often as it was taken. -/

namespace InputReplay

inductive Lock (ι : Type) where
  | free
  /-- Held by a thread, which has taken it so many times again. -/
  | held (owner : ι) (again : Nat)
deriving DecidableEq

namespace Lock

variable {ι : Type} [DecidableEq ι]

/-- Takes the lock for a thread unless another holds it, and tells whether it was taken. -/
def enter (thread : ι) : Lock ι → Bool × Lock ι
  | free => (true, held thread 0)
  | held owner again =>
    if owner = thread then (true, held owner (again + 1)) else (false, held owner again)

def leave : Lock ι → Lock ι
  | held owner (again + 1) => held owner again
  | _ => free

def holds (thread : ι) : Lock ι → Nat
  | free => 0
  | held owner again => if owner = thread then again + 1 else 0

end Lock

end InputReplay
