import InputReplay.Play.Result

/-! Summaries of sessions: how many commands were played and failed, how the session ended, and the
last results. -/

namespace InputReplay

structure Summary where
  executed : Nat
  failed : Nat
  /-- Whether the end sentinel was met. -/
  ended : Bool
  /-- Whether the session was seen to be stopped. -/
  stopped : Bool
  /-- The last results, the oldest first. -/
  results : List Result

namespace Summary

def empty : Summary := ⟨0, 0, false, false, []⟩

/-- The last `n` of a list. -/
def lastOf {α : Type} (n : Nat) (items : List α) : List α := items.drop (items.length - n)

/-- Counts a result and keeps it among the last `keep`. -/
def add (keep : Nat) (s : Summary) (r : Result) : Summary :=
  { s with
    executed := s.executed + 1
    failed := if r.isOk then s.failed else s.failed + 1
    results := lastOf keep (s.results ++ [r]) }

end Summary

end InputReplay
