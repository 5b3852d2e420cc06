import InputReplay.Play.Fault

/-! Results of commands. A batch has one result for each of its commands and is good when all of them
are. -/

namespace InputReplay

inductive Result where
  | succeeded (command : String)
  | failed (command : String) (failure : Failure)
  | batch (command : String) (children : List Result)

namespace Result

def command : Result → String
  | succeeded command => command
  | failed command _ => command
  | batch command _ => command

def failure? : Result → Option Failure
  | failed _ failure => some failure
  | _ => none

def children : Result → List Result
  | batch _ children => children
  | _ => []

mutual

def isOk : Result → Bool
  | succeeded _ => true
  | failed .. => false
  | batch _ children => areOk children

def areOk : List Result → Bool
  | [] => true
  | r :: rest => r.isOk && areOk rest

end

mutual

/-- The failed leaves of a result, in order: each command and what went wrong with it. -/
def failures : Result → List (String × Failure)
  | succeeded _ => []
  | failed command failure => [(command, failure)]
  | batch _ children => failuresOf children

def failuresOf : List Result → List (String × Failure)
  | [] => []
  | r :: rest => r.failures ++ failuresOf rest

end

def describe (r : Result) : String :=
  if r.isOk then s!"{r.command}: ok"
  else match r with
    | failed command failure => s!"{command}: {failure.message}"
    | _ =>
      let failed := r.failures
      s!"{r.command}: {failed.length} of {r.children.length} sub-commands failed (" ++
        "; ".intercalate (failed.map fun f => f.2.message) ++ ")"

end Result

end InputReplay
