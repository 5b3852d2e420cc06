/-! Programs that act only by asking. A program is a tree: it has finished, with a result or a fault,
or it makes a request and goes on as the reply, or the fault that came instead of one, tells. A host
answers requests and keeps a state of its own. -/

namespace InputReplay

/-- The requests that a kind of program can make, and what a reply to each holds. -/
structure Signature where
  Request : Type
  Reply : Request → Type

inductive Program (S : Signature) (ε α : Type) where
  | finish (result : Except ε α)
  | ask (request : S.Request) (next : Except ε (S.Reply request) → Program S ε α)

/-- What answers requests. A fault may come instead of a reply. -/
abbrev Host (S : Signature) (ε σ : Type) :=
  (request : S.Request) → σ → Except ε (S.Reply request) × σ

namespace Program

variable {S T : Signature} {ε α β σ : Type}

def throw (fault : ε) : Program S ε α := finish (.error fault)

def ofExcept (result : Except ε α) : Program S ε α := finish result

/-- Makes one request; a fault that comes instead of the reply ends the program. -/
def request (r : S.Request) : Program S ε (S.Reply r) := ask r finish

/-- Goes on with the outcome of a program, be it a result or a fault. -/
def next (f : Except ε α → Program S ε β) : Program S ε α → Program S ε β
  | finish result => f result
  | ask r k => ask r fun reply => next f (k reply)

def onResult (f : α → Program S ε β) : Except ε α → Program S ε β
  | .ok a => f a
  | .error fault => throw fault

def bind (p : Program S ε α) (f : α → Program S ε β) : Program S ε β := p.next (onResult f)

instance : Monad (Program S ε) where
  pure a := finish (.ok a)
  bind := bind

/-- The outcome of a program as its result; no fault leaves. -/
def attempt (p : Program S ε α) : Program S ε (Except ε α) := p.next fun result => finish (.ok result)

/-- Does the last thing whether or not a fault leaves the program. -/
def afterwards (p : Program S ε α) (last : Program S ε Unit) : Program S ε α :=
  p.next fun result => last.bind fun _ => finish result

/-- Makes the requests of one kind by programs of another. -/
def interpret (f : (r : S.Request) → Program T ε (S.Reply r)) : Program S ε α → Program T ε α
  | finish result => finish result
  | ask r k => (f r).next fun reply => interpret f (k reply)

def run (host : Host S ε σ) : Program S ε α → σ → Except ε α × σ
  | finish result, s => (result, s)
  | ask r k, s => run host (k (host r s).1) (host r s).2

/-- Runs a program where each request is answered by an action. -/
def runWith {m : Type → Type} [Monad m] (answer : (r : S.Request) → m (Except ε (S.Reply r))) :
    Program S ε α → m (Except ε α)
  | finish result => pure result
  | ask r k => do runWith answer (k (← answer r))

end Program

end InputReplay
