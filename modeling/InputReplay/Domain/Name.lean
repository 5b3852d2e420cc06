import InputReplay.Domain.Label
import InputReplay.Text.Fields

/-! Domain names: labels between dots, the last of which may stand behind the last label. -/

namespace InputReplay

inductive DomainFault where
  | label (fault : LabelFault)
  | empty
  | tooLong
deriving DecidableEq

namespace DomainFault

def message : DomainFault → String
  | label fault => fault.message
  | empty => "Empty domain"
  | tooLong => "Domain too long"

def kind : DomainFault → String
  | label fault => fault.kind
  | empty | tooLong => "IDNAError"

end DomainFault

namespace DomainName

/-- The dots that part labels: the ASCII one and three of the ideographic scripts. -/
def plainDot (c : Char) : Char := if c = '。' ∨ c = '．' ∨ c = '｡' then '.' else c

/-- The labels of a name, and whether a dot ends it. -/
def labels (name : List Char) : Except DomainFault (List (List Char) × Bool) :=
  if 254 < name.length then .error .tooLong
  else match (fields '.' (name.map plainDot)).reverse with
    | [] :: [] => .error .empty
    | [] :: more => .ok (more.reverse, true)
    | reversed => .ok (reversed.reverse, false)

def encode (name : List Char) : Except DomainFault (List Char) := do
  let (labels, endsInDot) ← labels name
  let forms ← labels.mapM fun l => (Label.encode l).mapError .label
  let form := joinFields '.' (forms ++ if endsInDot then [[]] else [])
  if (if endsInDot then 254 else 253) < form.length then throw .tooLong
  return form

def checkPlain (name : List Char) : Except DomainFault Unit := do
  let (labels, _) ← labels name
  labels.forM fun l => (Label.checkPlain l).mapError .label

end DomainName

end InputReplay
