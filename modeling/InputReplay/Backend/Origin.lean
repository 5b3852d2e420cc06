import InputReplay.Backend.Url

/-! Where a request goes to and where its reply comes from. The place a request goes to is named in it,
so its name has to be readable and ASCII; a reply is kept only from an address of some kind. -/

namespace InputReplay

inductive OriginFault where
  | name (fault : DomainFault)
  | beyondAscii (fault : BeyondAscii)
  | noKind (address : List Char)
  | brackets
  | futureAddress
  | shortInBrackets
  | noAddress (text : List Char)
deriving DecidableEq

namespace OriginFault

def message : OriginFault → String
  | name fault => fault.message
  | beyondAscii fault => fault.message
  | noKind address => s!"unknown url type: {quoted (String.ofList address)}"
  | brackets => "Invalid IPv6 URL"
  | futureAddress => "IPvFuture address is invalid"
  | shortInBrackets => "An IPv4 address cannot be in brackets"
  | noAddress text => s!"{quoted (String.ofList text)} does not appear to be an IPv4 or IPv6 address"

def kind : OriginFault → String
  | name fault => fault.kind
  | beyondAscii _ => "UnicodeEncodeError"
  | _ => "ValueError"

end OriginFault

namespace Url

/-- Checks the name of the place a request goes to. -/
def checkPlace (u : Url) : Except OriginFault Unit := do
  if Label.codeMark.isPrefixOf u.host then (DomainName.checkPlain u.host).mapError .name
  if u.host ≠ [] then
    match beyondAscii? u.place with
    | some fault => throw (.beyondAscii fault)
    | none => pure ()

/-- Whether a text is a version and an address of that version. -/
def isFutureAddress (text : List Char) : Bool :=
  match splitFirst? '.' (text.drop 1) with
  | some (version, address) => version ≠ [] && version.all isHexDigit && address ≠ []
  | none => false

/-- The text that brackets in an authority have to stand around: the host behind the last `@`, where
nothing may stand before the first bracket and only a colon next to the one that closes it. A bracket
before the `@` asks as much of a host without brackets. -/
def bracketed (authority : List Char) : Except OriginFault (List Char) :=
  let (_, place) := takeUser authority
  match splitFirst? '[' place with
  | none => .ok (place.takeWhile (· ≠ ':'))
  | some (before, rest) =>
    let inside := rest.takeWhile (· ≠ ']')
    let behind := rest.drop (inside.length + 1)
    if before ≠ [] ∨ (behind ≠ [] ∧ behind.head? ≠ some ':') then .error .brackets
    else .ok inside

def checkBrackets (authority : List Char) : Except OriginFault Unit := do
  if ('[' ∈ authority) ≠ (']' ∈ authority) then throw .brackets
  if '[' ∈ authority then
    let address ← bracketed authority
    if address.head? = some 'v' then
      unless isFutureAddress address do throw .futureAddress
    else if Address.isShort address then throw .shortInBrackets
    else unless Address.isLong address do throw (.noAddress address)

def checkOrigin (u : Url) : Except OriginFault Unit := do
  let text := if "URL:".toList.isPrefixOf u.text then u.text.drop 4 else u.text
  let (address, fragment) := match (fields '#' text).reverse with
    | fragment :: more@(_ :: _) => (joinFields '#' more.reverse, fragment)
    | _ => (text, [])
  let shown := if fragment = [] then address else address ++ '#' :: fragment
  match splitFirst? ':' address with
  | some (kind, _) => if kind = [] ∨ '/' ∈ kind then throw (.noKind shown)
  | none => throw (.noKind shown)
  checkBrackets (takeAuthority (takeScheme shown).2).1

end Url

end InputReplay
