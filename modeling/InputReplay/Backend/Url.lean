import InputReplay.Domain.Address
import InputReplay.Domain.Name
import InputReplay.Number.Word
import InputReplay.Text.Utf8

/-! Addresses of a backend. Written in lower case where case does not count, without the number after
the host that the scheme stands for anyway, without steps that lead back, and with every character
escaped that may not stand where it does; what is escaped already stays as it is. -/

namespace InputReplay

structure Url where
  scheme : List Char
  user : List Char
  /-- An address of groups stands here without its brackets. -/
  host : List Char
  portNumber : Option Int
  path : List Char
  query : Option (List Char)
  fragment : Option (List Char)

/-- What an address falls into before it is read any closer. -/
structure UrlParts where
  scheme : List Char
  authority : List Char
  path : List Char
  query : Option (List Char)
  fragment : Option (List Char)

/-- A text that is no address. -/
inductive UrlFault where
  | tooLong
  | partTooLong (part : String)
  | control (c : Char) (place : Nat)
  | badShort (host : List Char)
  | badLong (host : List Char)
  | badName (host : List Char)
  | badPort (text : List Char)
  /-- A path behind no host that starts like a host or a number after one. -/
  | badStart (start : String)
deriving DecidableEq

def UrlFault.message : UrlFault → String
  | tooLong => "URL too long"
  | partTooLong part => s!"URL component {quoted part} too long"
  | control c place =>
    s!"Invalid non-printable ASCII character in URL, {quoted c.toString} at position {place}."
  | badShort host => s!"Invalid IPv4 address: {quoted (String.ofList host)}"
  | badLong host => s!"Invalid IPv6 address: {quoted (String.ofList host)}"
  | badName host => s!"Invalid IDNA hostname: {quoted (String.ofList host)}"
  | badPort text => s!"Invalid port: {quoted (String.ofList text)}"
  | badStart start => s!"Relative URLs cannot have a path starting with {quoted start}"

namespace Url

/-- The greatest length of an address and of each of its parts. -/
def longest : Nat := 65536

/-- A visible ASCII character that is none of the given ones. -/
def visibleBut (excluded : String) (c : Char) : Bool :=
  decide (0x20 < c.toNat) && decide (c.toNat < 0x7f) && !excluded.toList.contains c

def pathSafe : Char → Bool := visibleBut "\"#<>?\x60\x7b\x7d"

def querySafe : Char → Bool := visibleBut "\"#<>"

def fragmentSafe : Char → Bool := visibleBut "\"<>\x60"

def userSafe : Char → Bool := visibleBut "\"#<>?\x60\x7b\x7d/;=@[\\]^|"

def hostSafe : Char → Bool := visibleBut "#/:<>?@[]^"

def escapes (c : Char) : List Char :=
  (Utf8.encode c.toString).flatMap fun b => '%' :: (hexText 2 b.toNat).map Char.toUpper

/-- Escapes every character that is not safe; an escape stays as it is. -/
def escape (safe : Char → Bool) : List Char → List Char
  | [] => []
  | '%' :: a :: b :: rest =>
    if isHexDigit a ∧ isHexDigit b then '%' :: a :: b :: escape safe rest
    else (if safe '%' then ['%'] else escapes '%') ++ escape safe (a :: b :: rest)
  | c :: rest => (if safe c then [c] else escapes c) ++ escape safe rest

/-- Leaves out steps to the same place and takes back the step before a step back. -/
def walk (done : List (List Char)) : List (List Char) → List (List Char)
  | [] => done.reverse
  | ['.'] :: rest => walk done rest
  | ['.', '.'] :: rest =>
    walk (if done = [] ∨ done = [[]] then done else done.tail) rest
  | step :: rest => walk (step :: done) rest

def normalPath (path : List Char) : List Char := joinFields '/' (walk [] (fields '/' path))

/-- Cuts a text at the first character that satisfies `p`, which starts the second part. -/
def cut (p : Char → Bool) (text : List Char) : List Char × List Char :=
  (text.takeWhile (!p ·), text.dropWhile (!p ·))

def isSchemeChar (c : Char) : Bool := c.isAlphanum || c == '+' || c == '.' || c == '-'

/-- Takes a scheme off. A colon with nothing before it is taken off, too. -/
def takeScheme (text : List Char) : List Char × List Char :=
  match splitFirst? ':' text with
  | some (scheme, rest) =>
    if (scheme.take 1).all Char.isAlpha ∧ scheme.all isSchemeChar then (scheme, rest) else ([], text)
  | none => ([], text)

def takeAuthority : List Char → List Char × List Char
  | '/' :: '/' :: rest => cut (fun c => c == '/' || c == '?' || c == '#') rest
  | text => ([], text)

def after? (mark : Char) (text : List Char) : Option (List Char) :=
  if text.head? = some mark then some (text.drop 1) else none

def split (text : List Char) : UrlParts :=
  let (scheme, rest) := takeScheme text
  let (authority, rest) := takeAuthority rest
  let (path, rest) := cut (fun c => c == '?' || c == '#') rest
  let (query, rest) := cut (· == '#') rest
  ⟨scheme, authority, path, after? '?' query, after? '#' rest⟩

/-- Takes what stands before the last `@` off. -/
def takeUser (authority : List Char) : List Char × List Char :=
  match (fields '@' authority).reverse with
  | host :: user :: more => (joinFields '@' (user :: more).reverse, host)
  | _ => ([], authority)

/-- The host, which ends at a colon or with the last bracket, and the text after its colon. -/
def hostAndPort (text : List Char) : List Char × List Char :=
  let (host, rest) :=
    if text.head? = some '[' ∧ ']' ∈ text then
      let rest := (text.reverse.takeWhile (· ≠ ']')).reverse
      (text.take (text.length - rest.length), rest)
    else cut (· == ':') text
  (host, if rest.head? = some ':' then rest.drop 1 else rest)

/-- A host: a numeric address, or a name, which is written in ASCII. -/
def hostOf (host : List Char) : Except UrlFault (List Char) :=
  if host = [] then .ok []
  else if Address.looksShort host then
    if Address.isShort host then .ok host else .error (.badShort host)
  else if host.head? = some '[' ∧ host.getLast? = some ']' then
    let inside := (host.drop 1).dropLast
    if Address.isLong inside then .ok inside else .error (.badLong host)
  else if isAscii host then .ok (escape hostSafe (host.map Char.toLower))
  else (DomainName.encode (lowerCase (String.ofList host)).toList).mapError fun _ => .badName host

def schemePort? (scheme : List Char) : Option Int :=
  [("ftp", 21), ("http", 80), ("https", 443), ("ws", 80), ("wss", 443)].lookup (String.ofList scheme)

/-- The number after the host, unless the scheme stands for it. -/
def portOf (scheme text : List Char) : Except UrlFault (Option Int) :=
  if text = [] then .ok none
  else match NumberWord.integer .ten text with
    | .ok n => .ok (if schemePort? scheme = some n then none else some n)
    | .error _ => .error (.badPort text)

/-- Reads the parts of an address. One without a scheme and a host is relative: steps back may lead
out of it. -/
def ofParts (p : UrlParts) : Except UrlFault Url := do
  let (user, host) := takeUser p.authority
  let (host, portText) := hostAndPort host
  let host ← hostOf host
  let portNumber ← portOf p.scheme portText
  let isRelative := p.scheme = [] ∧ user = [] ∧ host = [] ∧ portNumber = none
  if isRelative then
    for start in ["//", ":"] do
      if start.toList.isPrefixOf p.path then throw (.badStart start)
  return {
    scheme := p.scheme.map Char.toLower
    user := escape userSafe user
    host, portNumber
    path := escape pathSafe (if isRelative then p.path else normalPath p.path)
    query := p.query.map (escape querySafe)
    fragment := p.fragment.map (escape fragmentSafe) }

def isControl (c : Char) : Bool := decide (c.toNat < 0x20) || c.toNat == 0x7f

def read (text : List Char) : Except UrlFault Url :=
  if longest < text.length then .error .tooLong
  else match text.findIdx? isControl with
    | some i => .error (.control (text.getD i ' ') i)
    | none => ofParts (split text)

/-- The host and the number after it. -/
def place (u : Url) : List Char :=
  (if ':' ∈ u.host then '[' :: u.host ++ [']'] else u.host) ++
    match u.portNumber with
    | some n => ':' :: (toString n).toList
    | none => []

def authority (u : Url) : List Char :=
  (if u.user = [] then [] else u.user ++ ['@']) ++ u.place

/-- The path, which is never empty, and the query. -/
def target (u : Url) : List Char :=
  (if u.path = [] then ['/'] else u.path) ++
    match u.query with
    | some query => '?' :: query
    | none => []

/-- The address with another path and query, read anew. -/
def withTarget (u : Url) (target : List Char) : Except UrlFault Url := do
  let (path, query) := cut (· == '?') target
  let p : UrlParts := ⟨u.scheme, u.authority, path, after? '?' query, u.fragment⟩
  for (name, part) in [("scheme", p.scheme), ("authority", p.authority), ("path", p.path),
      ("query", p.query.getD []), ("fragment", p.fragment.getD [])] do
    if longest < part.length then throw (.partTooLong name)
  ofParts p

/-- An address that others are put behind: its path ends with a slash. -/
def asBase (u : Url) : Except UrlFault Url :=
  if u.target.getLast? = some '/' then .ok u else u.withTarget (u.target ++ ['/'])

/-- An address without a host, put behind another. -/
def join (base relative : Url) : Except UrlFault Url :=
  base.withTarget (base.target ++ relative.target.dropWhile (· = '/'))

def text (u : Url) : List Char :=
  (if u.scheme = [] then [] else u.scheme ++ [':']) ++
    (if u.authority = [] then [] else ['/', '/'] ++ u.authority) ++ u.path ++
    (match u.query with
      | some query => '?' :: query
      | none => []) ++
    (match u.fragment with
      | some fragment => '#' :: fragment
      | none => [])

end Url

end InputReplay
