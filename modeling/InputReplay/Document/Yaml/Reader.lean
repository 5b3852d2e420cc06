import InputReplay.Document.Yaml.Node

/-! Reading a YAML text as a value. A merge key brings in the entries of other mappings, behind those
that are there; of equal keys the last value counts; a collection is no key. The nodes are looked at
level by level: each collection only looks at the nodes in it, once its own merge keys are resolved
and the marks among its keys have become texts. What is wrong first in that order is told. -/

namespace InputReplay
namespace Yaml

abbrev Entries := List (Node × Node)

namespace Collections

variable (all : Collections)

def content (number : Nat) : Content :=
  match all[number]? with
  | some c => c.content
  | none => .text (.whole "")

def tag (number : Nat) : Tag :=
  match all[number]? with
  | some c => c.tag
  | none => .unknown

def tagOf : Node → Tag
  | .scalar tag _ => tag
  | .collection number => all.tag number

def entries? : Node → Option Entries
  | .scalar .. => none
  | .collection number =>
    match all.content number with
    | .entries pairs => some pairs
    | _ => none

def entriesOf (number : Nat) : Entries := (all.entries? (.collection number)).getD []

def retag (number : Nat) (tag : Tag) : Collections := all.modify number ({ · with tag })

def refill (number : Nat) (pairs : Entries) : Collections :=
  all.modify number ({ · with content := .entries pairs })

def isMerge (e : Node × Node) : Bool := all.tagOf e.1 == .merge

def mergeKeys : Nat :=
  (all.toList.flatMap fun c => match c.content with
    | .entries pairs => pairs.filter all.isMerge
    | _ => []).length

/-- The mappings that a merge key stands for: one, or those in a sequence. -/
def sources (node : Node) : Except Flaw (List Nat) :=
  let mappingAt (node : Node) : Except Flaw Nat :=
    match node, all.entries? node with
    | .collection number, some _ => .ok number
    | _, _ => .error .badValue
  match node with
  | .scalar .. => .error .badValue
  | .collection number =>
    match all.content number with
    | .items nodes => nodes.mapM mappingAt
    | _ => return [← mappingAt node]

/-- Lets a key be a text where it is the mark for the value of a mapping. -/
def asText (key : Node) : Collections :=
  match key with
  | .scalar .. => all
  | .collection number => if all.tag number = .default then all.retag number .text else all

/-! The text of nodes that are tagged as scalars -/

def textOf : Nat → Node → Except Flaw Wording
  | _, .scalar _ text => .ok text
  | 0, _ => .error .endless
  | fuel + 1, .collection number =>
    match all.content number with
    | .text w => .ok w
    | .items _ => .error .badValue
    | .entries pairs =>
      match pairs.find? fun e => all.tagOf e.1 == .default with
      | some e => textOf fuel e.2
      | none => .error .badValue

def scalarOf (number : Nat) : Except Flaw Value := do
  let tag := all.tag number
  if tag = .unknown ∨ tag = .merge ∨ tag = .default then throw .badValue
  let text ← textOf all (all.size + 1) (.collection number)
  if tag = .date ∧ (all.entries? (.collection number)).isSome then throw .mappedDate
  scalarValue tag text

end Collections

/-! Looking at the nodes -/

/-- What is known while nodes are looked at. -/
structure Survey where
  all : Collections
  /-- The collections whose nodes have to be looked at, in order. -/
  waiting : List Nat
  /-- Which collections are or were waiting. -/
  known : Array Bool
  /-- The values of the numbered nodes that are tagged as scalars. -/
  scalars : Array (Option Value)

abbrev Surveying := StateT Survey (Except Flaw)

namespace Survey

def start (all : Collections) : Survey :=
  ⟨all, [], Array.replicate all.size false, Array.replicate all.size none⟩

def modifyAll (f : Collections → Collections) : Surveying Unit :=
  modify fun s => { s with all := f s.all }

/-- Resolves the merge keys of a mapping: the entries that they bring in come first, those of a sequence
of mappings from the last to the first. A merge key is taken off before it is resolved, so that a
mapping may be merged with itself. There are fewer merge keys than `fuel`. -/
def flatten : Nat → Nat → Surveying Unit
  | 0, _ => throw .badValue
  | fuel + 1, number => do
    let all := (← get).all
    let pairs := all.entriesOf number
    match pairs.find? all.isMerge with
    | none => pairs.forM fun e => modifyAll (·.asText e.1)
    | some e => do
      modifyAll (·.refill number (pairs.eraseP all.isMerge))
      let sources ← (all.sources e.2 : Except Flaw (List Nat))
      let brought ← sources.mapM fun source => do
        flatten fuel source
        return (← get).all.entriesOf source
      flatten fuel number
      modifyAll fun all => all.refill number (brought.reverse.flatten ++ all.entriesOf number)

/-- Looks at a node; the answer is whether it can be a key. -/
def look (node : Node) : Surveying Bool := do
  match node with
  | .scalar tag text => do
    discard (scalarValue tag text : Except Flaw Value)
    return true
  | .collection number =>
    let s ← get
    if (s.all.tag number).isCollection then
      if !s.known.getD number false then
        set { s with waiting := s.waiting ++ [number], known := s.known.setIfInBounds number true }
      return false
    else
      if (s.scalars.getD number none).isNone then
        let v ← (s.all.scalarOf number : Except Flaw Value)
        set { s with scalars := s.scalars.setIfInBounds number (some v) }
      return true

def lookAtEntry (e : Node × Node) : Surveying Unit := do
  if !(← look e.1) then throw .badValue
  discard (look e.2)

/-- Looks at a mapping that stands for a pair. -/
def lookAtPair (node : Node) : Surveying Unit := do
  match (← get).all.entries? node with
  | some [(first, second)] => do
    discard (look first)
    discard (look second)
  | _ => throw .badValue

/-- Looks at the nodes in a collection, which must be as its tag says. -/
def lookInto (mergeKeys number : Nat) : Surveying Unit := do
  let all := (← get).all
  match all.tag number, all.content number with
  | .list, .items nodes => nodes.forM fun node => discard (look node)
  | .pairs, .items nodes => nodes.forM lookAtPair
  | .mapping, .entries _ | .set, .entries _ => do
    flatten (mergeKeys + 1) number
    ((← get).all.entriesOf number).forM lookAtEntry
  | _, _ => throw .badValue

def lookIntoAll (mergeKeys : Nat) : Nat → Surveying Unit
  | 0 => pure ()
  | fuel + 1 => do
    match (← get).waiting with
    | [] => pure ()
    | number :: rest => do
      modify fun s => { s with waiting := rest }
      lookInto mergeKeys number
      lookIntoAll mergeKeys fuel

/-- Looks at every node below a root, and finds what is wrong first. -/
def ofRoot (all : Collections) (root : Node) : Except Flaw Survey := do
  let ((), s) ← (do
    discard (look root)
    lookIntoAll all.mergeKeys (all.size + 1) : Surveying Unit).run (start all)
  return s

end Survey

/-! Values -/

abbrev Built := Array (Option Value)

abbrev Building := StateT Built (Except Flaw)

/-- Enters the entries of a mapping one after another, so that of equal keys the last value counts. -/
def enter (entries : List (Value × Value)) (e : Value × Value) : List (Value × Value) :=
  Value.setEntry e.1 e.2 entries

def emptyValue : Tag → Value
  | .mapping => .mapping []
  | .set => .set []
  | _ => .list []

namespace Survey

variable (s : Survey)

/-- The value of a node. Each collection is built once; within itself it is what `inside` says. -/
def build (inside : Nat → Value) : Nat → Node → Building Value
  | _, .scalar tag text => (scalarValue tag text : Except Flaw Value)
  | 0, .collection _ => throw .badValue
  | fuel + 1, .collection number => do
    match (← get).getD number none with
    | some v => return v
    | none => do
      let keep (v : Value) : Building Unit := modify fun built => built.setIfInBounds number (some v)
      keep (inside number)
      let pairs (entries : Entries) : Building (List (Value × Value)) :=
        entries.mapM fun e => return (← build inside fuel e.1, ← build inside fuel e.2)
      let v ← match s.all.tag number, s.all.content number with
        | .list, .items nodes => .list <$> nodes.mapM (build inside fuel)
        | .pairs, .items nodes => do
          let each ← pairs (nodes.flatMap fun node => (s.all.entries? node).getD [])
          pure (.list (each.map fun e => .list [e.1, e.2]))
        | .set, .entries entries => .set <$> (·.map (·.1)) <$> pairs entries
        | .mapping, .entries entries => .mapping <$> (·.foldl enter []) <$> pairs entries
        | _, _ => throw .badValue
      keep v
      return v

/-- The value of the whole. A collection that holds itself is empty there, but the whole is known one
level down. -/
def valueOf (root : Node) : Except Flaw Value := do
  let built (inside : Nat → Value) : Except Flaw Value :=
    (s.build inside (s.all.size + 2) root).run' s.scalars
  let void (number : Nat) : Value := emptyValue (s.all.tag number)
  let v ← built void
  match root with
  | .scalar .. => return v
  | .collection whole => built fun number => if number = whole then v else void number

end Survey

/-- The value of a text, which holds at most one document; of a text without any it is null. -/
def parse (text : List Char) : Except Flaw Value := do
  match ← Node.read text with
  | (none, _) => return .null
  | (some root, all) => do
    (← Survey.ofRoot all root).valueOf root

end Yaml
end InputReplay
