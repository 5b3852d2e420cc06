import InputReplay.Document.Yaml.Lexer
import InputReplay.Document.Yaml.Scalar

/-! Nodes of a YAML text, made of its tokens. Collections are numbered as they begin and nodes refer to
them by their numbers, so that an alias of a collection is the collection, even within itself. The
marks for the value of a mapping are numbered, too, since such a mark may become a text. -/

namespace InputReplay
namespace Yaml

inductive Node where
  | scalar (tag : Tag) (text : Wording)
  | collection (number : Nat)
deriving Inhabited

/-- What a numbered node holds. A scalar that is tagged as a collection is numbered like one, and so is
a mark for a value. -/
inductive Content where
  | text (w : Wording)
  | items (nodes : List Node)
  | entries (pairs : List (Node × Node))

structure Collection where
  tag : Tag
  content : Content

abbrev Collections := Array Collection

/-- What is known while the nodes of a document are read. -/
structure Composer where
  /-- What the handles of tags stand for. -/
  handles : List (String × String)
  anchors : List (String × Node)
  collections : Collections

abbrev Reading := StateT Composer Scan

namespace Reading

def unexpected {α : Type} : Reading α := throw .badForm

def next? : Reading (Option Token) := Scan.next?

def take : Reading Unit := Scan.take

def comes (tokens : List Token) : Reading Bool := do
  return (← next?).any tokens.contains

/-- Takes the next token, if it is this one. -/
def takes (t : Token) : Reading Bool := do
  if ← comes [t] then
    take
    return true
  else return false

/-! Properties -/

def properties : Reading (Option String × Option (Option String × String)) := do
  let anchor? : Reading (Option String) := do
    match ← next? with
    | some (.anchor name) => do
      take
      return some name
    | _ => return none
  let tag? : Reading (Option (Option String × String)) := do
    match ← next? with
    | some (.tag handle suffix) => do
      take
      return some (handle, suffix)
    | _ => return none
  match ← anchor? with
  | some name => return (some name, ← tag?)
  | none =>
    match ← tag? with
    | some tag => return (← anchor?, some tag)
    | none => return (none, none)

def fullTag (tag : Option String × String) : Reading String := do
  match tag with
  | (none, suffix) => return suffix
  | (some handle, suffix) =>
    match (← get).handles.lookup handle with
    | some meaning => return meaning ++ suffix
    | none => unexpected

/-- A tag that leaves open what a node is. -/
def openTag : String := "!"

/-- Gives a node a name, which must be new. -/
def declare (anchor : Option String) (node : Node) : Reading Unit := do
  match anchor with
  | none => pure ()
  | some name => modify fun c => { c with anchors := (name, node) :: c.anchors }

def checkAnchor (anchor : Option String) : Reading Unit := do
  let known := (← get).anchors
  if anchor.any fun name => (known.lookup name).isSome then throw .badReference

/-- Numbers a collection, which its anchor stands for from here on. -/
def begin (anchor : Option String) : Reading Nat := do
  checkAnchor anchor
  let number := (← get).collections.size
  modify fun c => { c with collections := c.collections.push ⟨.list, .items []⟩ }
  declare anchor (.collection number)
  return number

def finish (number : Nat) (tag : Tag) (content : Content) : Reading Node := do
  modify fun c => { c with collections := c.collections.setIfInBounds number ⟨tag, content⟩ }
  return .collection number

/-- A scalar, with the tag that its form or its own tag gives it. -/
def scalar (anchor tag : Option String) (isPlain : Bool) (text : Wording) : Reading Node := do
  let tag := match tag with
    | none => if isPlain then tagOfWord text.text else .text
    | some name => if name = openTag then tagOfWord text.text else Tag.ofName name
  if tag.isCollection ∨ tag = .default then finish (← begin anchor) tag (.text text)
  else
    checkAnchor anchor
    declare anchor (.scalar tag text)
    return .scalar tag text

def nothing : Node := .scalar .null (.whole "")

/-- Nothing, where one of the given tokens comes next. -/
def orNothing (ends : List Token) (read : Reading Node) : Reading Node := do
  if ← comes ends then return nothing else read

/-- What follows a mark for a value, or nothing without one. -/
def markedValue (ends : List Token) (read : Reading Node) : Reading Node := do
  if ← takes .value then orNothing ends read else return nothing

mutual

/-- The node that comes next. A block collection stands only in a block, and a sequence that is not
indented only in a mapping. -/
def node (inBlock inMapping : Bool) : Nat → Reading Node
  | 0 => unexpected
  | fuel + 1 => do
    match ← next? with
    | some (.alias name) => do
      take
      match (← get).anchors.lookup name with
      | some node => return node
      | none => throw .badReference
    | _ => do
      let (anchor, tag) ← properties
      let tag ← tag.mapM fullTag
      let tagOr (usual : Tag) : Tag := match tag with
        | some name => if name = openTag then usual else Tag.ofName name
        | none => usual
      let sequence (isOpened : Bool) (read : Reading (List Node)) : Reading Node := do
        let number ← begin anchor
        if isOpened then take
        finish number (tagOr .list) (.items (← read))
      let mapping (read : Reading (List (Node × Node))) : Reading Node := do
        let number ← begin anchor
        take
        finish number (tagOr .mapping) (.entries (← read))
      let token ← next?
      match token with
      | some (.scalar text isPlain) => do
        take
        scalar anchor tag isPlain text
      | _ =>
        if inMapping ∧ token = some .entry then sequence false (blockItems false fuel)
        else if token = some .openList then sequence true (flowItems true fuel)
        else if token = some .openMapping then mapping (flowEntries true fuel)
        else if inBlock ∧ token = some .sequenceStart then sequence true (blockItems true fuel)
        else if inBlock ∧ token = some .mappingStart then mapping (blockEntries fuel)
        else if anchor.isSome ∨ tag.isSome then
          scalar anchor tag (tag.all (· = openTag)) (.whole "")
        else unexpected

def blockItems (indented : Bool) : Nat → Reading (List Node)
  | 0 => unexpected
  | fuel + 1 => do
    if ← takes .entry then
      let ends := if indented then [.entry, .blockEnd] else [.entry, .key, .value, .blockEnd]
      let item ← orNothing ends (node true false fuel)
      return item :: (← blockItems indented fuel)
    else if ← pure !indented <||> takes .blockEnd then return []
    else unexpected

def blockEntries : Nat → Reading (List (Node × Node))
  | 0 => unexpected
  | fuel + 1 => do
    if ← takes .key then
      let ends := [.key, .value, .blockEnd]
      let key ← orNothing ends (node true true fuel)
      let value ← markedValue ends (node true true fuel)
      return (key, value) :: (← blockEntries fuel)
    else if ← takes .blockEnd then return []
    else unexpected

/-- Up to the end of a flow sequence. A comma may stand before the end, and a single entry of a mapping
in the place of an item. -/
def flowItems (isFirst : Bool) : Nat → Reading (List Node)
  | 0 => unexpected
  | fuel + 1 => do
    if ← takes .closeList then return []
    else if !(← pure isFirst <||> takes .comma) then unexpected
    else if ← takes .closeList then return []
    else if ← comes [.key] then
      let number ← begin none
      take
      let key ← orNothing [.value, .comma, .closeList] (node false false fuel)
      let value ← markedValue [.comma, .closeList] (node false false fuel)
      let item ← finish number .mapping (.entries [(key, value)])
      return item :: (← flowItems false fuel)
    else
      let item ← node false false fuel
      return item :: (← flowItems false fuel)

/-- Up to the end of a flow mapping. A key alone has nothing as its value. -/
def flowEntries (isFirst : Bool) : Nat → Reading (List (Node × Node))
  | 0 => unexpected
  | fuel + 1 => do
    if ← takes .closeMapping then return []
    else if !(← pure isFirst <||> takes .comma) then unexpected
    else if ← takes .closeMapping then return []
    else if ← takes .key then
      let key ← orNothing [.value, .comma, .closeMapping] (node false false fuel)
      let value ← markedValue [.comma, .closeMapping] (node false false fuel)
      return (key, value) :: (← flowEntries false fuel)
    else
      let key ← node false false fuel
      return (key, nothing) :: (← flowEntries false fuel)

end

/-! Documents -/

/-- What handles stand for that no directive speaks of. -/
def standardHandles : List (String × String) := [("!", "!"), ("!!", Tag.beginning)]

/-- Reads directives. There is one of the version at most, and one for each handle. -/
def directives (hasVersion : Bool) : Nat → Reading Unit
  | 0 => unexpected
  | fuel + 1 => do
    match ← next? with
    | some (.directive d) => do
      take
      match d with
      | .version major => do
        if hasVersion ∨ major ≠ 1 then unexpected
        directives true fuel
      | .handle handle meaning => do
        if ((← get).handles.lookup handle).isSome then unexpected
        modify fun c => { c with handles := (handle, meaning) :: c.handles }
        directives hasVersion fuel
      | .other => directives hasVersion fuel
    | _ => pure ()

/-- What stands before a document that is announced. -/
def announcement (fuel : Nat) : Reading Unit := do
  modify fun c => { c with handles := [] }
  directives false fuel
  modify fun c => { c with handles := c.handles ++ standardHandles }
  if !(← takes .documentStart) then unexpected

def isDirective : Option Token → Bool
  | some (.directive _) => true
  | _ => false

/-- The node of the first document, if there is one. -/
def document (fuel : Nat) : Reading (Option Node) := do
  let token ← next?
  if token = some .textEnd then return none
  else if isDirective token ∨ token = some .documentStart then
    announcement fuel
    let next ← next?
    if isDirective next ∨ (← comes [.documentStart, .documentEnd, .textEnd]) then return some nothing
    else some <$> node true false fuel
  else some <$> node true false fuel

def dropDocumentEnds : Nat → Reading Unit
  | 0 => pure ()
  | fuel + 1 => do
    if ← takes .documentEnd then dropDocumentEnds fuel

def noMore (fuel : Nat) : Reading Unit := do
  dropDocumentEnds fuel
  if !(← comes [.textEnd]) then
    announcement fuel
    throw .badReference

end Reading

/-- The node of a text, if there is one, and the collections in it. The text holds at most one
document. -/
def Node.read (text : List Char) : Except Flaw (Option Node × Collections) := do
  let fuel := 8 * text.length + 8
  let program : Reading (Option Node) := do
    let root ← Reading.document fuel
    Reading.noMore fuel
    return root
  let ((root, c), _) ← (program.run ⟨Reading.standardHandles, [], #[]⟩).run (← Scanner.start text)
  return (root, c.collections)

end Yaml
end InputReplay
