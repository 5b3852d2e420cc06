import InputReplay.Play.Fault
import InputReplay.Text.Path
import InputReplay.Text.Utf8

/-! Files in memory. A path leads from directory to directory; every part of it but the last must be
one that is there. A program starts in its home, and beside that there are the directories that every
host has. -/

namespace InputReplay

/-- The names from the root on. -/
abbrev Place := List String

/-- Where a path does not lead. -/
inductive PathFault where
  | absent
  | notDirectory
  | directory
  | present
  | tooLong
  | embeddedNull
deriving DecidableEq

def PathFault.toFault (path : String) : PathFault → Fault
  | absent => .host "FileNotFoundError" s!"[Errno 2] No such file or directory: {quoted path}"
  | notDirectory => .host "NotADirectoryError" s!"[Errno 20] Not a directory: {quoted path}"
  | directory => .directory path
  | present => .host "FileExistsError" s!"[Errno 17] File exists: {quoted path}"
  | tooLong => .host "OSError" s!"[Errno 36] File name too long: {quoted path}"
  | embeddedNull => .host "ValueError" "embedded null byte"

structure Files where
  directories : List Place
  contents : List (Place × String)

namespace Files

inductive Kind where
  | directory
  | file (text : String)

/-- The last name of the home is one that no path has. -/
def home : Place := ["tmp", ""]

/-- What every host has. -/
def standing : List Place :=
  [] :: home :: ["bin", "dev", "etc", "home", "lib", "media", "mnt", "opt", "proc", "root", "run", "sbin",
    "srv", "sys", "tmp", "usr", "var"].map fun name => [name]

def isDirectory (f : Files) (p : Place) : Bool :=
  f.directories.contains p || f.contents.any fun e => decide (p.length < e.1.length) && p.isPrefixOf e.1

def kind? (f : Files) (p : Place) : Option Kind :=
  match f.contents.lookup p with
  | some text => some (.file text)
  | none => if f.isDirectory p then some .directory else none

def namesOf (path : String) : List String := (Path.parts path).map String.ofList

def ofList (files : List (String × String)) : Files where
  directories := standing
  contents := (["dev", "null"], "") :: files.map fun e => (home ++ namesOf e.1, e.2)

/-- The files in the home, by their paths in it. -/
def atHome (f : Files) : List (String × String) :=
  f.contents.filterMap fun e =>
    if home.isPrefixOf e.1 then some ("/".intercalate (e.1.drop home.length), e.2) else none

/-! Paths -/

def nameLimit : Nat := 255

def pathLimit : Nat := 4095

def step (f : Files) (place : Place) (name : String) : Except PathFault Place :=
  match f.kind? place with
  | none => .error .absent
  | some (.file _) => .error .notDirectory
  | some .directory =>
    if nameLimit < name.utf8ByteSize then .error .tooLong
    else if name = "." then .ok place
    else if name = ".." then .ok place.dropLast
    else .ok (place ++ [name])

/-- Where a path leads, which need not be there. -/
def find (f : Files) (path : String) : Except PathFault Place :=
  let steps := (fields '/' path.toList).map String.ofList
  if path.toList.contains '\x00' then .error .embeddedNull
  else if path = "" then .error .absent
  else if pathLimit < path.utf8ByteSize then .error .tooLong
  else
    let steps := if path.toList.getLast? = some '/' then steps ++ ["."] else steps
    (steps.filter (· ≠ "")).foldlM f.step (if path.toList.head? = some '/' then [] else home)

def look (f : Files) (path : String) : Except PathFault Kind := do
  match f.kind? (← f.find path) with
  | some kind => return kind
  | none => throw .absent

/-- Whether something is there; only a path that is none is at fault. -/
def has (f : Files) (path : String) : Except PathFault Bool :=
  match f.look path with
  | .ok _ => .ok true
  | .error .embeddedNull => .error .embeddedNull
  | .error _ => .ok false

def read (f : Files) (path : String) : Except PathFault String := do
  match ← f.look path with
  | .file text => return text
  | .directory => throw .directory

/-! Writing -/

def makeDirectory (f : Files) (path : String) : Except PathFault Files := do
  let p ← f.find path
  if (f.kind? p).isSome then throw .present
  return { f with directories := p :: f.directories }

/-- What was made is as good as what is there already, if it is a directory. -/
def orPresent (f : Files) (path : String) (made : Except PathFault Files) : Except PathFault Files :=
  match made with
  | .ok f => .ok f
  | .error fault =>
    match f.look path with
    | .ok .directory => .ok f
    | _ => .error fault

/-- Makes a directory, and at most so many above it that are missing. -/
def makeDirectories : Nat → String → Files → Except PathFault Files
  | 0, path, f => f.orPresent path (f.makeDirectory path)
  | above + 1, path, f =>
    match f.makeDirectory path with
    | .error .absent => do
      let f ← makeDirectories above (Path.parent path) f
      f.orPresent path (f.makeDirectory path)
    | made => f.orPresent path made

def put (f : Files) (p : Place) (text : String) : Files :=
  { f with contents := f.contents.filter (·.1 ≠ p) ++ [(p, text)] }

/-- Writes a file; what was in it before is gone. -/
def writeFile (f : Files) (path text : String) : Except PathFault Files := do
  let p ← f.find path
  match f.kind? p with
  | some .directory => throw .directory
  | _ => return if p = ["dev", "null"] then f else f.put p text

/-- Writes a file with the directories that lead to it. Those that were made stay, whatever follows. -/
def write (f : Files) (path text : String) : Except PathFault Unit × Files :=
  match f.makeDirectories (Path.parts path).length (Path.parent path) with
  | .error fault => (.error fault, f)
  | .ok f =>
    match f.writeFile path text with
    | .ok f => (.ok (), f)
    | .error fault => (.error fault, f)

end Files
end InputReplay
