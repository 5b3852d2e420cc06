import InputReplay.Text.Fields

/-! Paths of files: their plain form and the suffix of a file's name. -/

namespace InputReplay
namespace Path

/-- The parts of a path that lead anywhere. -/
def parts (path : String) : List (List Char) :=
  (fields '/' path.toList).filter fun part => part ≠ [] ∧ part ≠ ['.']

/-- How a path begins that does not start here. Exactly two slashes are kept. -/
def root (path : String) : String :=
  match path.toList.takeWhile (· = '/') with
  | [] => ""
  | ['/', '/'] => "//"
  | _ => "/"

/-- A path without the parts that lead nowhere. -/
def plain (path : String) : String :=
  let text := root path ++ String.ofList (joinFields '/' (parts path))
  if text = "" then "." else text

def parent (path : String) : String :=
  let text := root path ++ String.ofList (joinFields '/' (parts path).dropLast)
  if text = "" then "." else text

/-- The end of a file's name from its last point on. A point at either end of the name begins none. -/
def suffix (path : String) : String :=
  let name := (parts path).getLastD []
  let after := (name.reverse.takeWhile (· ≠ '.')).reverse
  if after = [] ∨ name.length ≤ after.length + 1 then "" else String.ofList ('.' :: after)

end Path
end InputReplay
