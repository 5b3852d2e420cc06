/-! Cutting a text at a separator: at its first occurrence, or at every one. -/

namespace InputReplay

/-- What stands before and after the first separator. -/
def splitFirst? (sep : Char) : List Char → Option (List Char × List Char)
  | [] => none
  | c :: rest =>
    if c = sep then some ([], rest)
    else (splitFirst? sep rest).map fun (before, after) => (c :: before, after)

/-- What stands between the separators of a text; one field more than there are separators. -/
def fields (sep : Char) : List Char → List (List Char)
  | [] => [[]]
  | c :: rest =>
    if c = sep then [] :: fields sep rest
    else match fields sep rest with
      | [] => [[c]]
      | field :: more => (c :: field) :: more

/-- Fields with a separator between any two. -/
def joinFields (sep : Char) : List (List Char) → List Char
  | [] => []
  | [field] => field
  | field :: more => field ++ sep :: joinFields sep more

end InputReplay
