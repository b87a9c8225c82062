import SuiteTrigger.Command.EventFile

namespace SuiteTrigger.Command

/-- A directory, by the paths of its files and their contents. -/
abbrev Directory := List (String × List UInt8)

namespace Directory

/-- The directories on the way to a place and its name. -/
abbrev Place := List (List Char)

/-- The place of a file, by its path. -/
def placeOf (path : String) : Place := segments path.toList

/-- Whether a place is a directory: the first one, or one with files in it. -/
def isDirectory (d : Directory) (place : Place) : Bool :=
  place.isEmpty || d.any fun file =>
    place.length < (placeOf file.1).length && (placeOf file.1).take place.length = place

/-- The place that segments lead to; none outside the directory, which is not known. -/
def follow (d : Directory) (place : Place) : List (List Char) → Option Place
  | [] => some place
  | s :: rest =>
    if !d.isDirectory place then none
    else if s = ['.', '.'] then if place.isEmpty then none else d.follow place.dropLast rest
    else d.follow (place ++ [s]) rest

/-- The content of the file that a path leads to. -/
def file? (d : Directory) (path : String) : Option (List UInt8) := do
  if !(rootOf path.toList).isEmpty then none
  else
    let place ← d.follow [] (segments path.toList)
    (d.find? fun file => placeOf file.1 = place).map (·.2)

end Directory

end SuiteTrigger.Command
