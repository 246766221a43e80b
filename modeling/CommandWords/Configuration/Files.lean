/-
This file takes the files of the platform as they are found by their paths, and reads the extension
of a path.
-/

namespace CommandWords.Configuration

/-- What a path leads to. A directory and a file that may not be read are unreadable. -/
inductive Entry where
  | file (content : String)
  | unreadable
deriving DecidableEq, Repr

/-- The files of the platform. A path that leads nowhere has no entry. -/
abbrev Files := String → Option Entry

/-- The last name of a path, without slashes behind it. -/
def baseName (path : String) : List Char :=
  ((path.toList.reverse.dropWhile (· = '/')).takeWhile (· ≠ '/')).reverse

/-- The last dot of a name and what stands behind it. A dot at the start of a name opens no
extension, and the name of the directory above has none. -/
def extension (path : String) : List Char :=
  let name := baseName path
  let tail := (name.reverse.takeWhile (· ≠ '.')).reverse
  if tail.length + 1 < name.length ∧ name ≠ ['.', '.'] then '.' :: tail else []

end CommandWords.Configuration
