/-!
# Paths

Names joined by slashes.  An absolute path starts with a slash; the parts of a path that are empty
or a single dot lead nowhere.
-/

namespace ProtoSchema.Program

/-- The path of something inside a directory; an absolute path is not inside of any. -/
def joinPath (directory path : String) : String :=
  match path.toList.head?, directory.toList.getLast? with
  | some '/', _ | _, none => path
  | _, some '/' => directory ++ path
  | _, _ => directory ++ "/" ++ path

/-- A path written backwards without what leads nowhere at its end.  The slash of the root stays,
and so does a dot that is the whole path. -/
def trimEnd : List Char → List Char
  | ['/'] | ['.', '/'] => ['/']
  | '/' :: cs => trimEnd cs
  | '.' :: '/' :: cs => trimEnd cs
  | cs => cs

/-- The path of the directory that holds something: all before the last name. -/
def parentPath (path : String) : String :=
  String.ofList (trimEnd (path.toList.reverse.dropWhile (· != '/'))).reverse

/-- The parts of a path; an absolute path has the slash of the root as its first part. -/
def pathParts (path : String) : List String :=
  match (path.toList.splitOn '/').map String.ofList with
  | [""] => []
  | "" :: parts => "/" :: parts
  | parts => parts

end ProtoSchema.Program
