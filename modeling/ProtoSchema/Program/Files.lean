import ProtoSchema.Program.Path

/-!
# Files

What the program asks of a file system, the ways in which that fails, and a file system that is a
value: files and directories by the names on the way to them.
-/

namespace ProtoSchema.Program

/-! ## Access -/

inductive FileFault
  | notFound
  | alreadyExists
  | notDirectory
  | isDirectory
  | nameTooLong
  | nulInPath
  | other (text : String)
deriving DecidableEq, Repr, Inhabited

def FileFault.message : FileFault → String
  | notFound => "No such file or directory (os error 2)"
  | alreadyExists => "File exists (os error 17)"
  | notDirectory => "Not a directory (os error 20)"
  | isDirectory => "Is a directory (os error 21)"
  | nameTooLong => "File name too long (os error 36)"
  | nulInPath => "file name contained an unexpected NUL byte"
  | other text => text

/-- Access to files by path: reading one, making a directory unless it is there, writing one. -/
structure FileAccess (m : Type → Type) where
  read : String → m (Except FileFault String)
  makeDirectory : String → m (Except FileFault Unit)
  write : String → String → m (Except FileFault Unit)

/-- Makes a directory with those above it, as far as they are not there.  Those above are made only
if the directory itself cannot be made without them. -/
def FileAccess.makeDirectories {m : Type → Type} [Monad m] (access : FileAccess m) (path : String) :
    m (Except FileFault Unit) := do
  if path.isEmpty then return .ok ()
  match ← access.makeDirectory path with
  | .error .notFound =>
    if (parentPath path).length < path.length then
      match ← access.makeDirectories (parentPath path) with
      | .ok () => access.makeDirectory path
      | .error fault => return .error fault
    else return .error .notFound
  | result => return result
termination_by path.length

/-! ## A file system that is a value -/

/-- The names on the way to a file or directory, from the working directory or, after a slash, from
the root.  What is above the working directory starts with two dots. -/
abbrev Place := List String

/-- A file with its content, or a directory. -/
inductive Node
  | file (content : String)
  | directory
deriving DecidableEq, Repr, Inhabited

structure FileSystem where
  nodes : List (Place × Node)
deriving Repr, Inhabited

/-- The place above a place; there is none above the root. -/
def Place.above (place : Place) : Place :=
  if place = ["/"] then place
  else if place.all (· = "..") then place ++ [".."]
  else place.dropLast

namespace FileSystem

def empty : FileSystem := ⟨[]⟩

/-- What is at a place.  The root, the working directory and those above it are directories. -/
def node? (fs : FileSystem) (place : Place) : Option Node :=
  if place = ["/"] ∨ place.all (· = "..") then some .directory else fs.nodes.lookup place

def isDirectory (fs : FileSystem) (place : Place) : Bool :=
  fs.node? place = some .directory

/-- The file system with something put at a place, in exchange for what has been there. -/
def put (fs : FileSystem) (place : Place) (n : Node) : FileSystem :=
  ⟨(place, n) :: fs.nodes.filter (·.1 ≠ place)⟩

/-- The greatest size of a name in bytes. -/
def maxNameSize : Nat := 255

/-- The greatest size of a path in bytes. -/
def maxPathSize : Nat := 4095

/-- The place to which one part of a path leads from a directory. -/
def step (fs : FileSystem) (place : Place) (part : String) : Except FileFault Place :=
  match fs.node? place with
  | none => .error .notFound
  | some (.file _) => .error .notDirectory
  | some .directory =>
    if part = "" ∨ part = "." then .ok place
    else if part = ".." then .ok place.above
    else if part = "/" then .ok ["/"]
    else if maxNameSize < part.utf8ByteSize then .error .nameTooLong
    else .ok (place ++ [part])

/-- The place to which a path leads from the working directory. -/
def locate (fs : FileSystem) (path : String) : Except FileFault Place :=
  if path.toList.contains '\x00' then .error .nulInPath
  else if maxPathSize < path.utf8ByteSize then .error .nameTooLong
  else (pathParts path).foldlM fs.step []

def read (fs : FileSystem) (path : String) : Except FileFault String := do
  match fs.node? (← fs.locate path) with
  | some (.file content) => return content
  | some .directory => throw .isDirectory
  | none => throw .notFound

def write (fs : FileSystem) (path content : String) : Except FileFault FileSystem := do
  let place ← fs.locate path
  if fs.isDirectory place then throw .isDirectory
  return fs.put place (.file content)

def makeDirectory (fs : FileSystem) (path : String) : Except FileFault FileSystem := do
  let place ← fs.locate path
  match fs.node? place with
  | none => return fs.put place .directory
  | some .directory => return fs
  | some (.file _) => throw .alreadyExists

/-- The files below the working directory, with their paths from there. -/
def files (fs : FileSystem) : List (String × String) :=
  fs.nodes.filterMap fun (place, n) =>
    match place, n with
    | "/" :: _, _ | ".." :: _, _ | _, .directory => none
    | place, .file content => some ("/".intercalate place, content)

/-- The file system that a change leaves: the same one if the change fails. -/
def change (f : FileSystem → Except FileFault FileSystem) :
    StateM FileSystem (Except FileFault Unit) :=
  modifyGet fun fs =>
    match f fs with
    | .ok changed => (.ok (), changed)
    | .error fault => (.error fault, fs)

/-- Access to a file system that is a state. -/
def access : FileAccess (StateM FileSystem) where
  read path := do return (← get).read path
  makeDirectory path := change (·.makeDirectory path)
  write path content := change (·.write path content)

end FileSystem

end ProtoSchema.Program
