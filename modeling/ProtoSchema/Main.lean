import ProtoSchema.Program.Run

/-!
# The program

Gives a run the files of the machine and prints what comes of it.
-/

namespace ProtoSchema.Program

/-- The fault behind an error of the machine, whose code may come negated. -/
def FileFault.ofError (e : IO.Error) : FileFault :=
  match e with
  | .noFileOrDirectory .. => .notFound
  | .alreadyExists .. => .alreadyExists
  | .permissionDenied .. => .other "Permission denied (os error 13)"
  | .inappropriateType _ code _ | .invalidArgument _ code _ =>
    match min code (0 - code) with
    | 20 => .notDirectory
    | 21 => .isDirectory
    | 36 => .nameTooLong
    | _ => .other (toString e)
  | e => .other (toString e)

/-- Does something at a path, if files can have the path at all, and catches errors. -/
def guarded (path : String) (action : IO (Except FileFault α)) : IO (Except FileFault α) := do
  if path.toList.contains '\x00' then return .error .nulInPath
  match ← action.toBaseIO with
  | .ok result => return result
  | .error e => return .error (.ofError e)

def readText (path : String) : IO (Except FileFault String) := do
  match String.fromUTF8? (← IO.FS.readBinFile ⟨path⟩) with
  | some text => return .ok text
  | none => return .error (.other "stream did not contain valid UTF-8")

def makeDirectory (path : String) : IO (Except FileFault Unit) := do
  match ← (IO.FS.createDir ⟨path⟩).toBaseIO with
  | .ok _ => return .ok ()
  | .error (.alreadyExists ..) =>
    if ← (← IO.FS.realPath ⟨path⟩).isDir then return .ok () else return .error .alreadyExists
  | .error e => return .error (.ofError e)

/-- Access to the files of the machine. -/
def machineFiles : FileAccess IO where
  read path := guarded path (readText path)
  makeDirectory path := guarded path (makeDirectory path)
  write path content := guarded path (.ok <$> IO.FS.writeFile ⟨path⟩ content)

end ProtoSchema.Program

open ProtoSchema.Program in
def main (arguments : List String) : IO UInt32 := do
  let environmentUrl ← IO.getEnv "PROTO_JSONSCHEMA_BASE_URL"
  let outcome ← run machineFiles environmentUrl arguments
  IO.print outcome.stdout
  IO.eprint outcome.stderr
  return outcome.exit.toUInt32
