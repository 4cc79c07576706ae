import ProtoSchema.Descriptor.Decode
import ProtoSchema.Generation.Render
import ProtoSchema.Json.Read
import ProtoSchema.Program.Arguments
import ProtoSchema.Program.Files

/-!
# A run of the program

A run reads a descriptor set, renders the documents of its targets, writes them below a directory,
and reports on the way.  All documents are rendered before the first is written, so a message
without a schema leaves the files as they are.
-/

namespace ProtoSchema.Program

/-! ## Faults -/

/-- Why a run fails. -/
inductive Fault
  | read (path : String) (cause : FileFault)
  | json (text : String) (failure : Json.Failure)
  | pool (cause : PoolFault)
  | generation (cause : Generation.Fault)
  | write (path : String) (cause : FileFault)

namespace Fault

def message : Fault → String
  | read path cause => "failed to read " ++ path ++ ": " ++ cause.message
  | json text failure => "failed to parse JSON: " ++ failure.describe text
  | pool cause => "descriptor error: " ++ cause.message
  | generation cause => cause.message
  | write path cause => "failed to write " ++ path ++ ": " ++ cause.message

/-- What the fault comes from, as far as it has a text of its own. -/
def cause? : Fault → Option String
  | read _ cause | write _ cause => some cause.message
  | json text failure => some (failure.describe text)
  | pool _ => none
  | generation ⟨_, .pattern pattern fault⟩ => some (fault.describe pattern)
  | generation _ => none

/-- The lines that report the fault. -/
def report (f : Fault) : List String :=
  ("error: " ++ f.message) :: f.cause?.toList.map ("  caused by: " ++ ·)

end Fault

/-! ## Loading and generating -/

/-- The pool of the descriptor set with a given text. -/
def poolOfText (text : String) : Except Fault Pool := do
  let set ← (DescriptorSet.decoder.run text).mapError (Fault.json text)
  (Pool.ofSet set).mapError .pool

/-- What has been generated: documents, definitions in all of them, and files that were written. -/
structure Summary where
  documents : Nat
  definitions : Nat
  files : Nat
deriving DecidableEq, Repr, Inhabited

variable {m : Type → Type} [Monad m]

/-- The result of an access to a file, with its fault as a fault of the run. -/
def accessing (fault : FileFault → Fault) (result : m (Except FileFault α)) : ExceptT Fault m α :=
  ExceptT.mk ((·.mapError fault) <$> result)

def load (access : FileAccess m) (path : String) : ExceptT Fault m Pool := do
  poolOfText (← accessing (.read path) (access.read path))

/-- Writes a file into a directory, which is made if it is not there. -/
def writeFile (access : FileAccess m) (path content : String) : ExceptT Fault m Unit := do
  let directory := parentPath path
  accessing (.write directory) (access.makeDirectories directory)
  accessing (.write path) (access.write path content)

/-- Writes files below a directory and counts them. -/
def writeFiles (access : FileAccess m) (directory : String) :
    List Generation.SchemaFile → ExceptT Fault m Nat
  | [] => return 0
  | f :: rest => do
    writeFile access (joinPath directory f.path) f.content
    return (← writeFiles access directory rest) + 1

/-- Writes the documents of all targets below a directory. -/
def generate (access : FileAccess m) (p : Pool) (directory baseUrl : String) :
    ExceptT Fault m Summary := do
  let files ← (Generation.render p baseUrl).mapError Fault.generation
  let written ← writeFiles access directory files
  return {
    documents := files.length
    definitions := Generation.definitionCount files
    files := written }

/-! ## The whole run -/

/-- What a run leaves beside files: its exit code and what it has printed. -/
structure Outcome where
  exit : Nat
  stdout : String := ""
  stderr : String := ""
deriving DecidableEq, Repr, Inhabited

/-- The text of some lines, each with a line end. -/
def lines (xs : List String) : String := String.join (xs.map (· ++ "\n"))

def loadedLine (p : Pool) : String :=
  "Loaded " ++ toString p.messages.length ++ " messages, " ++ toString p.enums.length ++
    " enums (" ++ toString p.targets.length ++ " targets)"

def summaryLines (s : Summary) (directory : String) : List String :=
  ["Generated " ++ toString s.documents ++ " schemas with " ++ toString s.definitions ++
      " definitions",
    "Wrote " ++ toString s.files ++ " files to " ++ directory,
    "Done."]

/-- Loads a pool and generates from it.  Progress is reported unless the run is quiet, faults
always. -/
def runGenerate (access : FileAccess m) (o : Options) : m Outcome := do
  let progress := fun (xs : List String) => if o.quiet then "" else lines xs
  let loading := ["Loading descriptors from " ++ o.descriptors]
  match ← (load access o.descriptors).run with
  | .error f => return { exit := 1, stderr := progress loading ++ lines f.report }
  | .ok p =>
    let loaded := loading ++ [loadedLine p]
    match ← (generate access p o.outputDir o.baseUrl).run with
    | .error f => return { exit := 1, stderr := progress loaded ++ lines f.report }
    | .ok s => return { exit := 0, stderr := progress (loaded ++ summaryLines s o.outputDir) }

/-- The name of the program with its version. -/
def versionLine : String := "proto-jsonschema-gen 0.1.0"

def Command.run (access : FileAccess m) : Command → m Outcome
  | help => return { exit := 0, stdout := usage }
  | version => return { exit := 0, stdout := lines [versionLine] }
  | generate o => runGenerate access o

/-- Runs the program on its arguments.  The environment may hold a base address. -/
def run (access : FileAccess m) (environmentUrl : Option String) (arguments : List String) :
    m Outcome :=
  match Command.ofArguments environmentUrl arguments with
  | .ok command => command.run access
  | .error fault => return { exit := 2, stderr := "error: " ++ fault.message ++ "\n\n" ++ usage }

end ProtoSchema.Program
