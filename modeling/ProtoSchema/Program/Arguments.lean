import ProtoSchema.Generation.Render

/-!
# Arguments

The arguments of the program, without its name, say what it has to do.  An option takes its value
from the argument after it or, after an equals sign, from its own.
-/

namespace ProtoSchema.Program

/-- What there is to generate from, where to, and how. -/
structure Options where
  descriptors : String
  outputDir : String
  baseUrl : String
  quiet : Bool
deriving DecidableEq, Repr, Inhabited

inductive Command
  | help
  | version
  | generate (options : Options)
deriving DecidableEq, Repr, Inhabited

/-- Why arguments say nothing that the program could do. -/
inductive UsageFault
  | noCommand
  | unknownCommand (name : String)
  | unexpected (argument : String)
  | repeated (option : String)
  | noValue (option : String)
  | emptyValue (option : String)
  | valueOfFlag (option : String)
  | required (option : String)
deriving DecidableEq, Repr, Inhabited

def UsageFault.message : UsageFault → String
  | noCommand => "a command is required"
  | unknownCommand name => "unrecognized command '" ++ name ++ "'"
  | unexpected argument => "unexpected argument '" ++ argument ++ "'"
  | repeated option => "the argument '" ++ option ++ "' cannot be used multiple times"
  | noValue option => "a value is required for '" ++ option ++ "'"
  | emptyValue option => "the value of '" ++ option ++ "' must not be empty"
  | valueOfFlag option => "'" ++ option ++ "' takes no value"
  | required option => "the argument '" ++ option ++ "' is required"

/-- How the program is called. -/
def usage : String :=
  "Usage: proto-jsonschema-gen generate --descriptors <FILE> [--output-dir <DIR>] " ++
    "[--base-url <URL>] [--quiet]\n       proto-jsonschema-gen --version\n"

/-! ## The command that generates -/

/-- The options that take a value. -/
inductive Setting
  | descriptors
  | outputDir
  | baseUrl
deriving DecidableEq, Repr, Inhabited

namespace Setting

def name : Setting → String
  | descriptors => "--descriptors"
  | outputDir => "--output-dir"
  | baseUrl => "--base-url"

def all : List Setting := [descriptors, outputDir, baseUrl]

def ofName? (name : String) : Option Setting := all.find? (·.name = name)

/-- Whether the value is a path, which is never empty. -/
def isPath : Setting → Bool
  | descriptors | outputDir => true
  | baseUrl => false

end Setting

/-- The options that some arguments give. -/
structure Given where
  settings : List (Setting × String) := []
  quiet : Bool := false
deriving DecidableEq, Repr, Inhabited

namespace Given

def value? (g : Given) (s : Setting) : Option String := g.settings.lookup s

def set (g : Given) (s : Setting) (value : String) : Except UsageFault Given :=
  if (g.value? s).isSome then .error (.repeated s.name)
  else if s.isPath ∧ value.isEmpty then .error (.emptyValue s.name)
  else .ok { g with settings := (s, value) :: g.settings }

def setQuiet (g : Given) : Except UsageFault Given :=
  if g.quiet then .error (.repeated "--quiet") else .ok { g with quiet := true }

end Given

/-- Whether an argument is an option rather than a value; a lone hyphen is a value. -/
def isOption (argument : String) : Bool :=
  match argument.toList with
  | '-' :: _ :: _ => true
  | _ => false

/-- The name of an option and its value after an equals sign, if there is one. -/
def splitOption (argument : String) : String × Option String :=
  let cs := argument.toList
  match cs.dropWhile (· != '=') with
  | [] => (argument, none)
  | _ :: value => (String.ofList (cs.takeWhile (· != '=')), some (String.ofList value))

/-- What an argument of the command asks for by itself. -/
inductive Argument
  /-- Two hyphens, after which there are no more options. -/
  | endOfOptions
  | setting (s : Setting) (value : Option String)
  | flags (letters : List Char)
  | quiet
  | help
  | bad (fault : UsageFault)

def Argument.ofString (argument : String) : Argument :=
  match argument.toList with
  | ['-', '-'] => .endOfOptions
  | '-' :: '-' :: _ =>
    match splitOption argument with
    | ("--quiet", none) => .quiet
    | ("--help", none) => .help
    | (name, value) =>
      match Setting.ofName? name with
      | some s => .setting s value
      | none =>
        .bad (if name = "--quiet" ∨ name = "--help" then .valueOfFlag name
          else .unexpected argument)
  | '-' :: c :: cs => .flags (c :: cs)
  | _ => .bad (.unexpected argument)

/-- The options so far with those of letters after one hyphen, or nothing if help is asked for. -/
def readFlags (given : Given) : List Char → Except UsageFault (Option Given)
  | [] => .ok (some given)
  | 'q' :: cs => do readFlags (← given.setQuiet) cs
  | 'h' :: _ => .ok none
  | c :: _ => .error (.unexpected (String.ofList ['-', c]))

/-- The options that the arguments of the command give, or nothing if help is asked for. -/
def readOptions (given : Given) : List String → Except UsageFault (Option Given)
  | [] => .ok (some given)
  | argument :: rest =>
    match Argument.ofString argument, rest with
    | .bad fault, _ => .error fault
    | .endOfOptions, [] => .ok (some given)
    | .endOfOptions, next :: _ => .error (.unexpected next)
    | .help, _ => .ok none
    | .quiet, rest => do readOptions (← given.setQuiet) rest
    | .flags letters, rest => do
      match ← readFlags given letters with
      | none => return none
      | some given => readOptions given rest
    | .setting s (some value), rest => do readOptions (← given.set s value) rest
    | .setting s none, [] => .error (.noValue s.name)
    | .setting s none, value :: rest =>
      if isOption value then .error (.noValue s.name)
      else do readOptions (← given.set s value) rest

/-- The options of a run.  A base address that is not given comes from the environment or else is
the usual one. -/
def Given.options (given : Given) (environmentUrl : Option String) : Except UsageFault Options :=
  match given.value? .descriptors with
  | none => .error (.required Setting.descriptors.name)
  | some descriptors =>
    .ok { descriptors
          outputDir := (given.value? .outputDir).getD "."
          baseUrl := ((given.value? .baseUrl).or environmentUrl).getD Generation.defaultBaseUrl
          quiet := given.quiet }

/-! ## All commands -/

/-- The command that arguments give.  The environment may hold a base address. -/
def Command.ofArguments (environmentUrl : Option String) :
    List String → Except UsageFault Command
  | [] => .error .noCommand
  | "generate" :: arguments => do
    match ← readOptions {} arguments with
    | none => return .help
    | some given => return .generate (← given.options environmentUrl)
  | ["help"] | ["help", "generate"] => .ok .help
  | "help" :: name :: _ => .error (.unknownCommand name)
  | argument :: _ =>
    match splitOption argument, argument.toList with
    | ("--version", none), _ | _, '-' :: 'V' :: _ => .ok .version
    | ("--help", none), _ | _, '-' :: 'h' :: _ => .ok .help
    | ("--version", some _), _ => .error (.valueOfFlag "--version")
    | ("--help", some _), _ => .error (.valueOfFlag "--help")
    | _, _ =>
      .error (if isOption argument then .unexpected argument else .unknownCommand argument)

end ProtoSchema.Program
