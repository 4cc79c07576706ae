import ProtoSchema.Generation.Composite
import ProtoSchema.Schema.Document
import ProtoSchema.Schema.Redirect

/-!
# The document of a message

A document has the schema of its message as its root and defines every other type that the root
reaches, in the order in which a walk in depth first comes to them.  A type is defined once,
however often it is used, so types that contain each other come to an end.
-/

namespace ProtoSchema.Generation

/-- The full names of all types that documents can define. -/
def definable (p : Pool) : List String :=
  p.messages.map (·.fullName) ++ p.enums.map (·.fullName) ++
    SharedType.all.map (·.wellKnown.fullName)

/-- What a walk does next: it comes to a type, or it meets a fault. -/
inductive Task
  | visit (u : Use)
  | fail (f : Fault)

/-- The tasks that a draft at the end of a path leaves, its fault after its uses. -/
def Draft.tasks (d : Draft α) (path : List String) : List Task :=
  d.uses.map (fun u => .visit { u with path := path ++ u.path }) ++
    match d.result with
    | .ok _ => []
    | .error f => [.fail { f with path := path ++ f.path }]

/-- The names other than one of them. -/
def without (name : String) (names : List String) : List String := names.filter (· ≠ name)

theorem length_without_lt {name : String} {names : List String} (h : name ∈ names) :
    (without name names).length < names.length := by
  refine Nat.lt_of_le_of_ne (List.length_filter_le _ _) fun he => ?_
  simpa using List.length_filter_eq_length_iff.1 he name h

/-- The types that a walk comes to and that remain to be defined, in the order of its first visits.
Each visit leaves fewer types to be defined. -/
def walk (p : Pool) (remaining : List String) : List Task → Except Fault (List Target)
  | [] => .ok []
  | .fail f :: _ => .error f
  | .visit u :: rest =>
    if u.target.fullName ∈ remaining then
      (walk p (without u.target.fullName remaining)
        ((u.target.draft p).tasks u.path ++ rest)).map (u.target :: ·)
    else walk p remaining rest
termination_by tasks => (remaining.length, tasks.length)
decreasing_by
  · rename_i h
    exact Prod.Lex.left _ _ (length_without_lt h)
  · exact Prod.Lex.right _ (by simp)

/-- Where a reference leads in the document of the type with a given key. -/
def place (key : String) : Reference → Reference
  | .root => .root
  | .definition k => if k = key then .root else .definition k
  | .elsewhere text h => .elsewhere text h

/-- The document of a message. -/
def document (p : Pool) (m : Message) : Except Fault Document := do
  let own := Target.message m
  let draft := own.draft p
  let targets ← walk p (without own.fullName (definable p)) (draft.tasks [])
  let root ← draft.result
  let definitions ← targets.mapM fun t => do
    return (t.key, (← (t.draft p).result).redirect (place own.key))
  return { root := root.redirect (place own.key), definitions }

end ProtoSchema.Generation
