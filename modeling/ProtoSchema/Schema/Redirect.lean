import ProtoSchema.Schema.Basic

/-!
# Redirecting references

A schema that is moved into a document keeps its shape; only its references change.
-/

namespace ProtoSchema.Schema

mutual

/-- The schema with every reference replaced. -/
def redirect (f : Reference → Reference) : Schema → Schema
  | always => always
  | never => never
  | generic s => generic s
  | object ⟨title, description, properties, required, additional, names, least, most⟩ =>
    object ⟨title, description, redirectNamed f properties, required, redirectOption f additional,
      redirectOption f names, least, most⟩
  | array ⟨title, description, items, least, most, unique⟩ =>
    array ⟨title, description, redirectOption f items, least, most, unique⟩
  | string s => string s
  | integer s => integer s
  | number s => number s
  | boolean s => boolean s
  | ref target => ref (f target)
  | allOf operands => allOf (redirectAll f operands)
  | anyOf operands => anyOf (redirectAll f operands)
  | oneOf operands => oneOf (redirectAll f operands)
  | not s => not (redirect f s)

def redirectAll (f : Reference → Reference) : List Schema → List Schema
  | [] => []
  | s :: rest => redirect f s :: redirectAll f rest

def redirectNamed (f : Reference → Reference) : List (String × Schema) → List (String × Schema)
  | [] => []
  | (key, s) :: rest => (key, redirect f s) :: redirectNamed f rest

def redirectOption (f : Reference → Reference) : Option Schema → Option Schema
  | none => none
  | some s => some (redirect f s)

end

end ProtoSchema.Schema
