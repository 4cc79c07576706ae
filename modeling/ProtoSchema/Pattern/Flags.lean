import ProtoSchema.Pattern.Regex

/-!
# The scope of flags

Flags hold from where they are set to the end of the innermost group around, later branches
included.  A group that sets flags of its own sets them for its inside.
-/

namespace ProtoSchema.Pattern

/-- The flags that make a difference to what a pattern means and how it is written. -/
structure Flags where
  ignoreCase : Bool := false
  dotMatchesNewline : Bool := false
  swapGreed : Bool := false
  unicode : Bool := true
deriving DecidableEq, Repr, Inhabited

/-- The flags after a list of items. -/
def Flags.apply (f : Flags) (items : List FlagItem) : Flags where
  ignoreCase := (flagSetting .ignoreCase items).getD f.ignoreCase
  dotMatchesNewline := (flagSetting .dotMatchesNewline items).getD f.dotMatchesNewline
  swapGreed := (flagSetting .swapGreed items).getD f.swapGreed
  unicode := (flagSetting .unicode items).getD f.unicode

/-- The flags inside a group. -/
def GroupKind.inside (f : Flags) : GroupKind → Flags
  | capturing => f
  | flags items => f.apply items

mutual

/-- The flags after a part of a pattern. -/
def Regex.flagsAfter (f : Flags) : Regex → Flags
  | .flags _ items => f.apply items
  | .repetition _ _ _ body => body.flagsAfter f
  | .alternation _ parts | .concat _ parts => Regex.flagsAfterAll f parts
  | _ => f

def Regex.flagsAfterAll (f : Flags) : List Regex → Flags
  | [] => f
  | r :: rest => Regex.flagsAfterAll (r.flagsAfter f) rest

end

end ProtoSchema.Pattern
