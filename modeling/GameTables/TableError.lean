import GameTables.FileSystem.Error
import GameTables.Json.Fault

/-!
# Errors of the table generator

Everything that stops the generation of the tables. Nothing is written after such an error.
-/

namespace GameTables

/-- The documents that are read. -/
inductive Source where
  | properties
  | blocks
  deriving DecidableEq, Repr

def Source.describe : Source → String
  | .properties => "block properties"
  | .blocks => "blocks"

/-- What ids are given to. -/
inductive Numbered where
  | blocks
  | states
  deriving DecidableEq, Repr

def Numbered.describe : Numbered → String
  | .blocks => "blocks"
  | .states => "states"

inductive TableError where
  | file (error : FileError)
  | json (source : Source) (fault : Json.Fault)
  | valueTypes (property : String)
  | emptyValues (property : String)
  | tooManyValues (property : String) (count : Nat)
  | booleanValues (property : String)
  | integerRange (property : String)
  | tooManyEnumValues (property : String) (total : Nat)
  | tooManyProperties (count : Nat)
  | unknownProperty (block property : String)
  | noStates (block : String)
  | blockIdMismatch (block : String) (declared expected : Nat)
  | stateIdMismatch (block : String) (declared expected : Nat)
  | defaultStateOutOfRange (block : String) (default first last : Nat)
  | tooManyIds (what : Numbered) (count : Nat)
  | tooManyBlockProperties (block : String) (count : Nat)
  | propertyOffsetTooLarge (block : String) (offset : Nat)

def TableError.message : TableError → String
  | .file error => s!"IO error: {error.message}"
  | .json source fault => s!"failed to parse {source.describe}: {fault.message}"
  | .valueTypes property =>
    s!"property `{property}` values must be all strings, all booleans or all integers: "
      ++ (Json.Reason.noAlternative "RawValues").describe
  | .emptyValues property => s!"property `{property}` has no values"
  | .tooManyValues property count =>
    s!"property `{property}` has {count} values, at most 31 fit the count field"
  | .booleanValues property => s!"boolean property `{property}` must list exactly [true, false]"
  | .integerRange property =>
    s!"integer property `{property}` must be a contiguous ascending run starting at 0 or 1"
  | .tooManyEnumValues property total =>
    s!"enum values reach {total} at property `{property}`, at most 255 fit the offset field"
  | .tooManyProperties count => s!"{count} properties defined, at most 256 fit a property id"
  | .unknownProperty block property => s!"block `{block}` references unknown property `{property}`"
  | .noStates block => s!"block `{block}` has no states"
  | .blockIdMismatch block declared expected =>
    s!"block `{block}` declares id {declared} but is at position {expected}"
  | .stateIdMismatch block declared expected =>
    s!"block `{block}` lists state id {declared} where {expected} was expected"
  | .defaultStateOutOfRange block default first last =>
    s!"block `{block}` default state {default} is outside its states {first}..={last}"
  | .tooManyIds what count => s!"{count} {what.describe} defined, ids must fit in 16 bits"
  | .tooManyBlockProperties block count =>
    s!"block `{block}` has {count} properties, at most 7 fit the count field"
  | .propertyOffsetTooLarge block offset =>
    s!"block `{block}` starts at property offset {offset}, at most 2047 fits the offset field"

end GameTables
