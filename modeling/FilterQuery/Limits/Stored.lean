import FilterQuery.Limits
import FilterQuery.Numeric.Integer
import FilterQuery.Source
import FilterQuery.Text.Blank
import FilterQuery.Toml.Codec

/-!
# Limits in settings files

Limits are stored as the TOML keys `max_depth` and `max_length`. A key that is missing leaves the
limit at its default; a key that is there holds an integer that is not negative; other keys are
ignored. The environment may set the nesting limit on top of what is stored, and is read after it.

Reading and writing take the codec for TOML as an argument (`ofTomlBy`, `loadBy`, `saveBy`); `ofToml`,
`load` and `save` are the same with the codec of this library.
-/

namespace FilterQuery.Limits

/-! ## 1. Reading -/

/-- The limit under a key. -/
def stored? (key : String) (standard : Nat) (entries : Entries Toml) : Option Nat :=
  match entries.get? key with
  | none => some standard
  | some (.integer n) => if 0 ≤ n.toInt then some n.toInt.toNat else none
  | some _ => none

/-- The limits that the entries of a document hold. -/
def ofEntries? (entries : Entries Toml) : Option Limits := do
  let maxDepth ← stored? "max_depth" (default : Limits).maxDepth entries
  let maxLength ← stored? "max_length" (default : Limits).maxLength entries
  return { maxDepth, maxLength }

/-- Reads limits from a TOML text. -/
def ofTomlBy (codec : Toml.Codec) (text : String) : Except Error Limits :=
  match (codec.read? text).bind ofEntries? with
  | some limits => .ok limits
  | none => .error (.settings .badLimits)

def ofToml : String → Except Error Limits :=
  ofTomlBy .builtin

/-- Limits with the nesting limit that the environment gives. -/
def withDepth (limits : Limits) (given : String) : Except Error Limits :=
  match Numeric.readUnsigned64 (Text.trim given.toList) with
  | .ok maxDepth => .ok { limits with maxDepth }
  | .error fault => .error (.settings (.badDepth given fault))

/-- The limits of a service: those of its settings file if it has one, with the nesting limit of the
    environment if there is one. -/
def loadBy (codec : Toml.Codec) (source : Option Source) (depth : Option String) :
    Except Error Limits := do
  let limits ← match source with
    | some source => source.read >>= ofTomlBy codec
    | none => .ok default
  match depth with
  | some given => limits.withDepth given
  | none => .ok limits

def load : Option Source → Option String → Except Error Limits :=
  loadBy .builtin

/-! ## 2. Writing -/

/-- The record that is stored for limits. -/
def fields (limits : Limits) : Entries Nat :=
  [("max_depth", limits.maxDepth), ("max_length", limits.maxLength)]

/-- Writes limits by a given way of writing a text, once there is one. -/
def saveBy {m : Type → Type} [MonadExcept Error m] {α : Type} (codec : Toml.Codec)
    (limits : Limits) (write : String → m α) : m α :=
  match codec.write? limits.fields with
  | some text => write text
  | none => throw (.settings .unwritableLimits)

/-- Writes limits, and answers with the text of the file. -/
def save (limits : Limits) (target : Target) : Except Error String :=
  saveBy .builtin limits target.write

example : ofToml "max_depth = 0x10 # groups\n" = .ok { maxDepth := 16 } := by cbv

example : ofToml "max_depth = -1" = .error (.settings .badLimits) := by cbv

end FilterQuery.Limits
