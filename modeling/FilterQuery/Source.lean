import FilterQuery.Error

/-!
# Settings files

What reading or writing a settings file needs to know of it, so that loading is a function of data:
whether something is there, and which bytes it holds.
-/

namespace FilterQuery

/-- What is found at the path of a settings file. -/
inductive Source where
  /-- A file with this content. -/
  | file (content : ByteArray)
  /-- Something that cannot be read as a file. -/
  | unreadable
  /-- Nothing. -/
  | missing (path : String)

/-- The text of a file, which has to be UTF-8. -/
def Source.read : Source → Except Error String
  | .file content =>
    match String.fromUTF8? content with
    | some text => .ok text
    | none => .error .unusableFile
  | .unreadable => .error .unusableFile
  | .missing path => .error (.notFound path)

/-- Where settings are to be written. -/
inductive Target where
  | writable
  | unwritable
  deriving DecidableEq, Repr

/-- The text that a file holds once it has been written. -/
def Target.write (target : Target) (text : String) : Except Error String :=
  match target with
  | .writable => .ok text
  | .unwritable => .error .unusableFile

end FilterQuery
