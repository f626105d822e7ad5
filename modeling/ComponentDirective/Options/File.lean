import ComponentDirective.Options.Reading

/-!
# Options in a file

What a path leads to decides whether there is a text to read: nothing at all, a directory, or a file, whose bytes must
be UTF-8.
-/

namespace ComponentDirective

/-- What is found at a path. -/
inductive PathContent
  | missing
  | directory
  | file (bytes : ByteArray)

/-- Why there is no text at a path. -/
inductive FileError
  | notFound
  | isDirectory
  | notUtf8
deriving DecidableEq

inductive LoadError
  | file (cause : FileError)
  | options (cause : OptionsError)

namespace PathContent

def ofText (s : String) : PathContent := .file s.toUTF8

def readText : PathContent → Except FileError String
  | .missing => .error .notFound
  | .directory => .error .isDirectory
  | .file bytes =>
    match String.fromUTF8? bytes with
    | some s => .ok s
    | none => .error .notUtf8

end PathContent

/-- The options that a file gives. -/
def Options.load (content : PathContent) : Except LoadError Options :=
  match content.readText with
  | .error e => .error (.file e)
  | .ok s =>
    match Options.parse s with
    | .error e => .error (.options e)
    | .ok o => .ok o

end ComponentDirective
