import LitNote.Text.Basic

/-!
Paths, and files below a working directory.
-/

namespace LitNote.CommandLine

def segments (path : Text) : List Text :=
  (Text.splitAtChar '/' path).filter fun s => !(s.isEmpty || s = ['.'])

/-- The shortest spelling of a path. -/
def shown (path : Text) : Text :=
  let tail := Text.join ['/'] (segments path)
  if path.head? == some '/' then '/' :: tail else if tail.isEmpty then ['.'] else tail

inductive Entry where
  | file (content : Text)
  | directory
  | nothing
deriving Repr, DecidableEq, Inhabited

abbrev Files := List (Text × Text)

namespace Files

def lookup (files : Files) (place : List Text) : Entry :=
  match files.find? fun (name, _) => segments name = place with
  | some (_, content) => .file content
  | none =>
    if files.any fun (name, _) => place.isPrefixOf (segments name) then .directory
    else if place.isEmpty then .directory
    else .nothing

/-- Follows segments from a place, given from the innermost; nothing outside is known. -/
def follow (files : Files) (place : List Text) : List Text → Entry
  | [] => files.lookup place.reverse
  | s :: rest =>
    if s = ['.', '.'] then
      match place with
      | [] => if rest.isEmpty then .directory else .nothing
      | _ :: outer => match files.lookup place.reverse with
        | .directory => follow files outer rest
        | _ => .nothing
    else follow files (s :: place) rest

def entryAt (files : Files) (path : Text) : Entry :=
  if path.head? == some '/' then
    if (segments path).isEmpty then .directory else .nothing
  else files.follow [] (segments path)

end Files

end LitNote.CommandLine
