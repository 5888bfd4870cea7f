import TrafficMeter.Counter.File

/-! # Files by their paths

A tree of folders and files, and the place in it that relative paths start from. A
path is followed name by name. Whatever a name is followed from has to be a folder,
also when the name is a dot or the nothing after a last slash.
-/

namespace TrafficMeter

/-- A file with its data, or a folder with its entries. -/
inductive FileTree where
  | file (data : ByteArray)
  | folder (entries : List (String × FileTree))

/-- A place in a tree: what is there, and the folders above it, the nearest first. -/
structure Place where
  here : FileTree
  above : List FileTree

namespace Place

/-- The longest name of an entry, in bytes. -/
def maxName : Nat := 255

/-- The longest path, in bytes. -/
def maxPath : Nat := 4095

/-- The topmost place. -/
def top (place : Place) : Place := ⟨place.above.getLast?.getD place.here, []⟩

/-- The place above. The topmost one is its own. -/
def up (place : Place) : Place :=
  match place.above with
  | [] => place
  | parent :: above => ⟨parent, above⟩

/-- Follows one name of a path. -/
def enter (place : Place) (name : String) : Except SystemError Place :=
  match place.here with
  | .file _ => .error .notDirectory
  | .folder entries =>
      if name = "" ∨ name = "." then .ok place
      else if name = ".." then .ok place.up
      else if maxName < name.utf8ByteSize then .error .nameTooLong
      else match entries.lookup name with
        | none => .error .noSuchFile
        | some entry => .ok ⟨entry, place.here :: place.above⟩

/-- Follows the names of a path, one from the place where the other led. -/
def descend (place : Place) : List String → Except SystemError Place
  | [] => .ok place
  | name :: names =>
      match place.enter name with
      | .error error => .error error
      | .ok next => next.descend names

/-- The names of a path. A first slash and a last one leave an empty name. -/
def names (path : String) : List String := (path.toList.splitOn '/').map String.ofList

/-- Follows a path, from the top if it begins with a slash. -/
def follow (place : Place) (path : String) : Except SystemError Place :=
  if maxPath < path.utf8ByteSize then .error .nameTooLong
  else if path = "" then .error .noSuchFile
  else if path.toList.head? = some '/' then place.top.descend (names path)
  else place.descend (names path)

/-- What is found at a path. -/
def contents (place : Place) (path : String) : Contents :=
  match place.follow path with
  | .error error => .refused error
  | .ok found =>
      match found.here with
      | .file data => .bytes data
      | .folder _ => .directory

/-- The names of a longer path are followed one after the other. -/
theorem descend_append (place : Place) (first rest : List String) :
    place.descend (first ++ rest) = (place.descend first).bind fun next =>
      next.descend rest := by
  induction first generalizing place with
  | nil => rfl
  | cons name names ih =>
    simp only [List.cons_append, descend]
    cases place.enter name with
    | error error => rfl
    | ok next => exact ih next

end Place

end TrafficMeter
