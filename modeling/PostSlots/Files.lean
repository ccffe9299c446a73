import PostSlots.Text.Cut

/-!
# Files

What can keep a file from being read as text, and a tree of files in which paths are followed name
by name from a current directory. A path that leads nowhere, for whatever reason, is told from one
that leads to something without a text.
-/

namespace PostSlots

/-- Why nothing is found at a path. -/
inductive PathFault where
  | notFound
  | notSearchable
  | notDirectory
  | nameTooLong
  | linkLoop
  | zeroByte
  | other (text : String)
deriving DecidableEq

/-- The wording of a fault. -/
def PathFault.text : PathFault → String
  | notFound => "No such file or directory (os error 2)"
  | notSearchable => "Permission denied (os error 13)"
  | notDirectory => "Not a directory (os error 20)"
  | nameTooLong => "File name too long (os error 36)"
  | linkLoop => "Too many levels of symbolic links (os error 40)"
  | zeroByte => "file name contained an unexpected NUL byte"
  | other text => text

/-- Why what is found at a path cannot be read as text. -/
inductive ReadFault where
  | denied
  | isDirectory
  | notText
  | other (text : String)
deriving DecidableEq

/-- The wording of a fault. -/
def ReadFault.text : ReadFault → String
  | denied => "Permission denied (os error 13)"
  | isDirectory => "Is a directory (os error 21)"
  | notText => "stream did not contain valid UTF-8"
  | other text => text

/-- Why there is no text of a file. -/
inductive FileFault where
  | missing (fault : PathFault)
  | unreadable (fault : ReadFault)
deriving DecidableEq

/-- The wording of a fault. -/
def FileFault.text : FileFault → String
  | missing fault => fault.text
  | unreadable fault => fault.text

/-- The texts of files by their paths. -/
abbrev Disk := String → Except FileFault String

/-- What a path leads to. -/
inductive FileEntry where
  | directory
  | file (bytes : ByteArray)

/-- Entries by the names on the way to them. Directories on the way need no entry, and an earlier
entry hides a later one. -/
structure FileTree where
  entries : List (List String × FileEntry)

namespace FileTree

/-- The names in a path, with empty ones where slashes meet. -/
def namesOf (path : String) : List String :=
  (Text.cut (· == '/') path.toList).map String.ofList

/-- Adds entries by their paths. -/
def insertAll (t : FileTree) (entries : List (String × FileEntry)) : FileTree :=
  let isStep (name : String) : Bool := name != "" && name != "."
  ⟨entries.map (fun (path, entry) => ((namesOf path).filter isStep, entry)) ++ t.entries⟩

def entry? (t : FileTree) (names : List String) : Option FileEntry :=
  match t.entries.lookup names with
  | some entry => some entry
  | none => if t.entries.any fun e => names.isPrefixOf e.1 then some .directory else none

/-- The longest name, in bytes. -/
def nameLimit : Nat := 255

/-- The longest path, in bytes. -/
def pathLimit : Nat := 4095

/-- How far a path has led: to the names on the way from the current directory, or to a directory
outside of it, where no names are known. -/
abbrev Place := Option (List String)

/-- The place above a place. -/
def above : Place → Place
  | none | some [] => none
  | some names => some names.dropLast

/-- Follows a name out of a directory. -/
def enter (t : FileTree) (place : Place) (name : String) : Except PathFault Place :=
  match place.bind t.entry? with
  | some (.file _) => .error .notDirectory
  | _ =>
    if name == "" || name == "." then .ok place
    else if name == ".." then .ok (above place)
    else if nameLimit < name.utf8ByteSize then .error .nameTooLong
    else
      let place := place.map (· ++ [name])
      if (place.bind t.entry?).isSome then .ok place else .error .notFound

/-- The place that a path leads to from the current directory. -/
def find (t : FileTree) (path : String) : Except PathFault Place := do
  if path.toList.contains '\x00' then throw .zeroByte
  if pathLimit < path.utf8ByteSize then throw .nameTooLong
  if path.isEmpty then throw .notFound
  let start : Place := if path.toList.head? == some '/' then none else some []
  (namesOf path).foldlM t.enter start

/-- The bytes of the file at a path. -/
def bytes (t : FileTree) (path : String) : Except FileFault ByteArray := do
  let place ← (t.find path).mapError .missing
  match place.bind t.entry? with
  | some (.file bytes) => pure bytes
  | _ => throw (.unreadable .isDirectory)

/-- The texts of the files in a tree. -/
def disk (t : FileTree) : Disk := fun path => do
  match String.fromUTF8? (← t.bytes path) with
  | some text => pure text
  | none => throw (.unreadable .notText)

end FileTree

end PostSlots
