import Telemetry.Fault

/-!
# A tree of files

The files that sinks write, as a tree of directories below the working directory. Files are only
ever created and appended to.

Main statement: `content?_append` (appending changes one file, at its end).
-/

namespace Telemetry

/-- The names that lead to a file or directory. -/
abbrev Path := List String

namespace Path

/-- The top of all directories, as a name. -/
def top : String := "/"

def doubleTop : String := "//"

/-- Whether a name is one of the top. -/
def isTop (name : String) : Bool := name == top || name == doubleTop

/-- The name that leads one directory up. -/
def above : String := ".."

def isUpward (path : Path) : Bool := path.all (· == above)

/-- The names of a path as it is written: single dots and empty names are left out. Just two slashes
in front are kept. -/
def parse (s : String) : Path :=
  let names := (s.splitOn "/").filter fun name => name ≠ "" ∧ name ≠ "."
  match (s.toList.takeWhile (· == '/')).length with
  | 0 => names
  | 2 => doubleTop :: names
  | _ => top :: names

def text : Path → String
  | [] => "."
  | first :: rest =>
    if isTop first then first ++ "/".intercalate rest else "/".intercalate (first :: rest)

/-- The most bytes of a name. -/
def nameLimit : Nat := 255

/-- The most bytes of a path. -/
def textLimit : Nat := 4095

/-- Refuse a path with a null character. -/
def requireNoNull (path : Path) : Except Fault Unit :=
  if path.any fun name => name.toList.any (·.toNat == 0) then .error .nullCharacter else .ok ()

end Path

/-- What stands at a path. -/
inductive FileTree.Entry where
  | directory
  | file (content : String)

/-- Directories and files by their paths. The working directory, the directories above it and the
top are always there. -/
structure FileTree where
  entries : List (Path × FileTree.Entry)

/-- Where a walk along a path ends. -/
inductive FileTree.Walk where
  | found (path : Path) (entry : FileTree.Entry)
  /-- Nothing stands there, but its directory does. -/
  | missing (path : Path)
  /-- A directory on the way is not there. -/
  | lost
  | blocked
  /-- A name on the way is too long, or the path is. -/
  | tooLong

namespace FileTree

def empty : FileTree := ⟨[]⟩

/-- What stands at a path where upward steps come first. -/
def entry? (tree : FileTree) (path : Path) : Option Entry :=
  if path.isUpward ∨ path = [Path.top] then some .directory
  else (tree.entries.find? (·.1 = path)).map (·.2)

/-- One step down, up, or to the top. There is nothing above the top. -/
def step (here : Path) (name : String) : Path :=
  if Path.isTop name then [Path.top]
  else if name = Path.above then
    if here = [Path.top] then here
    else if here.isUpward then here ++ [name]
    else here.dropLast
  else here ++ [name]

def walkFrom (tree : FileTree) (here : Path) : Path → Walk
  | [] => match tree.entry? here with
    | some entry => .found here entry
    | none => .lost
  | name :: rest => match tree.entry? here with
    | some .directory =>
      if Path.nameLimit < name.utf8ByteSize then .tooLong
      else match tree.entry? (step here name), rest with
      | none, [] => .missing (step here name)
      | none, _ :: _ => .lost
      | some _, _ => walkFrom tree (step here name) rest
    | some (.file _) => .blocked
    | none => .lost

def walk (tree : FileTree) (path : Path) : Walk :=
  if Path.textLimit < path.text.utf8ByteSize then .tooLong else walkFrom tree [] path

def create (tree : FileTree) (path : Path) (entry : Entry) : FileTree :=
  ⟨tree.entries ++ [(path, entry)]⟩

/-- Make one directory, unless it is there. -/
def makeDirectory (tree : FileTree) (path : Path) : Except Fault FileTree := do
  path.requireNoNull
  match tree.walk path with
  | .found _ .directory => return tree
  | .found _ (.file _) => throw (.fileExists path.text)
  | .missing place => return tree.create place .directory
  | .lost => throw (.fileNotFound path.text)
  | .blocked => throw (.notDirectory path.text)
  | .tooLong => throw (.pathTooLong path.text)

/-- Whether a directory on the way to a path is not there. -/
def lacksDirectory (tree : FileTree) (path : Path) : Bool :=
  match path.requireNoNull, tree.walk path with
  | .ok (), .lost => true
  | _, _ => false

/-- Make a directory and all that lead to it. Its own directory is made first if that is what
lacks. What was made stays even if the rest cannot be made. -/
def makeDirectories (tree : FileTree) (path : Path) : Except Fault Unit × FileTree :=
  if tree.lacksDirectory path ∧ path ≠ [] then
    match makeDirectories tree path.dropLast with
    | (.error fault, tree) => (.error fault, tree)
    | (.ok (), tree) => finish tree
  else finish tree
termination_by path.length
decreasing_by
  have := List.length_pos_iff.2 (And.right ‹_ ∧ path ≠ []›)
  rw [List.length_dropLast]
  omega
where
  finish (tree : FileTree) : Except Fault Unit × FileTree :=
    match tree.makeDirectory path with
    | .ok made => (.ok (), made)
    | .error fault => (.error fault, tree)

/-- Open a file to append to: it is created if it is not there. Its place is returned. -/
def openAppend (tree : FileTree) (path : Path) : Except Fault (Path × FileTree) := do
  path.requireNoNull
  match tree.walk path with
  | .found place (.file _) => return (place, tree)
  | .found _ .directory => throw (.isDirectory path.text)
  | .missing place => return (place, tree.create place (.file ""))
  | .lost => throw (.fileNotFound path.text)
  | .blocked => throw (.notDirectory path.text)
  | .tooLong => throw (.pathTooLong path.text)

/-- Append to the file at a place. -/
def append (tree : FileTree) (place : Path) (added : String) : FileTree :=
  ⟨tree.entries.map fun
    | (path, .file content) => (path, .file (if path = place then content ++ added else content))
    | other => other⟩

/-- The content of the file at a place. -/
def content? (tree : FileTree) (place : Path) : Option String :=
  match tree.entry? place with
  | some (.file content) => some content
  | _ => none

/-- The files below the working directory, in the order of their paths as texts. -/
def files (tree : FileTree) : Table String :=
  Table.sorted <| tree.entries.filterMap fun
    | (path, .file content) =>
      if path.head? ∈ [some Path.top, some Path.above] then none else some (path.text, content)
    | _ => none

/-- The content of the file at a path. -/
def read (tree : FileTree) (path : Path) : Except Fault String := do
  path.requireNoNull
  match tree.walk path with
  | .found _ (.file content) => return content
  | .found _ .directory => throw (.isDirectory path.text)
  | .blocked => throw (.notDirectory path.text)
  | .tooLong => throw (.pathTooLong path.text)
  | .missing _ | .lost => throw (.fileNotFound path.text)

/-! ### Appending -/

/-- Appending changes one file, at its end, and nothing else. -/
theorem content?_append (tree : FileTree) (place : Path) (added : String) (path : Path) :
    (tree.append place added).content? path =
      (tree.content? path).map fun content =>
        if path = place then content ++ added else content := by
  unfold content? entry?
  by_cases hroot : path.isUpward ∨ path = [Path.top]
  · simp [hroot]
  · simp only [hroot, if_false, append]
    induction tree.entries with
    | nil => rfl
    | cons pair rest ih =>
      obtain ⟨path', entry⟩ := pair
      by_cases hpath : path' = path
      · subst hpath
        cases entry <;> simp
      · cases entry <;> simpa [hpath] using ih

end FileTree

end Telemetry
