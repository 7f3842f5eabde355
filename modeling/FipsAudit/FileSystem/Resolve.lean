import FipsAudit.FileSystem.Basic

/-!
# `FipsAudit.FileSystem.Resolve` — from paths to entries

A path is followed name by name. Symbolic links on the way are followed too, forty of them at most; the one at the
end of a path is followed or not, as the operation says. A trailing slash asks for a directory.

* `FileSystem.resolve` — the location and node that a path leads to.
* `FileSystem.opened`, `read`, `status`, `linkStatus`, `canonical`, `list` — the operations on paths.
* `FileSystem.create` — a file, directory or link made, with the directories above it.
-/

namespace FipsAudit.FileSystem

/-- How many symbolic links a path may pass through. -/
def maxLinks : Nat := 40

/-- The longest name of an entry. -/
def maxName : Nat := 255

/-- The least length that a path may not have. -/
def maxPath : Nat := 4096

/-- The names to follow for a path: empty parts are left out, and a trailing slash stands for a last dot. -/
def steps (p : Path) : List Name :=
  let parts := Text.pieces Path.slash p.bytes
  parts.filter (· ≠ []) ++ if parts.getLast? = some [] then [[Path.dot]] else []

/-- Where a path starts. -/
def origin (cwd : Location) (p : Path) : Location := if p.isAbsolute then [] else cwd

/-- Follows `todo` from directory `here`, with `links` more symbolic links allowed. -/
def follow (fs : FileSystem) (last : Bool) (links : Nat) (here : Location) (todo : List Name) :
    Except IoError (Location × Node) :=
  match todo with
  | [] => .ok (here, .directory)
  | name :: rest =>
    if name = [Path.dot] then follow fs last links here rest
    else if name = [Path.dot, Path.dot] then follow fs last links here.dropLast rest
    else if name.length > maxName then .error .nameTooLong
    else
      match fs.node? (here ++ [name]) with
      | none => .error .notFound
      | some .directory => follow fs last links (here ++ [name]) rest
      | some (.file mode content) =>
        if rest.isEmpty then .ok (here ++ [name], .file mode content) else .error .notDirectory
      | some (.link target) =>
        if rest.isEmpty && !last then .ok (here ++ [name], .link target)
        else
          match links with
          | 0 => .error .tooManyLinks
          | links + 1 =>
            if target.bytes.isEmpty then .error .notFound
            -- The names of the target stand in place of the link.
            else follow fs last links (origin here target) (steps target ++ rest)
termination_by (links, todo.length)

/-- What a path leads to; `last` says whether a symbolic link at its end is followed. -/
def resolve (fs : FileSystem) (last : Bool) (p : Path) : Except IoError (Location × Node) :=
  if 0 ∈ p.bytes then .error .zeroInName
  else if p.bytes.isEmpty then .error .notFound
  else if p.bytes.length ≥ maxPath then .error .nameTooLong
  else fs.follow last maxLinks (origin fs.workingDirectory p) (steps p)

/-! ## Operations -/

/-- The path of a location. -/
def pathOf (l : Location) : Path := ⟨Path.slash :: Text.unpieces Path.slash l⟩

/-- The node that a path leads to. -/
def status (fs : FileSystem) (p : Path) : Except IoError Node := (fs.resolve true p).map (·.2)

/-- The node that a path names, perhaps a symbolic link. -/
def linkStatus (fs : FileSystem) (p : Path) : Except IoError Node := (fs.resolve false p).map (·.2)

/-- What a path leads to, opened for reading. -/
def opened (fs : FileSystem) (p : Path) : Except IoError (Location × Node) :=
  match fs.resolve true p with
  | .error e => .error e
  | .ok (l, node) =>
    match fs.unopened l with
    | some e => .error e
    | none => .ok (l, node)

/-- The content of the file that a path leads to. A directory can be opened, but not read. -/
def read (fs : FileSystem) (p : Path) : Except IoError ByteArray :=
  match fs.opened p with
  | .error e => .error e
  | .ok (l, .file _ content) =>
    match fs.unread l with
    | some e => .error e
    | none => .ok content
  | .ok _ => .error .isDirectory

/-- The path without dots and symbolic links to where a path leads. -/
def canonical (fs : FileSystem) (p : Path) : Except IoError Path := (fs.resolve true p).map (pathOf ·.1)

/-- The entries of the directory that a path leads to. -/
def list (fs : FileSystem) (p : Path) : Except IoError (List (Name × Node)) :=
  match fs.resolve true p with
  | .error e => .error e
  | .ok (l, .directory) => fs.listing l
  | .ok _ => .error .notDirectory

/-- Whether a path leads to a regular file. -/
def isFile (fs : FileSystem) (p : Path) : Bool := (fs.status p).toOption.any Node.isFile

/-- Whether a path leads to a directory. -/
def isDirectory (fs : FileSystem) (p : Path) : Bool := (fs.status p).toOption.any Node.isDirectory

/-- The path of the working directory. -/
def currentDirectory (fs : FileSystem) : Path := pathOf fs.workingDirectory

/-! ## Making entries -/

/-- The directory that `todo` leads to from `here`, with missing directories made. -/
def makeDirectories (fs : FileSystem) (here : Location) : List Name → FileSystem × Location
  | [] => (fs, here)
  | name :: rest =>
    if name = [Path.dot] then fs.makeDirectories here rest
    else if name = [Path.dot, Path.dot] then fs.makeDirectories here.dropLast rest
    else
      match fs.follow true maxLinks here [name] with
      | .ok (l, .directory) => fs.makeDirectories l rest
      | .ok (l, _) => (fs, l)
      | .error _ => (fs.put (here ++ [name]) .directory).makeDirectories (here ++ [name]) rest

/-- The tree with `n` at path `p`, and with the directories above it. A link at `p` to an existing file is
    followed when a file is written. -/
def create (fs : FileSystem) (p : Path) (n : Node) : FileSystem :=
  let names := steps p
  let start := origin fs.workingDirectory p
  match n, names.getLast? with
  | .directory, _ => (fs.makeDirectories start names).1
  | _, none => fs
  | n, some name =>
    let (fs, directory) := fs.makeDirectories start names.dropLast
    match n, fs.follow true maxLinks directory [name] with
    | .file _ _, .ok (l, .file _ _) => fs.put l n
    | _, _ => fs.put (directory ++ [name]) n

end FipsAudit.FileSystem
