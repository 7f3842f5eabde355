import FipsAudit.FileSystem.Resolve

/-!
# `FipsAudit.FileSystem.Walk` — everything under a directory

A walk visits a root and all that is below it: a directory before its entries, the entries in the order in which
the directory lists them. Symbolic links are visited and not followed, except that a root which is a link to a
directory is walked like the directory. In place of the entries of a directory that cannot be opened there is one
failure, and the walk goes on behind it.

* `WalkItem` — an entry that was visited, or a failure.
* `FileSystem.walk` — the items of a walk.
-/

namespace FipsAudit

/-- A failure of a walk. -/
structure WalkError where
  /-- Where it failed. -/
  path : Path
  /-- The system's reason. -/
  cause : IoError
deriving DecidableEq, Repr

/-- The wording of a failure. -/
def WalkError.message (e : WalkError) : String := s!"IO error for operation on {e.path.text}: {e.cause.message}"

/-- An entry that a walk visits. -/
structure WalkEntry where
  /-- Its path, which begins with the path of the root. -/
  path : Path
  /-- What is there. -/
  node : Node

/-- One step of a walk. -/
abbrev WalkItem := Except WalkError WalkEntry

namespace FileSystem

/-- The items below directory `d`, as paths that begin with `path`; at most `levels` levels of them. -/
def descend (fs : FileSystem) : (levels : Nat) → (d : Location) → (path : Path) → List WalkItem
  | 0, _, _ => []
  | levels + 1, d, path =>
    match fs.listing d with
    | .error cause => [.error ⟨path, cause⟩]
    | .ok children =>
      children.flatMap fun (name, node) =>
        let inner := path.join ⟨name⟩
        .ok ⟨inner, node⟩ :: if node.isDirectory then fs.descend levels (d ++ [name]) inner else []

/-- The number of names on the way to the deepest entry. -/
def depth (fs : FileSystem) : Nat := fs.entries.foldl (fun n e => max n e.1.length) 0

/-- The items of a walk from `root`. -/
def walk (fs : FileSystem) (root : Path) : List WalkItem :=
  match fs.linkStatus root with
  | .error e => [.error ⟨root, e⟩]
  | .ok node =>
    let first : WalkItem := .ok ⟨root, node⟩
    if node.isFile then [first]
    else
      -- A root that is a link is walked like what it leads to.
      match fs.resolve true root with
      | .error e => [.error ⟨root, e⟩]
      -- One level more than the tree is deep, for the deepest directory is opened, too.
      | .ok (l, .directory) => first :: fs.descend (fs.depth + 1) l root
      | .ok _ => [first]

end FileSystem

end FipsAudit
