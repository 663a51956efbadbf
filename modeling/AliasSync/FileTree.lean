import AliasSync.Files
import AliasSync.Text.Utf8

/-! A file system held in memory: files of any content at absolute paths. Every place above a file is
a directory. -/

namespace AliasSync

inductive FileNode (φ : Type) where
  | file (content : φ)
  | directory

/-- Places are lists of names from the root on. -/
structure FileTree (φ : Type) where
  nodes : List (List String × FileNode φ)

namespace FileTree

variable {φ : Type}

def empty : FileTree φ := ⟨[]⟩

/-- What is at a place, which may be a directory because something lies below it. -/
def node? (tree : FileTree φ) (place : List String) : Option (FileNode φ) :=
  match tree.nodes.find? (·.1 == place) with
  | some (_, node) => some node
  | none =>
    if place.isEmpty || tree.nodes.any (fun (other, _) => place.isPrefixOf other) then
      some .directory
    else none

def remove (tree : FileTree φ) (place : List String) : FileTree φ :=
  ⟨tree.nodes.filter fun (other, _) => !place.isPrefixOf other⟩

def insert (tree : FileTree φ) (place : List String) (node : FileNode φ) : FileTree φ :=
  ⟨(tree.remove place).nodes ++ [(place, node)]⟩

/-- The names in a path. The empty name stands for the place itself, as a dot does. -/
def names (path : String) : List String := (path.toList.splitOn '/').map String.ofList

def nameLimit : Nat := 255

def pathLimit : Nat := 4095

/-- Follows names from a place. Whatever is passed through must be a directory. -/
def follow (tree : FileTree φ) (place : List String) : List String → Except FileError (FileNode φ)
  | [] =>
    match tree.node? place with
    | some node => .ok node
    | none => .error .notFound
  | name :: rest =>
    match tree.node? place with
    | none => .error .notFound
    | some (.file _) => .error .notADirectory
    | some .directory =>
      if name == "" || name == "." then tree.follow place rest
      else if name == ".." then tree.follow place.dropLast rest
      else if nameLimit < name.utf8ByteSize then .error .nameTooLong
      else tree.follow (place ++ [name]) rest

def lookup (tree : FileTree φ) (directory : List String) (path : String) :
    Except FileError (FileNode φ) :=
  if path.isEmpty then .error .notFound
  else if '\x00' ∈ path.toList then .error .invalidPath
  else if pathLimit < path.utf8ByteSize then .error .nameTooLong
  else tree.follow (if path.toList.head? = some '/' then [] else directory) (names path)

def files (tree : FileTree (List UInt8)) (directory : List String) : Files where
  kind path := (tree.lookup directory path).map fun
    | .file _ => .regular
    | .directory => .other
  readText path :=
    match tree.lookup directory path with
    | .error cause => .error cause
    | .ok .directory => .error .isADirectory
    | .ok (.file bytes) =>
      match Text.decode? bytes with
      | some text => .ok (String.ofList text)
      | none => .error .invalidUtf8

end FileTree

end AliasSync
