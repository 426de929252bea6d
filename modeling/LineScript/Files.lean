import LineScript.KeyMap

/-!
**Files.**

A tree of text files, each under its path from the root of the tree.  A path that is looked up may
have empty parts, `.` and `..` in it.

Main definitions:

* `LineScript.FileError` — why a file cannot be read;
* `LineScript.FileTree` — text files by path;
* `LineScript.FileTree.read` — **the text of a file**;
* `LineScript.Path.stem?` — the name of a file without its extension.
-/

set_option autoImplicit false

namespace LineScript

namespace Path

/-- The parts of a path between slashes. -/
def parts (path : String) : List String :=
  let (last, before) := path.toList.foldr
    (fun c (part, parts) =>
      if c = '/' then ([], String.ofList part :: parts) else (c :: part, parts))
    (([], []) : List Char × List String)
  .ofList last :: before

/-- The name of the file a path leads to. -/
def fileName? (path : String) : Option String :=
  match (parts path).reverse.find? fun part => part != "" && part != "." with
  | some ".." => none
  | name? => name?

/-- The name of the file a path leads to, without its extension: what stands before the last dot,
unless nothing does. -/
def stem? (path : String) : Option String :=
  (fileName? path).map fun name =>
    match name.toList.reverse.dropWhile (· != '.') with
    | [] | [_] => name
    | _ :: before => .ofList before.reverse

end Path

/-- Why a file cannot be read. -/
inductive FileError where
  | notFound
  | isDirectory
  | notDirectory
  /-- a reason in the words of whoever tried -/
  | other (reason : String)
deriving DecidableEq

/-- What is said about a file that cannot be read. -/
def FileError.message : FileError → String
  | notFound => "No such file or directory (os error 2)"
  | isDirectory => "Is a directory (os error 21)"
  | notDirectory => "Not a directory (os error 20)"
  | other reason => reason

/-- Text files by path from the root of the tree. -/
structure FileTree where
  files : KeyMap String := .empty

namespace FileTree

/-- A path that is made of parts. -/
def join (parts : List String) : String := "/".intercalate parts

/-- Some file lies below the parts. -/
def hasBelow (t : FileTree) (parts : List String) : Bool :=
  parts.isEmpty || !(t.files.span (join parts ++ "/")).isEmpty

/-- Follows the parts of a path from a directory; `here` holds the parts that lead to it, the last
one first. -/
def follow (t : FileTree) (here : List String) : List String → Except FileError String
  | [] => .error .isDirectory
  | part :: rest =>
    if part = "" || part = "." then t.follow here rest
    else if part = ".." then
      match here with
      | [] => .error .notFound
      | _ :: above => t.follow above rest
    else
      let inside := part :: here
      match t.files.get? (join inside.reverse) with
      | some text => if rest.isEmpty then .ok text else .error .notDirectory
      | none => if t.hasBelow inside.reverse then t.follow inside rest else .error .notFound

/-- **The text of a file.** -/
def read (t : FileTree) (path : String) : Except FileError String :=
  match path.toList with
  | [] | '/' :: _ => .error .notFound
  | _ => t.follow [] (Path.parts path)

end FileTree

end LineScript
