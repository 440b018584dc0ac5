import Bitemporal.Text.Halves

/-!
# File paths

A path is a list of parts separated by slashes; one that starts with a slash is absolute. Empty
parts and parts of a single dot say nothing and are dropped when a path is normalised.
-/

namespace Bitemporal.Path

/-- Whether a path can be written in bytes. Some halves of surrogate pairs stand for single bytes. -/
def isEncodable (path : String) : Bool :=
  (Text.points path.toList).all fun
    | .char _ => true
    | .half n => 0xdc80 ≤ Text.firstHalf + n && Text.firstHalf + n ≤ 0xdcff

def pieces (path : String) : List String :=
  (path.toList.splitOn '/').map String.ofList

def parts (path : String) : List String :=
  (pieces path).filter fun part => part ≠ "" && part ≠ "."

/-- The slashes that an absolute path starts with: two stay two, and more are as good as one. -/
def root (path : String) : String :=
  match (path.toList.takeWhile (· = '/')).length with
  | 0 => ""
  | 2 => "//"
  | _ => "/"

def isAbsolute (path : String) : Bool := root path ≠ ""

def ofParts (root : String) (parts : List String) : String :=
  if root = "" ∧ parts = [] then "." else root ++ "/".intercalate parts

def normal (path : String) : String := ofParts (root path) (parts path)

def join (path : String) (below : List String) : String :=
  ofParts (root path) (parts path ++ below)

/-- A home directory as the start of a path: without the slashes at its end. -/
def homeForm (home : String) : String :=
  match (home.toList.reverse.dropWhile (· = '/')).reverse with
  | [] => "/"
  | cs => String.ofList cs

/-- The normalised path with a home directory in place of a first part that starts with a tilde: the
one of the user whose name follows the tilde. Nothing is returned where there is no such directory,
or where it starts with a tilde itself. -/
def expand? (homeOf? : String → Option String) (path : String) : Option String :=
  match root path, parts path with
  | "", first :: rest =>
    match first.toList with
    | '~' :: user => do
      let home := homeForm (← homeOf? (String.ofList user))
      if home.startsWith "~" then none else some (join home rest)
    | _ => some (normal path)
  | _, _ => some (normal path)

end Bitemporal.Path
