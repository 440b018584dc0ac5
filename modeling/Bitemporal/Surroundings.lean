import Bitemporal.Error
import Bitemporal.OrderedMap
import Bitemporal.Path

/-!
# The surroundings of a program

The environment variables, the users, the text files and the directories that a program finds.
-/

namespace Bitemporal

structure Surroundings where
  environment : OrderedMap String
  /-- The working directory, an absolute path. -/
  directory : String
  /-- Texts under the parts of the absolute paths of their files. -/
  files : List (List String × String)
  /-- The parts of the absolute paths of directories. Those that hold files need not be listed. -/
  directories : List (List String) := []
  /-- Users and their home directories. The user without a name is the one at work. -/
  homes : List (String × String) := []

inductive FileEntry where
  | text (s : String)
  | directory

namespace Surroundings

def valueOf? (s : Surroundings) (name : String) : Option String := s.environment.get? name

def setVariable (s : Surroundings) (name value : String) : Surroundings :=
  { s with environment := s.environment.insert name value }

def unsetVariable (s : Surroundings) (name : String) : Surroundings :=
  { s with environment := s.environment.erase name }

/-- The home directory of a user. For the user at work the environment may tell another one. -/
def homeOf? (s : Surroundings) (user : String) : Option String :=
  if user = "" then (s.valueOf? "HOME").or (s.homes.lookup user) else s.homes.lookup user

def expand (s : Surroundings) (path : String) : Except Error String :=
  match Path.expand? s.homeOf? path with
  | some path => .ok path
  | none => .error .homeUnknown

def absolute (s : Surroundings) (path : String) : List String :=
  if Path.isAbsolute path then Path.parts path else Path.parts s.directory ++ Path.parts path

def isDirectory (s : Surroundings) (parts : List String) : Bool :=
  (Path.parts s.directory :: s.directories ++ s.files.map fun file => file.1.dropLast).any
    parts.isPrefixOf

def partLimit : Nat := 255

def pathLimit : Nat := 4095

/-- The parts that are reached by following `parts` from `above`, where two dots lead back. -/
def follow (s : Surroundings) (above : List String) :
    List String → Except Error (Option (List String))
  | [] => .ok (some above)
  | part :: rest =>
    if !s.isDirectory above then .ok none
    else if part = ".." then s.follow above.dropLast rest
    else if partLimit < part.utf8ByteSize then .error .pathTooLong
    else s.follow (above ++ [part]) rest

def entry (s : Surroundings) (path : String) : Except Error (Option FileEntry) :=
  if pathLimit < path.utf8ByteSize then .error .pathTooLong
  else do
    match ← s.follow [] (s.absolute path) with
    | none => return none
    | some parts =>
      match s.files.lookup parts with
      | some text => return some (.text text)
      | none => return if s.isDirectory parts then some .directory else none

/-- Whether a path leads to anything. No path holds a null character. -/
def pathExists (s : Surroundings) (path : String) : Except Error Bool :=
  if path.toList.contains '\x00' then .ok false
  else (s.entry path).map Option.isSome

def unifiedBreaks : List Char → List Char
  | '\r' :: '\n' :: rest => '\n' :: unifiedBreaks rest
  | '\r' :: rest => '\n' :: unifiedBreaks rest
  | c :: rest => c :: unifiedBreaks rest
  | [] => []

def write (s : Surroundings) (path text : String) : Surroundings :=
  let parts := s.absolute path
  { s with files := (parts, text) :: s.files.filter fun file => file.1 ≠ parts }

end Surroundings

end Bitemporal
