import UrlRouting.Text.Splitting

/-!
# Folders

Files in a folder by their relative paths, and what reading a path in it gives: the text of a file,
or the reason why there is none to be read.
-/

namespace UrlRouting.CommandLine

open Text

/-- A folder: the relative paths of its files and their texts. -/
structure Folder where
  /-- The files. -/
  files : List (String × String)

namespace Folder

/-- The reason why a path that leads nowhere cannot be read. -/
def missing : String := "No such file or directory (os error 2)"

/-- The reason why nothing can be found below a file. -/
def notAFolder : String := "Not a directory (os error 20)"

/-- The reason why a folder cannot be read. -/
def isAFolder : String := "Is a directory (os error 21)"

/-- The names that a path leads through. -/
def components (path : String) : List String :=
  ((splitAt (· == '/') path.toList).filter fun part => part != [] && part != ['.']).map
    String.ofList

/-- The text of the file that names lead to. -/
def text? (f : Folder) (names : List String) : Option String :=
  (f.files.reverse.find? fun file => components file.1 == names).map Prod.snd

/-- Whether names lead to a folder. -/
def hasFolder (f : Folder) (names : List String) : Bool :=
  names.isEmpty || f.files.any fun file =>
    names.isPrefixOf (components file.1) && names != components file.1

/-- Follows names from a place in the folder, and reads what they lead to. `mustBeFolder` says that
the path ends with a slash. -/
def follow (f : Folder) (mustBeFolder : Bool) (place : List String) :
    List String → Except String String
  | [] =>
    match f.text? place with
    | some text => if mustBeFolder then .error notAFolder else .ok text
    | none => if f.hasFolder place then .error isAFolder else .error missing
  | name :: rest =>
    if (f.text? place).isSome then .error notAFolder
    else if !f.hasFolder place then .error missing
    else if name = ".." then
      if place.isEmpty then .error missing else follow f mustBeFolder place.dropLast rest
    else follow f mustBeFolder (place ++ [name]) rest

/-- Reads a path in the folder. -/
def read (f : Folder) (path : String) : Except String String :=
  let endsOpen := match path.toList.reverse with
    | '/' :: _ => true
    | '.' :: '/' :: _ => true
    | _ => false
  match path.toList with
  | '/' :: _ => .error missing
  | _ => f.follow endsOpen [] (components path)

end Folder

end UrlRouting.CommandLine
