/-!
# Files as a value

What the commands need of a file system: a path either names a readable text or there is one reason
why not. `FileTree.readText` answers that for a tree of files given as a value; paths are relative to
its top.
-/

namespace TableOptions

/-- Why a path cannot be read as text. -/
inductive FileError where
  | notFound
  | notADirectory
  | isADirectory
  | nameTooLong
  | nulInPath
  | notUtf8
  | other (message : String)
deriving DecidableEq

/-- The wording of a failure. -/
def FileError.message : FileError → String
  | notFound => "No such file or directory (os error 2)"
  | notADirectory => "Not a directory (os error 20)"
  | isADirectory => "Is a directory (os error 21)"
  | nameTooLong => "File name too long (os error 36)"
  | nulInPath => "file name contained an unexpected NUL byte"
  | notUtf8 => "stream did not contain valid UTF-8"
  | other message => message

/-- How texts are read: by path, with a reason where there is none. -/
abbrev TextSource := String → Except FileError String

/-- Files by the names on the way to them. -/
structure FileTree where
  files : List (List String × ByteArray)

namespace FileTree

/-- The content of a file. -/
def file? (tree : FileTree) (place : List String) : Option ByteArray :=
  tree.files.lookup place

/-- Whether a place is a directory: the top, or one with a file below it. -/
def isDirectory (tree : FileTree) (place : List String) : Bool :=
  place.isEmpty || tree.files.any fun f => place.isPrefixOf f.1 && f.1 != place

/-- What reading meets that has left the tree upwards: only directories on the way up are known. -/
def outside : List String → FileError
  | [] => .isADirectory
  | name :: rest =>
    if name == ".." then outside rest
    else if 255 < name.utf8ByteSize then .nameTooLong
    else .notFound

/-- Follows names from a directory. -/
def follow (tree : FileTree) (place : List String) : List String → Except FileError (List String)
  | [] => .ok place
  | name :: rest =>
    if !tree.isDirectory place then
      .error (if (tree.file? place).isSome then .notADirectory else .notFound)
    else if name == ".." then
      if place.isEmpty then .error (outside rest)
      else tree.follow place.dropLast rest
    else if 255 < name.utf8ByteSize then .error .nameTooLong
    else tree.follow (place ++ [name]) rest

/-- The names of a path: what stands between its slashes, except for nothing and a dot. -/
def namesOf (path : String) : List String :=
  (path.splitOn "/").filter fun name => name != "" && name != "."

/-- Whether a path can only name a directory by its last part. -/
def endsAsDirectory (path : String) : Bool :=
  match (path.splitOn "/").reverse with
  | "" :: _ => true
  | "." :: _ => true
  | _ => false

/-- Reads the text at a path. -/
def readText (tree : FileTree) : TextSource := fun path =>
  if path.contains '\x00' then .error .nulInPath
  else if path == "" then .error .notFound
  else if 4096 ≤ path.utf8ByteSize then .error .nameTooLong
  else if path.startsWith "/" then
    .error (outside (namesOf path))
  else
    match tree.follow [] (namesOf path) with
    | .error e => .error e
    | .ok place =>
      match tree.file? place with
      | some content =>
        if endsAsDirectory path then .error .notADirectory
        else
          match String.fromUTF8? content with
          | some text => .ok text
          | none => .error .notUtf8
      | none => .error (if tree.isDirectory place then .isADirectory else .notFound)

end FileTree

end TableOptions
