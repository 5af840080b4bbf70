/-!
# File Errors

Why an operation on files fails.

## Main definitions

* `FileError`: The causes.
* `FileError.message`: Their wording.
-/

namespace ClassForge

namespace Files

/-- Why an operation on files fails. -/
inductive FileError where
  /-- A store has no such directory. -/
  | missingDirectory (path : String)
  /-- There is no entry with that name. -/
  | notFound
  /-- There already is an entry with that name. -/
  | alreadyExists
  /-- What should be a directory is not one. -/
  | notADirectory
  /-- What should be a file is a directory. -/
  | isADirectory
  /-- A name is longer than names may be. -/
  | nameTooLong
  /-- A name holds a character that ends names. -/
  | nulInName
  deriving DecidableEq

/-- The wording of why an operation on files fails. -/
def FileError.message : FileError → String
  | .missingDirectory path => "directory '" ++ path ++ "' does not exist"
  | .notFound => "No such file or directory (os error 2)"
  | .alreadyExists => "File exists (os error 17)"
  | .notADirectory => "Not a directory (os error 20)"
  | .isADirectory => "Is a directory (os error 21)"
  | .nameTooLong => "File name too long (os error 36)"
  | .nulInName => "file name contained an unexpected NUL byte"

end Files

end ClassForge
