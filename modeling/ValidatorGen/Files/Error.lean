/-!
# Errors of the file system

## Main definitions

* `Error` — why an operation on files fails
* `Error.message` — the reason, in words
* `Error.ofCode` — the error with a given number
-/

namespace ValidatorGen.Files

/-- Why an operation on files fails. -/
inductive Error where
  /-- There is nothing at the path. -/
  | notFound
  /-- A part of the path that must be a directory is something else. -/
  | notDirectory
  /-- The path leads to a directory where a file is wanted. -/
  | isDirectory
  /-- There is something at the path already. -/
  | alreadyExists
  /-- The path leads to a directory that is in use. -/
  | busy
  /-- A name in the path is too long. -/
  | nameTooLong
  /-- The path holds a byte that no path may hold. -/
  | invalidPath
  /-- What is asked for makes no sense. -/
  | invalidArgument
  /-- Any other failure, with its number and its description. -/
  | other (code : Nat) (description : String)
deriving DecidableEq

/-- A description followed by the number of the failure. -/
def numbered (description : String) (code : Nat) : String :=
  description ++ " (os error " ++ toString code ++ ")"

/-- The reason, in words. -/
def Error.message : Error → String
  | .notFound => numbered "No such file or directory" 2
  | .notDirectory => numbered "Not a directory" 20
  | .isDirectory => numbered "Is a directory" 21
  | .alreadyExists => numbered "File exists" 17
  | .busy => numbered "Device or resource busy" 16
  | .nameTooLong => numbered "File name too long" 36
  | .invalidPath => "file name contained an unexpected NUL byte"
  | .invalidArgument => numbered "Invalid argument" 22
  | .other code description => numbered description code

/-- The error with a given number and description. -/
def Error.ofCode (code : Nat) (description : String) : Error :=
  match code with
  | 2 => .notFound
  | 16 => .busy
  | 17 => .alreadyExists
  | 20 => .notDirectory
  | 21 => .isDirectory
  | 22 => .invalidArgument
  | 36 => .nameTooLong
  | _ => .other code description

end ValidatorGen.Files
