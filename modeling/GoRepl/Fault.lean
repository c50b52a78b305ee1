import GoRepl.Text.Basic

/-! # Faults

Why the system refused to read, write or start something. -/

namespace GoRepl

inductive Fault where
  | notFound
  | permissionDenied
  | alreadyExists
  | notDirectory
  | isDirectory
  | notEmpty
  | notPermitted
  | noSpace
  | noDevice
  | nameTooLong
  /-- A file that is to be started is neither a command nor a script that names one. -/
  | notExecutable
  /-- Links lead to links, or scripts are read by scripts, without an end. -/
  | tooManyLinks
  /-- A path holds the character that ends paths inside the system. -/
  | nulInPath
  | nulInArgument
  | invalidText
  /-- Any other fault, in the words of the system. -/
  | other (text : Text)
deriving DecidableEq, Repr

def Fault.message : Fault → Text
  | .notFound => "No such file or directory (os error 2)".toList
  | .permissionDenied => "Permission denied (os error 13)".toList
  | .alreadyExists => "File exists (os error 17)".toList
  | .notDirectory => "Not a directory (os error 20)".toList
  | .isDirectory => "Is a directory (os error 21)".toList
  | .notEmpty => "Directory not empty (os error 39)".toList
  | .notPermitted => "Operation not permitted (os error 1)".toList
  | .noSpace => "No space left on device (os error 28)".toList
  | .noDevice => "No such device or address (os error 6)".toList
  | .nameTooLong => "File name too long (os error 36)".toList
  | .notExecutable => "Exec format error (os error 8)".toList
  | .tooManyLinks => "Too many levels of symbolic links (os error 40)".toList
  | .nulInPath => "file name contained an unexpected NUL byte".toList
  | .nulInArgument => "nul byte found in provided data".toList
  | .invalidText => "stream did not contain valid UTF-8".toList
  | .other text => text

end GoRepl
