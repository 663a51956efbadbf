/-! What is asked of a file system, and what can go wrong. -/

namespace AliasSync

inductive FileError where
  | notFound
  | notADirectory
  | isADirectory
  | permissionDenied
  | invalidUtf8
  | invalidPath
  | nameTooLong
  deriving DecidableEq, Repr

def FileError.message : FileError → String
  | notFound => "No such file or directory (os error 2)"
  | notADirectory => "Not a directory (os error 20)"
  | isADirectory => "Is a directory (os error 21)"
  | permissionDenied => "Permission denied (os error 13)"
  | invalidUtf8 => "stream did not contain valid UTF-8"
  | invalidPath => "file name contained an unexpected NUL byte"
  | nameTooLong => "File name too long (os error 36)"

inductive FileKind where
  | regular
  | other
  deriving DecidableEq, Repr

structure Files where
  kind : String → Except FileError FileKind
  readText : String → Except FileError String

end AliasSync
