set_option autoImplicit false

/-! # Failures of a file system

Why an operation on files is refused. A failure is told with a number beside the text. -/

namespace Flowchart

/-- Why a file system refuses an operation. -/
inductive FileError where
  | notFound
  | badFormat
  | permissionDenied
  | busy
  | alreadyExists
  | notDirectory
  | isDirectory
  | invalid
  | inUse
  | nameTooLong
  | notEmpty
  | tooManyLevels
  /-- The path holds a character that ends every path. -/
  | endInside
deriving DecidableEq

namespace FileError

/-- A failure in words. -/
def text : FileError → String
  | .notFound => "No such file or directory"
  | .badFormat => "Exec format error"
  | .permissionDenied => "Permission denied"
  | .busy => "Device or resource busy"
  | .alreadyExists => "File exists"
  | .notDirectory => "Not a directory"
  | .isDirectory => "Is a directory"
  | .invalid => "Invalid argument"
  | .inUse => "Text file busy"
  | .nameTooLong => "File name too long"
  | .notEmpty => "Directory not empty"
  | .tooManyLevels => "Too many levels of symbolic links"
  | .endInside => "file name contained an unexpected NUL byte"

/-- The number of a failure, if it has one. -/
def number? : FileError → Option Nat
  | .notFound => some 2
  | .badFormat => some 8
  | .permissionDenied => some 13
  | .busy => some 16
  | .alreadyExists => some 17
  | .notDirectory => some 20
  | .isDirectory => some 21
  | .invalid => some 22
  | .inUse => some 26
  | .nameTooLong => some 36
  | .notEmpty => some 39
  | .tooManyLevels => some 40
  | .endInside => none

/-- A failure in words with its number. -/
def message (e : FileError) : String :=
  match e.number? with
  | some n => s!"{e.text} (os error {n})"
  | none => e.text

end FileError

end Flowchart
