import AccountManager.Json.Error

/-!
# Why storage fails

A blob store fails because the system refused a call or for a reason of its own; reading the stored
document fails because it is no document, holds no version or holds one that is not understood.
-/

namespace AccountManager.Storage

/-- The refusals of the file system that a store can meet. -/
inductive SystemError
  | noSuchFile
  | busy
  | fileExists
  | notDirectory
  | isDirectory
  | nameTooLong
  | badName
  deriving Repr, DecidableEq

def SystemError.message : SystemError → String
  | .noSuchFile => "No such file or directory (os error 2)"
  | .busy => "Device or resource busy (os error 16)"
  | .fileExists => "File exists (os error 17)"
  | .notDirectory => "Not a directory (os error 20)"
  | .isDirectory => "Is a directory (os error 21)"
  | .nameTooLong => "File name too long (os error 36)"
  | .badName => "file name contained an unexpected NUL byte"

inductive BlobError
  | system (error : SystemError)
  | other (reason : String)
  deriving Repr, DecidableEq

def BlobError.message : BlobError → String
  | .system error => error.message
  | .other reason => reason

inductive StorageError
  | blob (error : BlobError)
  | malformed (error : Json.Error)
  | noVersion
  | unsupportedVersion (version : Nat)
  deriving Repr, DecidableEq

def StorageError.message : StorageError → String
  | .blob error => "blob store error: " ++ error.message
  | .malformed error => "serialization error: " ++ error.message
  | .noVersion => "serialization error: envelope has no version"
  | .unsupportedVersion version => "unsupported envelope version: " ++ toString version

end AccountManager.Storage
