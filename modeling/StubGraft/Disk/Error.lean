import StubGraft.Text.Quoted

/-!
# Errors of a disk

Why an operation on a disk fails.  An operation that fails has changed nothing.
-/

namespace StubGraft

/-- Why the system refuses an operation. -/
inductive Errno where
  /-- Nothing stands there. -/
  | noEntry
  /-- Something is in use. -/
  | busy
  /-- Something stands there already. -/
  | alreadyExists
  /-- A file stands where a directory is needed. -/
  | notDirectory
  /-- A directory stands where a file is needed. -/
  | isDirectory
  /-- A name or a path has too many bytes. -/
  | nameTooLong
  deriving DecidableEq, Repr

/-- The number of a reason. -/
def Errno.code : Errno → Nat
  | .noEntry => 2
  | .busy => 16
  | .alreadyExists => 17
  | .notDirectory => 20
  | .isDirectory => 21
  | .nameTooLong => 36

/-- The wording of a reason. -/
def Errno.text : Errno → String
  | .noEntry => "No such file or directory"
  | .busy => "Device or resource busy"
  | .alreadyExists => "File exists"
  | .notDirectory => "Not a directory"
  | .isDirectory => "Is a directory"
  | .nameTooLong => "File name too long"

/-- An operation that the system refused. -/
structure SystemError where
  /-- The reason. -/
  errno : Errno
  /-- The path that the operation was given. -/
  path : Text
  /-- The second path, of an operation with two. -/
  target : Option Text
  deriving DecidableEq, Repr

/-- The wording of a refusal. -/
def SystemError.message (e : SystemError) : String :=
  let place :=
    "[Errno " ++ toString e.errno.code ++ "] " ++ e.errno.text ++ ": " ++ e.path.quoted.toStr
  match e.target with
  | none => place
  | some target => place ++ " -> " ++ target.quoted.toStr

/-- Why an operation on a disk fails. -/
inductive DiskFault where
  /-- The path holds a null character. -/
  | nullCharacter
  /-- The system refused it. -/
  | system (e : SystemError)
  deriving DecidableEq, Repr

/-- The wording for a path with a null character. -/
def nullCharacterMessage : String := "embedded null byte"

end StubGraft
