namespace DocShape

/-! What can be seen of stored files.

A storage is a snapshot: a path leads to the same content each time it is opened.
-/

/-- Why a path cannot be opened, listed or read as text. -/
inductive StorageFault where
  | missing
  | denied
  | invalidPath
  | notDirectory
  | isDirectory
  | nameTooLong
  | tooManyLinks
  | notText
  | other (reason : String)
deriving Repr, DecidableEq

namespace StorageFault

def message : StorageFault → String
  | .missing => "No such file or directory (os error 2)"
  | .denied => "Permission denied (os error 13)"
  | .invalidPath => "Invalid argument (os error 22)"
  | .notDirectory => "Not a directory (os error 20)"
  | .isDirectory => "Is a directory (os error 21)"
  | .nameTooLong => "File name too long (os error 36)"
  | .tooManyLinks => "Too many levels of symbolic links (os error 40)"
  | .notText => "stream did not contain valid UTF-8"
  | .other reason => reason

end StorageFault

/-- What a path leads to when links are followed. -/
inductive Stored where
  | file (content : ByteArray)
  | directory

namespace Stored

/-- The size that storage reports for every directory. -/
def directorySize : Nat := 4096

def size : Stored → Nat
  | .file content => content.size
  | .directory => directorySize

def text : Stored → Except StorageFault String
  | .file content =>
      match String.fromUTF8? content with
      | some found => .ok found
      | none => .error .notText
  | .directory => .error .isDirectory

end Stored

/-- What a directory holds under a name; links are not followed. -/
inductive StoredItem where
  | file (content : ByteArray)
  | directory
  | link (target : String)

structure Storage where
  find : String → Except StorageFault Stored
  /-- The items of a directory, in no particular order. -/
  list : String → Except StorageFault (List (String × StoredItem))

namespace Storage

def text (storage : Storage) (path : String) : Except StorageFault String := do
  (← storage.find path).text

end Storage
end DocShape
