/-
The programs of `ResourceUploadFile.cpp`: reading, writing, cutting back and
publishing the `.part` file of an upload, on POSIX.

The `received` counter that the C++ functions take by reference is passed in
and handed back.
-/
import LlfcChat.Resource.World
import LlfcChat.Chat.Request

namespace LlfcChat.Resource

/-! ### Lengths and bytes of a file -/

/-- `ReadLength`: a missing file has length 0; `none` is an error. -/
def readLength (path : Path) : Prog (Option Nat) := do
  match ← call (.fileStatus path) with
  | .notFound => return some 0
  | .error => return none
  | .found => call (.fileSize path)

/-- `HashRange`; an empty text is a range that could not be read. -/
def hashRange (path : Path) (offset length : Nat) : Prog String := do
  match ← call (.openFile path) with
  | none => return ""
  | some file =>
    match ← call (.read file offset length) with
    | none => return ""
    | some data => if data.length ≠ length then return "" else call (.sha256Hex data)

/-- `Sha256FileHex`. -/
def sha256FileHex (path : Path) : Prog String := do
  match ← call (.openFile path) with
  | none => return ""
  | some file =>
    match ← call (.readAll file) with
    | none => return ""
    | some data => call (.sha256Hex data)

/-- The streams of `WriteAndVerify`: a missing file is made for the first chunk
only. -/
def openUpload (path : Path) (offset : Nat) : Prog (Option Handle) := do
  match ← call (.openFile path) with
  | some file => return some file
  | none =>
    if offset ≠ 0 then return none else
    if ← call (.createFile path) then call (.openFile path) else return none

/-- `WriteAndVerify`. -/
def writeAndVerify (path : Path) (offset : Nat) (data : List UInt8) : Prog Bool := do
  match ← openUpload path offset with
  | none => return false
  | some file =>
    if ← call (.write file offset data) then
      match ← call (.read file offset data.length) with
      | none => return false
      | some readback => return decide (readback = data)
    else return false

/-! ### Cutting back -/

/-- `TruncateUploadFile`. -/
def truncateUploadFile (path : Path) (received : Nat) : Prog Bool := do
  match ← readLength path with
  | none => return false
  | some size =>
    if size < received then return false else
    if size = received then return true else call (.resizeFile path received)

/-- Where an upload resumes: before the last chunk of what is on disk, or at the
start if there is more than there should be. -/
def resumeOffset (totalSize chunkSize size : Nat) : Nat :=
  if size = 0 ∨ totalSize < size then 0 else (size - 1) / chunkSize * chunkSize

/-- `RecoverUploadFile`; `none` where it returns false. -/
def recoverUploadFile (path : Path) (totalSize chunkSize : Nat) : Prog (Option Nat) := do
  if chunkSize = 0 then return none else
  match ← readLength path with
  | none => return none
  | some size =>
    let resume := resumeOffset totalSize chunkSize size
    if ← truncateUploadFile path resume then return some resume else return none

/-! ### Chunks -/

/-- The checks of `WriteUploadChunk` on the numbers of a chunk. -/
def chunkError (totalSize chunkSize offset length received : Nat) : Option ErrorCode :=
  if chunkSize = 0 then some .fileOffsetInvalid
  else if length = 0 ∨ chunkSize < length then some .fileSizeExceeded
  else if offset % chunkSize ≠ 0 ∨ totalSize < offset ∨ totalSize - offset < length then
    some .fileOffsetInvalid
  else if length ≠ min chunkSize (totalSize - offset) then some .fileSizeExceeded
  else if received < offset ∨ (offset < received ∧ received < offset + length) then
    some .fileOffsetInvalid
  else none

/-- A chunk that has been received before: it is compared with the disk, and a
chunk that differs takes the upload back to its start. -/
def repeatedChunk (path : Path) (offset : Nat) (data : List UInt8) (chunkSha256 : String)
    (received : Nat) : Prog (ErrorCode × Nat) := do
  let diskHash ← hashRange path offset data.length
  if diskHash = "" then return (.fileReadFailed, received) else
  if diskHash = chunkSha256 then return (.success, received) else
  if ← truncateUploadFile path offset then return (.fileHashMismatch, offset)
  else return (.fileWritePermissionFailed, received)

/-- The next chunk. -/
def appendChunk (path : Path) (offset : Nat) (data : List UInt8) (received : Nat) :
    Prog (ErrorCode × Nat) := do
  if ← call (.createDirectories path.dropLast) then
    if ← writeAndVerify path offset data then return (.success, received + data.length)
    else
      let _ ← truncateUploadFile path received
      return (.fileWritePermissionFailed, received)
  else return (.createFilePathFailed, received)

/-- `WriteUploadChunk`: the error code and the new value of `received`. -/
def writeUploadChunk (path : Path) (totalSize chunkSize offset : Nat) (data : List UInt8)
    (chunkSha256 : String) (received : Nat) : Prog (ErrorCode × Nat) := do
  match chunkError totalSize chunkSize offset data.length received with
  | some e => return (e, received)
  | none =>
    if isValidSha256Hex chunkSha256 = false then return (.fileHashMismatch, received) else
    let hex ← call (.sha256Hex data)
    if hex ≠ chunkSha256 then return (.fileHashMismatch, received) else
    if offset < received then repeatedChunk path offset data chunkSha256 received
    else appendChunk path offset data received

/-! ### Publishing a file -/

/-- A directory and the directories above it, up to the resource root. -/
def levels (dir : Path) : List Path := dir.inits.reverse

/-- The levels that are missing, from the bottom up to the first one that is
there. -/
def missingLevels : List Path → Prog (List Path)
  | [] => return []
  | dir :: dirs => do
    if ← call (.isDirectory dir) then return []
    else return dir :: (← missingLevels dirs)

/-- Make the levels; one that cannot be made must have come into being. -/
def createLevels : List Path → Prog Bool
  | [] => return true
  | dir :: dirs => do
    if ← call (.createDirectory dir) then createLevels dirs
    else if ← call (.isDirectory dir) then createLevels dirs
    else return false

def fsyncLevels : List Path → Prog Bool
  | [] => return true
  | dir :: dirs => do
    if ← call (.fsyncDirectory dir) then fsyncLevels dirs else return false

/-- `EnsureDirectoryDurable`. -/
def ensureDirectoryDurable (dir : Path) : Prog Bool := do
  if dir = [] then return true else
  let missing ← missingLevels (levels dir)
  if ← createLevels missing.reverse then fsyncLevels (levels dir) else return false

/-- `DurableRename` with `replace` false: its result and `already_exists`.  The
new name is made by `link` and the old one taken away by `unlink`. -/
def durableRename (source target : Path) : Prog (Bool × Bool) := do
  if ← ensureDirectoryDurable target.dropLast then
    match ← call (.link source target) with
    | .exists => return (true, true)
    | .failed => return (false, false)
    | .linked =>
      if ← call (.unlink source) then
        let ok ← call (.fsyncDirectory target.dropLast)
        if source.dropLast ≠ target.dropLast then
          let ok' ← call (.fsyncDirectory source.dropLast)
          return (ok' && ok, false)
        else return (ok, false)
      else return (false, false)
  else return (false, false)

/-- `boost::filesystem::copy_file` without options: the target must not exist. -/
def copyFile (source target : Path) : Prog Bool := do
  match ← call (.openFile source) with
  | none => return false
  | some input =>
    match ← call (.createNew target) with
    | none => return false
    | some output =>
      match ← call (.readAll input) with
      | none => return false
      | some data => call (.write output 0 data)

end LlfcChat.Resource
