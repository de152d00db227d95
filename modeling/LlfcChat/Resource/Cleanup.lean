/-
`RunResourceCleanup`: a round of the cleanup thread.  It marks old uploads as
failed in the database and then walks over the resource root to remove old
`.part` files and blobs that no published message refers to.
-/
import LlfcChat.Resource.World

namespace LlfcChat.Resource

/-- `kResourceRetentionSeconds`. -/
def resourceRetentionSeconds : Int := 7 * 24 * 3600

/-- `kCleanupPageSize`. -/
def cleanupPageSize : Nat := 200

/-! ### The database -/

/-- The items of a page whose `.part` file is missing or old. -/
def staleItems (now : Int) : List ExpiredResource → Prog (List ExpiredResource)
  | [] => return []
  | item :: items => do
    let mtime ← call (.lastWriteTime (resourceUploadingPartPath item.messageId))
    let rest ← staleItems now items
    if mtime = 0 ∨ mtime < now - resourceRetentionSeconds then return item :: rest else return rest

/-- `MysqlMgr::MarkResourceExpired`. -/
def markResourceExpiredDao (items : List ExpiredResource) : Prog Bool := do
  match ← call (.dao (.markResourceExpired (items.map (·.messageId))) 0) with
  | .returned (.done ok) => return ok
  | _ => return false

/-- The pages of expired uploads from a cursor on.  The loop of the source has no
bound; here it takes `pages` turns at most. -/
def expirePages (now : Int) (before : String) : Nat → String → Int → Prog Unit
  | 0, _, _ => return ()
  | pages + 1, createdAt, messageId => do
    match ← call (.getExpiredResourceIds before createdAt messageId cleanupPageSize) with
    | none => return ()
    | some page =>
      match page.getLast? with
      | none => return ()
      | some last =>
        let toExpire ← staleItems now page
        let marked ← if toExpire = [] then pure true else markResourceExpiredDao toExpire
        if marked = false ∨ page.length < cleanupPageSize then return ()
        else expirePages now before pages last.createdAt last.messageId

/-! ### The files -/

/-- An old blob: removed under the lock if no published message refers to it. -/
def sweepBlob (path : Path) (name : String) : Prog Unit := do
  if name.utf8ByteSize ≠ 64 then return () else
  call .lock
  match ← call (.blobHasPublishedReference name) with
  | .no =>
    let _ ← call (.remove path)
    call .unlock
  | _ => call .unlock

/-- An old file below `uploading/`: removed if it is a `.part` file. -/
def sweepPart (path : Path) (name : String) : Prog Unit := do
  if name.utf8ByteSize ≤ 5 ∨ ".part".toList.isSuffixOf name.toList = false then return () else
  let _ ← call (.remove path)
  return ()

/-- One file of the walk. -/
def sweepFile (now : Int) (path : Path) : Prog Unit := do
  if ← call (.isRegularFile path) then
    match path.reverse with
    | name :: parent :: above =>
      let inUploading := decide (parent = "uploading")
      let inBlobs := decide (parent.utf8ByteSize = 2 ∧ above.head? = some "blobs")
      if inUploading = false ∧ inBlobs = false then return () else
      let mtime ← call (.lastWriteTime path)
      if mtime = 0 ∨ now - resourceRetentionSeconds ≤ mtime then return () else
      if inUploading then sweepPart path name else sweepBlob path name
    | _ => return ()
  else return ()

def sweepAll (now : Int) : List Path → Prog Unit
  | [] => return ()
  | path :: paths => do
    sweepFile now path
    sweepAll now paths

/-- `RunResourceCleanup`. -/
def runResourceCleanup (formatDbTime : Int → String) (pages : Nat) : Prog Unit := do
  let now ← call .time
  expirePages now (formatDbTime (now - resourceRetentionSeconds)) pages "" 0
  let paths ← call .listTree
  sweepAll now paths

end LlfcChat.Resource
