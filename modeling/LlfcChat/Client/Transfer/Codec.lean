/-
The replies 1506, 1508, 1510, 1512 and 1514 as `resourcecodec.cpp` decodes them.

A reply that reaches the engine is a JSON object (for 1512 the metadata of a
binary frame) whose `message_id` can be read; anything else is dropped before.
`Fields` is such an object: a field that is missing or has the wrong type is
`none`, a text that is missing is empty.
-/
import Mathlib

namespace LlfcChat.Transfer

/-- The fields of a reply. -/
structure Fields where
  messageId : Int
  error : Option Int := none
  offset : Option Nat := none
  serverOffset : Option Nat := none
  fileSizeBytes : Option Nat := none
  chunkSize : Option Nat := none
  eventSeq : Option Nat := none
  bytes : Option Nat := none
  totalSize : Option Nat := none
  status : Option Int := none
  sha256 : String := ""
  chunkSha256 : String := ""
  mode : String := ""
  nonce : String := ""
  challengeOffset : Option Nat := none
  challengeLength : Option Nat := none
  data : List UInt8 := []

/-- `OptU64` -/
def optU64 (v : Option Nat) (dflt : Int) : Int :=
  match v with
  | some n => n
  | none => dflt

/-- `IsValidSha256Hex` -/
def isValidSha256Hex (s : String) : Bool :=
  s.length = 64 && s.toList.all fun c => ('0' ≤ c && c ≤ '9') || ('a' ≤ c && c ≤ 'f')

structure ChunkUploadRsp where
  ok : Bool := false
  error : Int := 0
  messageId : Int := 0
  offset : Int := -1
  serverOffset : Int := -1
  status : Int := -1
  eventSeq : Int := 0

def decodeChunkUploadRsp (f : Fields) : ChunkUploadRsp :=
  match f.error with
  | none => { messageId := f.messageId }
  | some error =>
    let offset := optU64 f.offset (-1)
    let serverOffset := optU64 f.serverOffset (-1)
    let status := f.status.getD (-1)
    { ok := error ≠ 0 || (0 ≤ offset && 0 ≤ serverOffset && 0 ≤ status)
      error := error
      messageId := f.messageId
      offset := offset
      serverOffset := serverOffset
      status := status
      eventSeq := optU64 f.eventSeq 0 }

structure ProgressRsp where
  ok : Bool := false
  error : Int := 0
  messageId : Int := 0
  serverOffset : Int := -1
  fileSizeBytes : Int := -1
  status : Int := -1
  chunkSize : Int := -1
  eventSeq : Int := 0
  mode : String := ""
  challengeNonce : String := ""
  challengeOffset : Int := -1
  challengeLength : Int := -1

def decodeProgressRsp (f : Fields) : ProgressRsp :=
  match f.error with
  | none => { messageId := f.messageId }
  | some error =>
    let serverOffset := optU64 f.serverOffset (-1)
    let fileSizeBytes := optU64 f.fileSizeBytes (-1)
    let status := f.status.getD (-1)
    let challengeOffset := optU64 f.challengeOffset (-1)
    let challengeLength := optU64 f.challengeLength (-1)
    { ok := error ≠ 0 ||
        (0 ≤ serverOffset && 0 ≤ fileSizeBytes && 0 ≤ status && isValidSha256Hex f.sha256 &&
          (f.mode ≠ "proof" ||
            (f.nonce.length = 32 && 0 ≤ challengeOffset && 0 < challengeLength)))
      error := error
      messageId := f.messageId
      serverOffset := serverOffset
      fileSizeBytes := fileSizeBytes
      status := status
      chunkSize := optU64 f.chunkSize (-1)
      eventSeq := optU64 f.eventSeq 0
      mode := f.mode
      challengeNonce := f.nonce
      challengeOffset := challengeOffset
      challengeLength := challengeLength }

structure DownInfoRsp where
  ok : Bool := false
  error : Int := 0
  messageId : Int := 0
  fileSizeBytes : Int := -1
  sha256 : String := ""
  status : Int := -1

def decodeDownInfoRsp (f : Fields) : DownInfoRsp :=
  match f.error with
  | none => { messageId := f.messageId }
  | some error =>
    let fileSizeBytes := optU64 f.fileSizeBytes (-1)
    let status := f.status.getD (-1)
    { ok := error ≠ 0 || (0 ≤ fileSizeBytes && 0 ≤ status && isValidSha256Hex f.sha256)
      error := error
      messageId := f.messageId
      fileSizeBytes := fileSizeBytes
      sha256 := f.sha256
      status := status }

structure ChunkDownRsp where
  ok : Bool := false
  error : Int := 0
  messageId : Int := 0
  offset : Int := -1
  bytes : Int := -1
  chunkSha256 : String := ""
  data : List UInt8 := []
  totalSize : Int := -1

def decodeChunkDownRsp (f : Fields) : ChunkDownRsp :=
  match f.error with
  | none => { messageId := f.messageId, data := f.data }
  | some error =>
    let offset := optU64 f.offset (-1)
    let bytes := optU64 f.bytes (-1)
    let totalSize := optU64 f.totalSize (-1)
    { ok := error ≠ 0 || (0 ≤ offset && 0 < bytes && f.data ≠ [] && 0 ≤ totalSize &&
        isValidSha256Hex f.chunkSha256)
      error := error
      messageId := f.messageId
      offset := offset
      bytes := bytes
      chunkSha256 := f.chunkSha256
      data := f.data
      totalSize := totalSize }

structure InstantProofRsp where
  ok : Bool := false
  error : Int := 0
  messageId : Int := 0
  status : Int := -1
  serverOffset : Int := -1
  eventSeq : Int := 0

def decodeInstantProofRsp (f : Fields) : InstantProofRsp :=
  match f.error with
  | none => { messageId := f.messageId }
  | some error =>
    let status := f.status.getD (-1)
    let serverOffset := optU64 f.serverOffset (-1)
    let eventSeq := optU64 f.eventSeq 0
    { ok := error ≠ 0 || (0 ≤ status && 0 ≤ serverOffset && 0 < eventSeq)
      error := error
      messageId := f.messageId
      status := status
      serverOffset := serverOffset
      eventSeq := eventSeq }

end LlfcChat.Transfer
