import RescueStream.Database.Repo
import Mathlib.Data.List.Sort

/-! The reads behind the admin API: `StreamKeyRepo.ListAll`, `StreamRepo.ListActive` and
`StreamRepo.GetByID`; `StreamKeyService.List`, which clears every key value, and
`StreamKeyService.GetByID`; and `StreamService.ListActive` and `GetByID`, which attach the
playback URLs of `MediaMTXClient` to each stream. `ORDER BY ... DESC` is an insertion sort;
rows with equal times come in an order SQL leaves open, and the model fixes one. A failing
query, row scan or `rows.Err()` is one driver failure, reported with the query's message. -/

namespace RescueStream

namespace StreamKeyRepo

/-- `StreamKeyRepo.ListAll`: every row, `ORDER BY created_at DESC`. -/
def listAll (db : Store) (fault : Bool) : Except Error (List StreamKey) :=
  if fault then .error (driverFailure "failed to query stream keys" .unavailable)
  else .ok (db.streamKeys.insertionSort fun a b => b.createdAt ≤ a.createdAt)

end StreamKeyRepo

namespace StreamRepo

/-- `StreamRepo.ListActive`: `WHERE status = 'active' ORDER BY started_at DESC`. -/
def listActive (db : Store) (fault : Bool) : Except Error (List Stream) :=
  if fault then .error (driverFailure "failed to list active streams" .unavailable)
  else .ok ((db.streams.filter (·.status = .active)).insertionSort
    fun a b => b.startedAt ≤ a.startedAt)

/-- `StreamRepo.GetByID`, read through `scanStream`. -/
def getByID (db : Store) (id : Nat) (fault : Bool) : Except Error Stream :=
  if fault then .error (driverFailure "failed to scan stream" .unavailable)
  else match db.streams.find? (·.id == id) with
    | some r => .ok r
    | none => .error .notFound

end StreamRepo

namespace StreamKeyService

/-- `StreamKeyService.List`: every key, its value cleared "for security". -/
def list (db : Store) (fault : Bool) : Except Error (List StreamKey) :=
  (StreamKeyRepo.listAll db fault).map (·.map fun k => { k with keyValue := "" })

def getByID (db : Store) (id : Nat) (fault : Bool) : Except Error StreamKey :=
  StreamKeyRepo.getByID db id fault

end StreamKeyService

/-- `MediaMTXClient.GetHLSURL`: `fmt.Sprintf("%s/%s/index.m3u8", c.publicURL, path)`. -/
def getHLSURL (publicURL path : String) : String := publicURL ++ "/" ++ path ++ "/index.m3u8"

def getWebRTCURL (publicURL path : String) : String := publicURL ++ "/" ++ path ++ "/whep"

structure StreamURLs where
  hls : String
  webRTC : String
  deriving DecidableEq, Repr

structure StreamWithURLs where
  stream : Stream
  urls : StreamURLs
  deriving DecidableEq, Repr

namespace StreamService

/-- The `StreamWithURLs` both methods build for a row. -/
def withURLs (publicURL : String) (stream : Stream) : StreamWithURLs :=
  ⟨stream, ⟨getHLSURL publicURL stream.path, getWebRTCURL publicURL stream.path⟩⟩

def listActive (publicURL : String) (db : Store) (fault : Bool) : Except Error (List StreamWithURLs) :=
  (StreamRepo.listActive db fault).map (·.map (withURLs publicURL))

def getByID (publicURL : String) (db : Store) (id : Nat) (fault : Bool) : Except Error StreamWithURLs :=
  (StreamRepo.getByID db id fault).map (withURLs publicURL)

end StreamService

/-! ### What the reads return -/

theorem StreamKeyService.list_keyValue {db : Store} {fault : Bool} {ks : List StreamKey}
    (h : StreamKeyService.list db fault = .ok ks) : ∀ k ∈ ks, k.keyValue = "" := by
  unfold StreamKeyService.list StreamKeyRepo.listAll at h
  split_ifs at h <;> simp only [Except.map, Except.ok.injEq, reduceCtorEq] at h
  subst h
  simp

end RescueStream
