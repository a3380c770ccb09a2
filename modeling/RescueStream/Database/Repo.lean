import RescueStream.Database.Store

/-! The repositories of `internal/database`, one function per method that a modelled
service calls. Every method runs one SQL statement; its `fault` argument says whether the
driver fails the call (a lost connection, a server error), in which case the statement
has no effect and the method returns the wrapped driver error of its source. Reads return
the row; writes return the new tables. `GetActiveByPath`, `GetAndLockByKeyValue`,
`UpdateLastUsed` and the list and update methods are called by no modelled code and are
left out. -/

namespace RescueStream

open Store

/-- The error of a failed `pool.Exec` or `Scan`, wrapped as `fmt.Errorf("msg: %w", err)`. -/
def driverFailure (msg : String) (e : DbError) : Error := .wrap msg (.db e)

namespace StreamKeyRepo

/-- `scanStreamKey` over the row a `SELECT` returned: no row is `ErrNotFound`. -/
def scanStreamKey (row : Option StreamKey) (fault : Bool) : Except Error StreamKey :=
  if fault then .error (driverFailure "failed to scan stream key" .unavailable)
  else match row with
    | some k => .ok k
    | none => .error .notFound

def getByID (db : Store) (id : Nat) (fault : Bool) : Except Error StreamKey :=
  scanStreamKey (db.keyByID id) fault

def getByKeyValue (db : Store) (keyValue : String) (fault : Bool) : Except Error StreamKey :=
  scanStreamKey (db.keyByValue keyValue) fault

/-- `StreamKeyRepo.Create`; the service always sets a fresh id, never `uuid.Nil`. -/
def create (db : Store) (key : StreamKey) (fault : Bool) : Except Error Store :=
  if fault then .error (driverFailure "failed to create stream key" .unavailable)
  else match db.insertKey key with
    | .ok db' => .ok db'
    | .error e => .error (driverFailure "failed to create stream key" e)

/-- `StreamKeyRepo.UpdateStatus`, with `ErrNotFound` when no row has the id. -/
def updateStatus (db : Store) (id : Nat) (status : StreamKeyStatus) (revokedAt : Option Int)
    (fault : Bool) : Except Error Store :=
  if fault then .error (driverFailure "failed to update stream key status" .unavailable)
  else if ∃ k ∈ db.streamKeys, k.id = id then
    .ok (db.updateKey id fun k => { k with status := status, revokedAt := revokedAt })
  else .error .notFound

end StreamKeyRepo

namespace StreamRepo

/-- `StreamRepo.Create`; the empty metadata map always marshals. -/
def create (db : Store) (stream : Stream) (fault : Bool) : Except Error Store :=
  if fault then .error (driverFailure "failed to create stream" .unavailable)
  else match db.insertStream stream with
    | .ok db' => .ok db'
    | .error e => .error (driverFailure "failed to create stream" e)

def getActiveByStreamKeyID (db : Store) (keyID : Nat) (fault : Bool) : Except Error Stream :=
  if fault then .error (driverFailure "failed to scan stream" .unavailable)
  else match db.activeStreamOf keyID with
    | some r => .ok r
    | none => .error .notFound

/-- The body shared by `EndStream` and `EndStreamByPath`; `ErrNotFound` when no row changed. -/
def endActive (msg : String) (cond : Stream → Bool) (db : Store) (now : Int) (fault : Bool) :
    Except Error Store :=
  if fault then .error (driverFailure msg .unavailable)
  else if ∃ r ∈ db.streams, cond r = true ∧ r.status = .active then .ok (db.endWhere cond now)
  else .error .notFound

/-- `StreamRepo.EndStream`: `WHERE id = $1 AND status = 'active'`. -/
def endStream (db : Store) (id : Nat) (now : Int) (fault : Bool) : Except Error Store :=
  endActive "failed to end stream" (·.id == id) db now fault

/-- `StreamRepo.EndStreamByPath`: `WHERE path = $1 AND status = 'active'`. -/
def endStreamByPath (db : Store) (path : String) (now : Int) (fault : Bool) : Except Error Store :=
  endActive "failed to end stream by path" (·.path == path) db now fault

end StreamRepo

namespace BroadcasterRepo

def create (db : Store) (id : Nat) (fault : Bool) : Except Error Store :=
  if fault then .error (driverFailure "failed to create broadcaster" .unavailable)
  else match db.insertBroadcaster id with
    | .ok db' => .ok db'
    | .error e => .error (driverFailure "failed to create broadcaster" e)

/-- `BroadcasterRepo.Delete`, with `ErrNotFound` when no row has the id. -/
def delete (db : Store) (id : Nat) (fault : Bool) : Except Error Store :=
  if fault then .error (driverFailure "failed to delete broadcaster" .unavailable)
  else if id ∈ db.broadcasters then .ok (db.deleteBroadcaster id)
  else .error .notFound

end BroadcasterRepo

/-! ### One spec lemma per write -/

theorem StreamKeyRepo.create_ok {db db' : Store} {key : StreamKey} {fault : Bool}
    (h : StreamKeyRepo.create db key fault = .ok db') :
    db.keyInsertError key = none ∧ db' = { db with streamKeys := key :: db.streamKeys } := by
  unfold StreamKeyRepo.create insertKey at h
  split at h
  · cases h
  · split at h <;> rename_i he <;> split at he <;> simp_all

theorem StreamKeyRepo.updateStatus_ok {db db' : Store} {id : Nat} {st : StreamKeyStatus}
    {ra : Option Int} {fault : Bool} (h : StreamKeyRepo.updateStatus db id st ra fault = .ok db') :
    (∃ k ∈ db.streamKeys, k.id = id) ∧
      db' = db.updateKey id fun k => { k with status := st, revokedAt := ra } := by
  unfold StreamKeyRepo.updateStatus at h
  split_ifs at h with h₁ h₂
  cases h
  exact ⟨h₂, rfl⟩

theorem StreamRepo.create_ok {db db' : Store} {r : Stream} {fault : Bool}
    (h : StreamRepo.create db r fault = .ok db') :
    db.streamInsertError r = none ∧ db' = { db with streams := r :: db.streams } := by
  unfold StreamRepo.create insertStream at h
  split at h
  · cases h
  · split at h <;> rename_i he <;> split at he <;> simp_all

theorem StreamRepo.create_error_of_active {db : Store} {r : Stream} {fault : Bool}
    (ha : r.status = .active)
    (hx : ∃ x ∈ db.streams, x.streamKeyID = r.streamKeyID ∧ x.status = .active) :
    ∃ e, StreamRepo.create db r fault = .error e := by
  unfold StreamRepo.create insertStream
  split_ifs
  · exact ⟨_, rfl⟩
  · cases he : db.streamInsertError r with
    | none => exact absurd he (streamInsertError_of_active ha hx)
    | some e => exact ⟨_, rfl⟩

theorem StreamRepo.endActive_ok {msg : String} {cond : Stream → Bool} {db db' : Store} {now : Int}
    {fault : Bool} (h : StreamRepo.endActive msg cond db now fault = .ok db') :
    db' = db.endWhere cond now := by
  unfold StreamRepo.endActive at h
  split_ifs at h
  cases h
  rfl

theorem BroadcasterRepo.create_ok {db db' : Store} {id : Nat} {fault : Bool}
    (h : BroadcasterRepo.create db id fault = .ok db') :
    id ∉ db.broadcasters ∧ db' = { db with broadcasters := id :: db.broadcasters } := by
  unfold BroadcasterRepo.create insertBroadcaster at h
  split at h
  · cases h
  · split at h <;> rename_i he <;> split at he <;> simp_all

theorem BroadcasterRepo.delete_ok {db db' : Store} {id : Nat} {fault : Bool}
    (h : BroadcasterRepo.delete db id fault = .ok db') : db' = db.deleteBroadcaster id := by
  unfold BroadcasterRepo.delete at h
  split_ifs at h
  cases h
  rfl

/-! ### One spec lemma per read -/

theorem StreamKeyRepo.scanStreamKey_ok {row : Option StreamKey} {fault : Bool} {k : StreamKey}
    (h : StreamKeyRepo.scanStreamKey row fault = .ok k) : row = some k := by
  unfold StreamKeyRepo.scanStreamKey at h
  split_ifs at h
  split at h <;> cases h
  rfl

theorem StreamKeyRepo.getByKeyValue_ok {db : Store} {v : String} {fault : Bool} {k : StreamKey}
    (h : StreamKeyRepo.getByKeyValue db v fault = .ok k) : k ∈ db.streamKeys ∧ k.keyValue = v :=
  mem_of_keyByValue (StreamKeyRepo.scanStreamKey_ok h)

theorem StreamKeyRepo.getByID_ok {db : Store} {id : Nat} {fault : Bool} {k : StreamKey}
    (h : StreamKeyRepo.getByID db id fault = .ok k) : k ∈ db.streamKeys ∧ k.id = id := by
  have hf := StreamKeyRepo.scanStreamKey_ok h
  exact ⟨List.mem_of_find?_eq_some hf, by simpa using List.find?_some hf⟩

theorem StreamRepo.getActiveByStreamKeyID_ok {db : Store} {keyID : Nat} {fault : Bool} {r : Stream}
    (h : StreamRepo.getActiveByStreamKeyID db keyID fault = .ok r) :
    r ∈ db.streams ∧ r.streamKeyID = keyID ∧ r.status = .active := by
  unfold StreamRepo.getActiveByStreamKeyID at h
  split_ifs at h
  split at h <;> cases h
  exact mem_of_activeStreamOf ‹_›

theorem StreamRepo.endActive_notFound {msg : String} {cond : Stream → Bool} {db : Store} {now : Int}
    {fault : Bool} (h : StreamRepo.endActive msg cond db now fault = .error .notFound) :
    ∀ r ∈ db.streams, cond r = true → r.status ≠ .active := by
  intro r hr hc ha
  unfold StreamRepo.endActive at h
  split_ifs at h with h₁ h₂
  · cases h
  · exact h₂ ⟨r, hr, hc, ha⟩

end RescueStream
