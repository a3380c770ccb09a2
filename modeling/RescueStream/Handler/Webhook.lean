import RescueStream.Database.Repo

/-! `WebhookHandler.handleReady` and `handleNotReady`, which MediaMTX calls when a path
becomes ready or stops. `handleNotReady` runs one statement. `handleReady` runs two, the
key lookup `GetByKeyValue(path)` and the insert `StreamRepo.Create`, with no transaction
between them; as for `Revoke`, a program counter `ReadyPc` says which is next and
`readyStep` runs it; `Sys.ready_uninterrupted` says that running the steps back to back is
the sequential handler. The body arrives decoded (`none` when
JSON decoding fails); the method and route checks of `ServeHTTP` are transport and left
out. -/

namespace RescueStream

structure WebhookReadyRequest where
  path : String
  sourceType : String
  sourceID : String
  deriving DecidableEq, Repr

structure WebhookNotReadyRequest where
  path : String
  deriving DecidableEq, Repr

/-- `204 No Content`, or `WriteError(ErrInvalidRequest(detail))`, a `400`. -/
inductive Response
  | noContent
  | invalidRequest (detail : String)
  deriving DecidableEq, Repr

def Response.status : Response → Nat
  | .noContent => 204
  | .invalidRequest _ => 400

/-- The row `handleReady` builds; an empty source type or id is stored as NULL. -/
def readyStream (req : WebhookReadyRequest) (keyID id : Nat) (now : Int) : Stream :=
  { id, streamKeyID := keyID, path := req.path, status := .active, startedAt := now,
    endedAt := none,
    sourceType := if req.sourceType = "" then none else some req.sourceType,
    sourceID := if req.sourceID = "" then none else some req.sourceID }

/-- Where a call of `handleReady` stands. -/
inductive ReadyPc
  | lookup
  | insert (key : StreamKey)
  | answered (resp : Response)
  deriving DecidableEq, Repr

def readyStart (req : WebhookReadyRequest) : ReadyPc :=
  if req.path = "" then .answered (.invalidRequest "path is required") else .lookup

/-- The statement of `handleReady` at `pc`, failed when `fault`; failures answer `204`. -/
def readyStep (db : Store) (req : WebhookReadyRequest) (id : Nat) (now : Int) (fault : Bool) :
    ReadyPc → Option (ReadyPc × Store)
  | .lookup => some <| match StreamKeyRepo.getByKeyValue db req.path fault with
    | .error _ => (.answered .noContent, db)
    | .ok key => (.insert key, db)
  | .insert key => some <| match StreamRepo.create db (readyStream req key.id id now) fault with
    | .error _ => (.answered .noContent, db)
    | .ok db' => (.answered .noContent, db')
  | .answered _ => none

/-- The driver's failures and the id and time drawn in one delivery of `ready`. -/
structure ReadyDraw where
  lookupFault : Bool
  id : Nat
  now : Int
  createFault : Bool
  deriving DecidableEq, Repr

/-- `WebhookHandler.handleReady`: the tables after the call and the response. -/
def handleReady (db : Store) (body : Option WebhookReadyRequest) (d : ReadyDraw) :
    Store × Response :=
  match body with
  | none => (db, .invalidRequest "invalid request body")
  | some req =>
    if req.path = "" then (db, .invalidRequest "path is required")
    else match StreamKeyRepo.getByKeyValue db req.path d.lookupFault with
      | .error _ => (db, .noContent)
      | .ok key => match StreamRepo.create db (readyStream req key.id d.id d.now) d.createFault with
        | .error _ => (db, .noContent)
        | .ok db' => (db', .noContent)

/-- `WebhookHandler.handleNotReady`; a failed `EndStreamByPath` is answered with `204`. -/
def handleNotReady (db : Store) (body : Option WebhookNotReadyRequest) (now : Int) (fault : Bool) :
    Store × Response :=
  match body with
  | none => (db, .invalidRequest "invalid request body")
  | some req =>
    if req.path = "" then (db, .invalidRequest "path is required")
    else match StreamRepo.endStreamByPath db req.path now fault with
      | .ok db' => (db', .noContent)
      | .error _ => (db, .noContent)

/-! ### What each handler can do to the tables -/

theorem handleNotReady_db (db : Store) (body : Option WebhookNotReadyRequest) (now : Int)
    (fault : Bool) :
    (handleNotReady db body now fault).1 = db ∨
      ∃ p, (handleNotReady db body now fault).1 = db.endWhere (·.path == p) now := by
  unfold handleNotReady
  split
  · exact .inl rfl
  · split_ifs
    · exact .inl rfl
    · split
      · rename_i h; exact .inr ⟨_, StreamRepo.endActive_ok h⟩
      · exact .inl rfl

theorem readyStep_db {db db' : Store} {req : WebhookReadyRequest} {u : Nat} {now : Int}
    {fault : Bool} {pc pc' : ReadyPc} (h : readyStep db req u now fault pc = some (pc', db')) :
    db' = db ∨ ∃ key, pc = .insert key ∧ db.streamInsertError (readyStream req key.id u now) = none ∧
      db' = { db with streams := readyStream req key.id u now :: db.streams } := by
  cases pc with
  | lookup =>
    simp only [readyStep, Option.some.injEq] at h
    split at h <;> exact .inl (Prod.mk.inj h).2.symm
  | insert key =>
    simp only [readyStep, Option.some.injEq] at h
    split at h
    · exact .inl (Prod.mk.inj h).2.symm
    · rename_i he
      obtain ⟨h₁, h₂⟩ := StreamRepo.create_ok he
      exact .inr ⟨key, rfl, h₁, (Prod.mk.inj h).2.symm.trans h₂⟩
  | answered r => cases h

/-! ### Redelivery -/

theorem handleReady_noContent (db : Store) {req : WebhookReadyRequest} (d : ReadyDraw)
    (hp : req.path ≠ "") : (handleReady db (some req) d).2 = .noContent := by
  simp only [handleReady, if_neg hp]
  split
  · rfl
  · split <;> rfl

theorem handleNotReady_noContent (db : Store) {req : WebhookNotReadyRequest} (now : Int)
    (fault : Bool) (hp : req.path ≠ "") : (handleNotReady db (some req) now fault).2 = .noContent := by
  simp only [handleNotReady, if_neg hp]
  split <;> rfl

/-- A delivery of `ready` changes nothing, or inserts the row it built for the key it found. -/
theorem handleReady_inserts (db : Store) (req : WebhookReadyRequest) (d : ReadyDraw) :
    (handleReady db (some req) d).1 = db ∨ ∃ key, db.keyByValue req.path = some key ∧
      db.streamInsertError (readyStream req key.id d.id d.now) = none ∧
      (handleReady db (some req) d).1 =
        { db with streams := readyStream req key.id d.id d.now :: db.streams } := by
  simp only [handleReady]
  split_ifs
  · exact .inl rfl
  · split
    · exact .inl rfl
    · rename_i key hk
      split
      · exact .inl rfl
      · rename_i hc
        exact .inr ⟨key, StreamKeyRepo.scanStreamKey_ok hk, StreamRepo.create_ok hc⟩

/-- A delivery of `not-ready` ends every active row of its path, unless the driver fails it. -/
theorem handleNotReady_eq (db : Store) {req : WebhookNotReadyRequest} (now : Int) (fault : Bool)
    (hp : req.path ≠ "") :
    (handleNotReady db (some req) now fault).1 =
      if fault then db
      else if ∃ r ∈ db.streams, r.path = req.path ∧ r.status = .active then
        db.endWhere (·.path == req.path) now
      else db := by
  simp only [handleNotReady, if_neg hp, StreamRepo.endStreamByPath, StreamRepo.endActive,
    beq_iff_eq]
  split_ifs <;> rfl

theorem webhook_redelivery (db : Store) :
    (∀ (req : WebhookReadyRequest) (d₁ d₂ : ReadyDraw), req.path ≠ "" →
      ((handleReady (handleReady db (some req) d₁).1 (some req) d₂).1 =
          (handleReady db (some req) d₁).1 ∨
        (handleReady (handleReady db (some req) d₁).1 (some req) d₂).1 =
          (handleReady db (some req) d₂).1) ∧
      (handleReady db (some req) d₁).2.status = 204 ∧
      (handleReady (handleReady db (some req) d₁).1 (some req) d₂).2.status = 204) ∧
    ∀ (req : WebhookNotReadyRequest) (now₁ now₂ : Int) (f₁ f₂ : Bool), req.path ≠ "" →
      ((handleNotReady (handleNotReady db (some req) now₁ f₁).1 (some req) now₂ f₂).1 =
          (handleNotReady db (some req) now₁ f₁).1 ∨
        (handleNotReady (handleNotReady db (some req) now₁ f₁).1 (some req) now₂ f₂).1 =
          (handleNotReady db (some req) now₂ f₂).1) ∧
      (handleNotReady db (some req) now₁ f₁).2.status = 204 ∧
      (handleNotReady (handleNotReady db (some req) now₁ f₁).1 (some req) now₂ f₂).2.status = 204 := by
  refine ⟨fun req d₁ d₂ hp => ⟨?_, ?_⟩, fun req now₁ now₂ f₁ f₂ hp => ⟨?_, ?_⟩⟩
  · rcases handleReady_inserts db req d₁ with h₁ | ⟨key, hk, -, h₁⟩
    · exact .inr (by rw [h₁])
    · refine .inl ?_
      rw [h₁]
      rcases handleReady_inserts _ req d₂ with h₂ | ⟨key₂, hk₂, hins, -⟩
      · exact h₂
      · have hkey : key₂ = key := Option.some.inj (hk₂.symm.trans hk)
        subst hkey
        exact absurd hins (Store.streamInsertError_of_active rfl
          ⟨_, List.mem_cons_self _ _, rfl, rfl⟩)
  · rw [handleReady_noContent _ _ hp, handleReady_noContent _ _ hp]; exact ⟨rfl, rfl⟩
  · rw [handleNotReady_eq db now₁ f₁ hp]
    split_ifs with hf₁ he₁
    · exact .inr rfl
    · refine .inl ?_
      have hnone : ¬∃ r ∈ (db.endWhere (·.path == req.path) now₁).streams,
          r.path = req.path ∧ r.status = .active := fun ⟨r, hr, hpath, ha⟩ =>
        Store.not_active_of_endWhere hr (by simpa using hpath) ha
      rw [handleNotReady_eq _ now₂ f₂ hp, if_neg hnone]
      split_ifs <;> rfl
    · exact .inr rfl
  · rw [handleNotReady_noContent _ _ _ hp, handleNotReady_noContent _ _ _ hp]; exact ⟨rfl, rfl⟩

theorem webhook_redelivery_sk_a :
    let db : Store := ⟨[0], [⟨1, "sk_a", 0, .active, 0, none, none, none⟩], []⟩
    let req : WebhookReadyRequest := ⟨"sk_a", "rtmpConn", ""⟩
    let d : ReadyDraw := ⟨false, 5, 1, false⟩
    let req' : WebhookNotReadyRequest := ⟨"sk_a"⟩
    req.path ≠ "" ∧
    (((handleReady (handleReady db (some req) d).1 (some req) d).1 =
          (handleReady db (some req) d).1 ∨
        (handleReady (handleReady db (some req) d).1 (some req) d).1 =
          (handleReady db (some req) d).1) ∧
      (handleReady db (some req) d).2.status = 204 ∧
      (handleReady (handleReady db (some req) d).1 (some req) d).2.status = 204) ∧
    req'.path ≠ "" ∧
    (((handleNotReady (handleNotReady db (some req') 2 false).1 (some req') 3 false).1 =
          (handleNotReady db (some req') 2 false).1 ∨
        (handleNotReady (handleNotReady db (some req') 2 false).1 (some req') 3 false).1 =
          (handleNotReady db (some req') 3 false).1) ∧
      (handleNotReady db (some req') 2 false).2.status = 204 ∧
      (handleNotReady (handleNotReady db (some req') 2 false).1 (some req') 3 false).2.status =
        204) := by
  intro db req d req'
  exact ⟨by decide, (webhook_redelivery db).1 req d d (by decide), by decide,
    (webhook_redelivery db).2 req' 2 3 false false (by decide)⟩

end RescueStream
