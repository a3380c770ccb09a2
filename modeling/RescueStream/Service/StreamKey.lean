import RescueStream.Database.Repo
import RescueStream.Service.KeyGen

/-! `StreamKeyService`: `Create` and `Revoke`, and `BroadcasterService`'s `Create` and
`Delete`, the writes an administrator can interleave with admissions and webhooks.
`Create` runs one statement and is a function of the tables. `Revoke` runs up to five
statements outside any transaction (`GetByID`, `GetActiveByStreamKeyID`, the MediaMTX
kick, `EndStream`, `UpdateStatus`), so other requests can run between any two of them;
it is modelled as a program counter `RevokePc` holding the locals bound so far, and
`revokeStep` runs the statement at the counter. -/

namespace RescueStream

structure CreateRequest where
  broadcasterID : Nat
  expiresAt : Option Int
  deriving DecidableEq, Repr

namespace StreamKeyService

/-- `StreamKeyService.Create`, given what `rand.Read`, `uuid.New` and `time.Now` return. -/
def create (db : Store) (req : CreateRequest) (draw : Option RandomBytes) (id : Nat) (now : Int)
    (fault : Bool) : Except Error StreamKey × Store :=
  match generateStreamKey draw with
  | .error e => (.error (.wrap "failed to generate stream key" e), db)
  | .ok keyValue =>
    let key : StreamKey :=
      { id, keyValue, broadcasterID := req.broadcasterID, status := .active, createdAt := now,
        expiresAt := req.expiresAt, revokedAt := none, lastUsedAt := none }
    match StreamKeyRepo.create db key fault with
    | .ok db' => (.ok key, db')
    | .error e => (.error e, db)

end StreamKeyService

/-- Where a call of `Revoke(id)` stands, with the stream it found and `EndStream`'s result. -/
inductive RevokePc
  | start
  | checkActive
  | kick (stream : Stream)
  | endStream (stream : Stream)
  | updateStatus (ended : Option (Stream × Except Error Unit))
  | returned (ended : Option (Stream × Except Error Unit)) (result : Except Error Unit)
  deriving DecidableEq, Repr

/-- The statement of `Revoke(id)` at `pc`, failed when `fault`; `none` once returned. -/
def revokeStep (db : Store) (id : Nat) (now : Int) (fault : Bool) :
    RevokePc → Option (RevokePc × Store)
  | .start => some <| match StreamKeyRepo.getByID db id fault with
    | .error e => (.returned none (.error e), db)
    | .ok key => (if key.status ≠ .active then .returned none (.error .invalidStatus)
        else .checkActive, db)
  | .checkActive => some <| match StreamRepo.getActiveByStreamKeyID db id fault with
    | .ok stream => (.kick stream, db)
    | .error .notFound => (.updateStatus none, db)
    | .error e => (.returned none (.error (.wrap "failed to check active stream" e)), db)
  | .kick stream => some (.endStream stream, db)
  | .endStream stream => some <| match StreamRepo.endStream db stream.id now fault with
    | .ok db' => (.updateStatus (some (stream, .ok ())), db')
    | .error e => (.updateStatus (some (stream, .error e)), db)
  | .updateStatus ended =>
    some <| match StreamKeyRepo.updateStatus db id .revoked (some now) fault with
    | .ok db' => (.returned ended (.ok ()), db')
    | .error e => (.returned ended (.error e), db)
  | .returned _ _ => none

namespace BroadcasterService

def create (db : Store) (id : Nat) (fault : Bool) : Store :=
  match BroadcasterRepo.create db id fault with
  | .ok db' => db'
  | .error _ => db

def delete (db : Store) (id : Nat) (fault : Bool) : Store :=
  match BroadcasterRepo.delete db id fault with
  | .ok db' => db'
  | .error _ => db

end BroadcasterService

/-! ### What each call can do to the tables -/

theorem StreamKeyService.create_db (db : Store) (req : CreateRequest) (id : Nat) (now : Int)
    (fault : Bool) {draw : Option RandomBytes} {v : String} (hv : generateStreamKey draw = .ok v) :
    (StreamKeyService.create db req draw id now fault).2 = db ∨
      ∃ key : StreamKey, key.id = id ∧ key.keyValue = v ∧ key.status = .active ∧
        (StreamKeyService.create db req draw id now fault).2 =
          { db with streamKeys := key :: db.streamKeys } := by
  simp only [StreamKeyService.create, hv]
  split
  · rename_i h
    exact .inr ⟨_, rfl, rfl, rfl, (StreamKeyRepo.create_ok h).2⟩
  · exact .inl rfl

theorem BroadcasterService.create_db (db : Store) (id : Nat) (fault : Bool) :
    BroadcasterService.create db id fault = db ∨
      BroadcasterService.create db id fault = { db with broadcasters := id :: db.broadcasters } := by
  unfold BroadcasterService.create
  split
  · rename_i h; exact .inr (BroadcasterRepo.create_ok h).2
  · exact .inl rfl

theorem BroadcasterService.delete_db (db : Store) (id : Nat) (fault : Bool) :
    BroadcasterService.delete db id fault = db ∨
      BroadcasterService.delete db id fault = db.deleteBroadcaster id := by
  unfold BroadcasterService.delete
  split
  · rename_i h; exact .inr (BroadcasterRepo.delete_ok h)
  · exact .inl rfl

/-- A statement of `Revoke` changes nothing, ends the stream it found, or revokes the key. -/
theorem revokeStep_cases {db db' : Store} {id : Nat} {now : Int} {fault : Bool} {pc pc' : RevokePc}
    (h : revokeStep db id now fault pc = some (pc', db')) :
    db' = db ∨ (∃ st, pc = .endStream st ∧ db' = db.endWhere (·.id == st.id) now) ∨
      ∃ t, pc = .updateStatus t ∧
        db' = db.updateKey id fun k => { k with status := .revoked, revokedAt := some now } := by
  cases pc with
  | start =>
    simp only [revokeStep, Option.some.injEq] at h
    split at h <;> [skip; split_ifs at h] <;> exact .inl (Prod.mk.inj h).2.symm
  | checkActive =>
    simp only [revokeStep, Option.some.injEq] at h
    split at h <;> exact .inl (Prod.mk.inj h).2.symm
  | kick st => exact .inl (Prod.mk.inj (Option.some.inj h)).2.symm
  | endStream st =>
    simp only [revokeStep, Option.some.injEq] at h
    split at h
    · rename_i he
      exact .inr (.inl ⟨st, rfl, (Prod.mk.inj h).2.symm.trans (StreamRepo.endActive_ok he)⟩)
    · exact .inl (Prod.mk.inj h).2.symm
  | updateStatus t =>
    simp only [revokeStep, Option.some.injEq] at h
    split at h
    · rename_i he
      exact .inr (.inr ⟨t, rfl, (Prod.mk.inj h).2.symm.trans (StreamKeyRepo.updateStatus_ok he).2⟩)
    · exact .inl (Prod.mk.inj h).2.symm
  | returned t r => cases h

theorem revokeStep_db {db db' : Store} {id : Nat} {now : Int} {fault : Bool} {pc pc' : RevokePc}
    (h : revokeStep db id now fault pc = some (pc', db')) :
    db' = db ∨ (∃ st, pc = .endStream st ∧ db' = db.endWhere (·.id == st.id) now) ∨
      db' = db.updateKey id fun k => { k with status := .revoked, revokedAt := some now } := by
  rcases revokeStep_cases h with h | h | ⟨-, -, h⟩
  exacts [.inl h, .inr (.inl h), .inr (.inr h)]

end RescueStream
