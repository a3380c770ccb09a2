import RescueStream.Database.Store

/-! `AuthService.Authenticate`, the admission check MediaMTX calls before a publisher may
connect. Its statements run in one transaction that first locks the key row with
`SELECT ... FOR UPDATE`; the transaction writes only that row, so it is modelled as one
atomic step on the tables, and a failing statement rolls everything back. Go's
`time.Now()` and SQL's `NOW()` are the one clock reading `now`. The informational
request fields (`user`, `ip`, `protocol`, `id`, `query`) are only logged and left out. -/

namespace RescueStream

/-- The fields of `service.AuthRequest` that `Authenticate` decides on. -/
structure AuthRequest where
  password : String
  action : String
  path : String
  deriving DecidableEq, Repr

structure AuthResult where
  allowed : Bool
  streamKeyID : Option Nat
  reason : String
  deriving DecidableEq, Repr

inductive AuthStmt
  | begin | getStreamKey | updateExpired | checkActiveStream | updateLastUsed | commit
  deriving DecidableEq, Repr

def stripLeadingSlash (s : String) : String :=
  match s.data with
  | '/' :: rest => ⟨rest⟩
  | _ => s

/-- The password, or else the path without one leading slash. -/
def extractKeyValue (req : AuthRequest) : String :=
  if req.password = "" then stripLeadingSlash req.path else req.password

def Store.expireKey (db : Store) (id : Nat) : Store :=
  db.updateKey id fun k => { k with status := .expired }

/-- `SET last_used_at = NOW()`, with the database clock read as the action's `now`. -/
def Store.touchKey (db : Store) (id : Nat) (now : Int) : Store :=
  db.updateKey id fun k => { k with lastUsedAt := some now }

/-- The function passed to `pgx.BeginFunc`: its result and the tables it leaves. -/
def authenticateTx (db : Store) (keyValue : String) (now : Int) (fault : Option AuthStmt) :
    Except Error (AuthResult × Store) :=
  if fault = some .getStreamKey then .error (.wrap "failed to get stream key" (.db .unavailable))
  else match db.keyByValue keyValue with
  | none => .ok (⟨false, none, "invalid stream key"⟩, db)
  | some key =>
    if key.status = .revoked then .ok (⟨false, none, "stream key revoked"⟩, db)
    else if key.status = .expired then .ok (⟨false, none, "stream key expired"⟩, db)
    else if expiredAt key.expiresAt now then
      if fault = some .updateExpired then
        .error (.wrap "failed to update expired status" (.db .unavailable))
      else .ok (⟨false, none, "stream key expired"⟩, db.expireKey key.id)
    else if fault = some .checkActiveStream then
      .error (.wrap "failed to check active stream" (.db .unavailable))
    else if (db.activeStreamOf key.id).isSome then
      .ok (⟨false, none, "stream key already in use"⟩, db)
    else if fault = some .updateLastUsed then
      .error (.wrap "failed to update last used" (.db .unavailable))
    else .ok (⟨true, some key.id, "authentication successful"⟩, db.touchKey key.id now)

/-- `pgx.BeginFunc`: begin, run the body, commit; an error anywhere rolls back. -/
def beginFunc (fault : Option AuthStmt) (body : Except Error (AuthResult × Store)) :
    Except Error (AuthResult × Store) :=
  if fault = some .begin then .error (.db .unavailable)
  else match body with
    | .error e => .error e
    | .ok r => if fault = some .commit then .error (.db .unavailable) else .ok r

/-- `AuthService.Authenticate`: the result, and the tables after the call. -/
def authenticate (db : Store) (req : AuthRequest) (now : Int) (fault : Option AuthStmt) :
    Except Error AuthResult × Store :=
  if req.action ≠ "publish" then (.ok ⟨true, none, "non-publish action allowed"⟩, db)
  else
    let keyValue := extractKeyValue req
    if keyValue = "" then (.ok ⟨false, none, "missing stream key"⟩, db)
    else match beginFunc fault (authenticateTx db keyValue now fault) with
      | .ok (r, db') => (.ok r, db')
      | .error e => (.error (.wrap "authentication transaction failed" e), db)

def admitted : Except Error AuthResult → Bool
  | .ok res => res.allowed
  | .error _ => false

/-! ### What the transaction can write -/

theorem StreamKeyStatus.eq_active {s : StreamKeyStatus} (h₁ : s ≠ .revoked) (h₂ : s ≠ .expired) :
    s = .active := by
  cases s <;> simp_all

/-- The committed outcomes: a refusal leaving no key to admit, an expiry, or an admission. -/
theorem authenticateTx_cases {db db' : Store} {kv : String} {now : Int}
    {fault : Option AuthStmt} {res : AuthResult} (h : authenticateTx db kv now fault = .ok (res, db')) :
    (res.allowed = false ∧ db' = db ∧ ∀ key, db.keyByValue kv = some key → key.status = .active →
        expiredAt key.expiresAt now = false ∧ (db.activeStreamOf key.id).isSome) ∨
    (∃ key, db.keyByValue kv = some key ∧ key.status = .active ∧
      expiredAt key.expiresAt now = true ∧ res = ⟨false, none, "stream key expired"⟩ ∧
      db' = db.expireKey key.id) ∨
    ∃ key, db.keyByValue kv = some key ∧ key.status = .active ∧
      expiredAt key.expiresAt now = false ∧ db.activeStreamOf key.id = none ∧
      res = ⟨true, some key.id, "authentication successful"⟩ ∧ db' = db.touchKey key.id now := by
  unfold authenticateTx at h
  by_cases f₁ : fault = some .getStreamKey
  · rw [if_pos f₁] at h; cases h
  rw [if_neg f₁] at h
  cases hk : db.keyByValue kv with
  | none => rw [hk] at h; cases h; exact .inl ⟨rfl, rfl, fun _ hk' => nomatch hk'⟩
  | some key =>
    rw [hk] at h
    dsimp only at h
    by_cases h₂ : key.status = .revoked
    · rw [if_pos h₂] at h; cases h
      exact .inl ⟨rfl, rfl, fun _ hk' ha => absurd (Option.some.inj hk' ▸ ha) (by simp [h₂])⟩
    rw [if_neg h₂] at h
    by_cases h₃ : key.status = .expired
    · rw [if_pos h₃] at h; cases h
      exact .inl ⟨rfl, rfl, fun _ hk' ha => absurd (Option.some.inj hk' ▸ ha) (by simp [h₃])⟩
    rw [if_neg h₃] at h
    have hact := StreamKeyStatus.eq_active h₂ h₃
    by_cases h₄ : expiredAt key.expiresAt now = true
    · rw [if_pos h₄] at h
      by_cases f₂ : fault = some .updateExpired
      · rw [if_pos f₂] at h; cases h
      rw [if_neg f₂] at h; cases h; exact .inr (.inl ⟨key, rfl, hact, h₄, rfl, rfl⟩)
    rw [if_neg h₄] at h
    by_cases f₃ : fault = some .checkActiveStream
    · rw [if_pos f₃] at h; cases h
    rw [if_neg f₃] at h
    by_cases h₅ : (db.activeStreamOf key.id).isSome = true
    · rw [if_pos h₅] at h; cases h
      exact .inl ⟨rfl, rfl, fun _ hk' _ => Option.some.inj hk' ▸ ⟨by simpa using h₄, h₅⟩⟩
    rw [if_neg h₅] at h
    by_cases f₄ : fault = some .updateLastUsed
    · rw [if_pos f₄] at h; cases h
    rw [if_neg f₄] at h
    cases h
    exact .inr (.inr ⟨key, rfl, hact, by simpa using h₄, by simpa using h₅, rfl, rfl⟩)

theorem authenticateTx_db {db db' : Store} {kv : String} {now : Int} {fault : Option AuthStmt}
    {res : AuthResult} (h : authenticateTx db kv now fault = .ok (res, db')) :
    db' = db ∨
      (∃ key, db.keyByValue kv = some key ∧ key.status = .active ∧ db' = db.expireKey key.id) ∨
      ∃ key, db.keyByValue kv = some key ∧ db' = db.touchKey key.id now := by
  rcases authenticateTx_cases h with ⟨-, rfl, -⟩ | ⟨key, hk, hact, -, -, rfl⟩ |
    ⟨key, hk, -, -, -, -, rfl⟩
  · exact .inl rfl
  · exact .inr (.inl ⟨key, hk, hact, rfl⟩)
  · exact .inr (.inr ⟨key, hk, rfl⟩)

theorem beginFunc_ok {fault : Option AuthStmt} {body : Except Error (AuthResult × Store)}
    {r : AuthResult × Store} (h : beginFunc fault body = .ok r) : body = .ok r := by
  cases body with
  | error e => unfold beginFunc at h; split_ifs at h
  | ok r' => unfold beginFunc at h; split_ifs at h; cases h; rfl

/-- A non-publish or keyless request, a rollback, or what the transaction committed. -/
theorem authenticate_cases (db : Store) (req : AuthRequest) (now : Int) (fault : Option AuthStmt) :
    (req.action ≠ "publish" ∧
      authenticate db req now fault = (.ok ⟨true, none, "non-publish action allowed"⟩, db)) ∨
    (req.action = "publish" ∧ extractKeyValue req = "" ∧
      authenticate db req now fault = (.ok ⟨false, none, "missing stream key"⟩, db)) ∨
    (req.action = "publish" ∧ ∃ e, authenticate db req now fault = (.error e, db)) ∨
    (req.action = "publish" ∧ extractKeyValue req ≠ "" ∧ ∃ res db',
      authenticateTx db (extractKeyValue req) now fault = .ok (res, db') ∧
      authenticate db req now fault = (.ok res, db')) := by
  by_cases hp : req.action = "publish"
  · by_cases hk : extractKeyValue req = ""
    · exact .inr (.inl ⟨hp, hk, by simp [authenticate, hp, hk]⟩)
    rcases hb : beginFunc fault (authenticateTx db (extractKeyValue req) now fault) with
      e | ⟨res, db'⟩
    · exact .inr (.inr (.inl ⟨hp, .wrap "authentication transaction failed" e,
        by simp [authenticate, hp, hk, hb]⟩))
    · exact .inr (.inr (.inr ⟨hp, hk, res, db', beginFunc_ok hb,
        by simp [authenticate, hp, hk, hb]⟩))
  · exact .inl ⟨hp, by simp [authenticate, hp]⟩

/-- `Authenticate` writes nothing, an expiry, or a `last_used_at` stamp of the key it found. -/
theorem authenticate_db (db : Store) (req : AuthRequest) (now : Int) (fault : Option AuthStmt) :
    (authenticate db req now fault).2 = db ∨
      (∃ key, db.keyByValue (extractKeyValue req) = some key ∧ key.status = .active ∧
        (authenticate db req now fault).2 = db.expireKey key.id) ∨
      ∃ key, db.keyByValue (extractKeyValue req) = some key ∧
        (authenticate db req now fault).2 = db.touchKey key.id now := by
  rcases authenticate_cases db req now fault with ⟨-, he⟩ | ⟨-, -, he⟩ | ⟨-, _, he⟩ |
    ⟨-, -, _, _, htx, he⟩ <;> rw [he]
  iterate 3 exact .inl rfl
  exact authenticateTx_db htx

/-! ### What an admission implies -/

theorem authenticateTx_allowed {db db' : Store} {kv : String} {now : Int}
    {fault : Option AuthStmt} {res : AuthResult} (h : authenticateTx db kv now fault = .ok (res, db'))
    (ha : res.allowed = true) :
    ∃ key, db.keyByValue kv = some key ∧ key.status = .active ∧
      expiredAt key.expiresAt now = false ∧ db.activeStreamOf key.id = none ∧
      res.streamKeyID = some key.id ∧ db' = db.touchKey key.id now := by
  rcases authenticateTx_cases h with ⟨hf, -⟩ | ⟨-, -, -, -, rfl, -⟩ |
    ⟨key, hk, hact, hexp, hnone, rfl, rfl⟩
  · exact absurd ha (by simp [hf])
  · cases ha
  · exact ⟨key, hk, hact, hexp, hnone, rfl, rfl⟩

/-- An admitted publish presented an active, unexpired key with no active stream. -/
theorem authenticate_allowed {db : Store} {req : AuthRequest} {now : Int} {fault : Option AuthStmt}
    {res : AuthResult} (h : (authenticate db req now fault).1 = .ok res) (ha : res.allowed = true)
    (hp : req.action = "publish") :
    ∃ key, db.keyByValue (extractKeyValue req) = some key ∧ key.status = .active ∧
      expiredAt key.expiresAt now = false ∧ db.activeStreamOf key.id = none ∧
      res.streamKeyID = some key.id ∧ (authenticate db req now fault).2 = db.touchKey key.id now := by
  rcases authenticate_cases db req now fault with ⟨hp', -⟩ | ⟨-, -, he⟩ | ⟨-, _, he⟩ |
    ⟨-, -, r, db', htx, he⟩
  · exact absurd hp hp'
  · rw [he] at h; cases h; cases ha
  · rw [he] at h; cases h
  · rw [he] at h ⊢; cases h
    exact authenticateTx_allowed htx ha

end RescueStream
