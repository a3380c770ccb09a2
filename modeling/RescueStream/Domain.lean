import Mathlib.Data.List.Nodup

/-! The rows of `stream_keys` and `streams` and the errors of the modelled code
(`internal/domain`). A `uuid.UUID` is a natural number and a `time.Time` an integer
instant; only their equality and order are used. The JSON-only fields of a stream
(`Metadata`, `RecordingRef`) and every field of a broadcaster but its id are left out:
no modelled function reads them. -/

namespace RescueStream

/-- `domain.StreamKeyStatus`; the schema's CHECK admits exactly these three values. -/
inductive StreamKeyStatus
  | active | revoked | expired
  deriving DecidableEq, Repr

inductive StreamStatus
  | active | ended
  deriving DecidableEq, Repr

structure StreamKey where
  id : Nat
  keyValue : String
  broadcasterID : Nat
  status : StreamKeyStatus
  createdAt : Int
  expiresAt : Option Int
  revokedAt : Option Int
  lastUsedAt : Option Int
  deriving DecidableEq, Repr

structure Stream where
  id : Nat
  streamKeyID : Nat
  path : String
  status : StreamStatus
  startedAt : Int
  endedAt : Option Int
  sourceType : Option String
  sourceID : Option String
  deriving DecidableEq, Repr

/-- What the database driver reports when a statement fails. -/
inductive DbError
  | unavailable | uniqueViolation | foreignKeyViolation | valueTooLong
  deriving DecidableEq, Repr

/-- The errors the modelled code returns: `ErrNotFound`, `ErrInvalidStatus`, a driver
failure, a failed `crypto/rand` read, and `fmt.Errorf("msg: %w", cause)`. -/
inductive Error
  | notFound
  | invalidStatus
  | db (e : DbError)
  | rand
  | wrap (msg : String) (cause : Error)
  deriving DecidableEq, Repr

instance decEqExcept {ε α : Type} [DecidableEq ε] [DecidableEq α] : DecidableEq (Except ε α)
  | .error x, .error y => decidable_of_iff (x = y) (by simp)
  | .ok x, .ok y => decidable_of_iff (x = y) (by simp)
  | .error _, .ok _ => isFalse nofun
  | .ok _, .error _ => isFalse nofun

/-- `errors.Is`: `target` is the error or one it wraps. -/
def Error.is : Error → Error → Bool
  | .wrap m c, t => .wrap m c == t || c.is t
  | e, t => e == t

/-- `ExpiresAt != nil && now.After(*ExpiresAt)`, shared by `IsValid` and `Authenticate`. -/
def expiredAt (expiresAt : Option Int) (now : Int) : Bool :=
  match expiresAt with
  | some e => e < now
  | none => false

@[simp] theorem expiredAt_none (now : Int) : expiredAt none now = false := rfl

@[simp] theorem expiredAt_some (e now : Int) : expiredAt (some e) now = decide (e < now) := rfl

end RescueStream
