import RescueStream.Domain

/-! The database as three tables under the constraints of the initial migration: the
primary keys, `stream_keys.key_value UNIQUE`, the `VARCHAR` lengths, the foreign keys
with `ON DELETE CASCADE`, and the partial unique index `idx_streams_one_active_per_key`.
An insert that breaks a constraint reports the driver's error and changes nothing; an
`UPDATE` is a map over its table. Rows are unordered in SQL; the lists here hold them in
insertion order, newest first, and every query used returns at most one row. -/

namespace RescueStream

/-- The row change of `UPDATE streams SET status = 'ended', ended_at = NOW()`. -/
def Stream.finish (r : Stream) (now : Int) : Stream :=
  { r with status := .ended, endedAt := some now }

@[simp] theorem Stream.finish_id (r : Stream) (now : Int) : (Stream.finish r now).id = r.id := rfl

@[simp] theorem Stream.finish_streamKeyID (r : Stream) (now : Int) :
    (Stream.finish r now).streamKeyID = r.streamKeyID := rfl

@[simp] theorem Stream.finish_path (r : Stream) (now : Int) : (Stream.finish r now).path = r.path :=
  rfl

@[simp] theorem Stream.finish_status (r : Stream) (now : Int) :
    (Stream.finish r now).status = .ended := rfl

@[simp] theorem Stream.finish_endedAt (r : Stream) (now : Int) :
    (Stream.finish r now).endedAt = some now := rfl

/-- The tables `broadcasters` (ids only), `stream_keys` and `streams`. -/
structure Store where
  broadcasters : List Nat
  streamKeys : List StreamKey
  streams : List Stream
  deriving DecidableEq, Repr

namespace Store

def empty : Store := ⟨[], [], []⟩

/-- `SELECT ... FROM stream_keys WHERE id = $1`. -/
def keyByID (db : Store) (id : Nat) : Option StreamKey :=
  db.streamKeys.find? (·.id == id)

/-- `SELECT ... FROM stream_keys WHERE key_value = $1`. -/
def keyByValue (db : Store) (v : String) : Option StreamKey :=
  db.streamKeys.find? (·.keyValue == v)

/-- `SELECT ... FROM streams WHERE stream_key_id = $1 AND status = 'active'`. -/
def activeStreamOf (db : Store) (keyID : Nat) : Option Stream :=
  db.streams.find? fun r => r.streamKeyID == keyID && r.status == .active

/-- Why an insert into `stream_keys` fails: `VARCHAR(64)`, the keys, the foreign key. -/
def keyInsertError (db : Store) (key : StreamKey) : Option DbError :=
  if 64 < key.keyValue.length then some .valueTooLong
  else if ∃ k ∈ db.streamKeys, k.id = key.id ∨ k.keyValue = key.keyValue then some .uniqueViolation
  else if key.broadcasterID ∉ db.broadcasters then some .foreignKeyViolation
  else none

/-- Why an insert into `streams` fails: the `VARCHAR` lengths, the primary key,
`idx_streams_one_active_per_key`, and the foreign key to `stream_keys`. -/
def streamInsertError (db : Store) (r : Stream) : Option DbError :=
  if 255 < r.path.length ∨ r.sourceType.any (50 < ·.length) ∨ r.sourceID.any (255 < ·.length) then
    some .valueTooLong
  else if ∃ x ∈ db.streams, x.id = r.id then some .uniqueViolation
  else if r.status = .active ∧ ∃ x ∈ db.streams, x.streamKeyID = r.streamKeyID ∧ x.status = .active then
    some .uniqueViolation
  else if ¬ ∃ k ∈ db.streamKeys, k.id = r.streamKeyID then some .foreignKeyViolation
  else none

def insertBroadcaster (db : Store) (id : Nat) : Except DbError Store :=
  if id ∈ db.broadcasters then .error .uniqueViolation
  else .ok { db with broadcasters := id :: db.broadcasters }

def insertKey (db : Store) (key : StreamKey) : Except DbError Store :=
  match db.keyInsertError key with
  | some e => .error e
  | none => .ok { db with streamKeys := key :: db.streamKeys }

def insertStream (db : Store) (r : Stream) : Except DbError Store :=
  match db.streamInsertError r with
  | some e => .error e
  | none => .ok { db with streams := r :: db.streams }

/-- `UPDATE stream_keys SET ... WHERE id = $1`, the change to the row being `f`. -/
def updateKey (db : Store) (id : Nat) (f : StreamKey → StreamKey) : Store :=
  { db with streamKeys := db.streamKeys.map fun k => if k.id = id then f k else k }

/-- `UPDATE streams SET status = 'ended', ended_at = NOW() WHERE cond AND status = 'active'`. -/
def endWhere (db : Store) (cond : Stream → Bool) (now : Int) : Store :=
  { db with streams := db.streams.map fun r =>
      if cond r ∧ r.status = .active then Stream.finish r now else r }

/-- `DELETE FROM broadcasters WHERE id = $1` with both `ON DELETE CASCADE`s. -/
def deleteBroadcaster (db : Store) (id : Nat) : Store :=
  let gone := (db.streamKeys.filter (·.broadcasterID = id)).map (·.id)
  { broadcasters := db.broadcasters.filter (· ≠ id)
    streamKeys := db.streamKeys.filter (·.broadcasterID ≠ id)
    streams := db.streams.filter (·.streamKeyID ∉ gone) }

/-! ### Rows of the tables after each statement -/

@[simp] theorem updateKey_broadcasters (db : Store) (id : Nat) (f : StreamKey → StreamKey) :
    (db.updateKey id f).broadcasters = db.broadcasters := rfl

@[simp] theorem updateKey_streams (db : Store) (id : Nat) (f : StreamKey → StreamKey) :
    (db.updateKey id f).streams = db.streams := rfl

@[simp] theorem endWhere_broadcasters (db : Store) (cond : Stream → Bool) (now : Int) :
    (db.endWhere cond now).broadcasters = db.broadcasters := rfl

@[simp] theorem endWhere_streamKeys (db : Store) (cond : Stream → Bool) (now : Int) :
    (db.endWhere cond now).streamKeys = db.streamKeys := rfl

theorem map_updateKey {α : Type} (db : Store) (id : Nat) (f : StreamKey → StreamKey)
    (g : StreamKey → α) (hg : ∀ k, g (f k) = g k) :
    (db.updateKey id f).streamKeys.map g = db.streamKeys.map g := by
  simp only [updateKey, List.map_map]
  congr 1
  funext k
  by_cases h : k.id = id <;> simp [h, hg]

theorem map_endWhere {α : Type} (db : Store) (cond : Stream → Bool) (now : Int)
    (g : Stream → α) (hg : ∀ r, g (Stream.finish r now) = g r) :
    (db.endWhere cond now).streams.map g = db.streams.map g := by
  simp only [endWhere, List.map_map]
  congr 1
  funext r
  by_cases h : cond r = true ∧ r.status = .active <;> simp [h, hg]

theorem mem_endWhere {db : Store} {cond : Stream → Bool} {now : Int} {r : Stream} :
    r ∈ (db.endWhere cond now).streams ↔
      ∃ x ∈ db.streams, (if cond x = true ∧ x.status = .active then Stream.finish x now else x) = r := by
  simp [endWhere]

theorem mem_updateKey {db : Store} {id : Nat} {f : StreamKey → StreamKey} {k : StreamKey} :
    k ∈ (db.updateKey id f).streamKeys ↔
      ∃ x ∈ db.streamKeys, (if x.id = id then f x else x) = k := by
  simp [updateKey]

theorem mem_of_keyByValue {db : Store} {v : String} {k : StreamKey} (h : db.keyByValue v = some k) :
    k ∈ db.streamKeys ∧ k.keyValue = v :=
  ⟨List.mem_of_find?_eq_some h, by simpa using List.find?_some h⟩

theorem keyByValue_isSome {db : Store} {v : String} {k : StreamKey} (hk : k ∈ db.streamKeys)
    (hv : k.keyValue = v) : ∃ k', db.keyByValue v = some k' :=
  Option.isSome_iff_exists.mp (List.find?_isSome.mpr ⟨k, hk, by simp [hv]⟩)

/-- With `key_value UNIQUE`, the lookup by value finds exactly the row with the value. -/
theorem keyByValue_eq_some_iff {db : Store} (hv : (db.streamKeys.map (·.keyValue)).Nodup)
    {v : String} {k : StreamKey} : db.keyByValue v = some k ↔ k ∈ db.streamKeys ∧ k.keyValue = v := by
  refine ⟨mem_of_keyByValue, fun ⟨hk, hkv⟩ => ?_⟩
  obtain ⟨k', hk'⟩ := keyByValue_isSome hk hkv
  obtain ⟨hm, he⟩ := mem_of_keyByValue hk'
  rw [hk', List.inj_on_of_nodup_map hv hm hk (he.trans hkv.symm)]

theorem mem_of_activeStreamOf {db : Store} {keyID : Nat} {r : Stream}
    (h : db.activeStreamOf keyID = some r) :
    r ∈ db.streams ∧ r.streamKeyID = keyID ∧ r.status = .active := by
  have := List.find?_some h
  simp only [Bool.and_eq_true, beq_iff_eq] at this
  exact ⟨List.mem_of_find?_eq_some h, this⟩

theorem activeStreamOf_isSome {db : Store} {keyID : Nat} {r : Stream} (hr : r ∈ db.streams)
    (hk : r.streamKeyID = keyID) (ha : r.status = .active) : ∃ r', db.activeStreamOf keyID = some r' :=
  Option.isSome_iff_exists.mp (List.find?_isSome.mpr ⟨r, hr, by simp [hk, ha]⟩)

theorem activeStreamOf_eq_none {db : Store} {keyID : Nat} (h : db.activeStreamOf keyID = none) :
    ∀ r ∈ db.streams, r.streamKeyID = keyID → r.status ≠ .active := by
  intro r hr hk ha
  simpa [hk, ha] using List.find?_eq_none.mp h r hr

theorem activeStreamOf_eq_none_iff {db : Store} {keyID : Nat} :
    db.activeStreamOf keyID = none ↔ ∀ r ∈ db.streams, r.streamKeyID = keyID → r.status ≠ .active :=
  ⟨activeStreamOf_eq_none, fun h => List.find?_eq_none.mpr fun r hr => by simpa using h r hr⟩

theorem not_active_of_endWhere {db : Store} {cond : Stream → Bool} {now : Int} {r : Stream}
    (hr : r ∈ (db.endWhere cond now).streams) (hc : cond r = true) : r.status ≠ .active := by
  obtain ⟨x, -, rfl⟩ := mem_endWhere.mp hr
  split_ifs at hc ⊢ with hx
  · simp
  · exact fun ha => hx ⟨hc, ha⟩

theorem streamInsertError_eq_none {db : Store} {r : Stream} (h : db.streamInsertError r = none) :
    (∀ x ∈ db.streams, x.id ≠ r.id) ∧
      (r.status = .active → ∀ x ∈ db.streams, x.streamKeyID = r.streamKeyID → x.status ≠ .active) ∧
      ∃ k ∈ db.streamKeys, k.id = r.streamKeyID := by
  unfold streamInsertError at h
  split_ifs at h with h₁ h₂ h₃ h₄
  push_neg at h₂ h₃ h₄
  exact ⟨h₂, fun ha x hx hk => h₃ ha x hx hk, h₄⟩

theorem streamInsertError_of_active {db : Store} {r : Stream} (ha : r.status = .active)
    (hx : ∃ x ∈ db.streams, x.streamKeyID = r.streamKeyID ∧ x.status = .active) :
    db.streamInsertError r ≠ none := fun h => by
  obtain ⟨x, hx, hk, hxa⟩ := hx
  exact (streamInsertError_eq_none h).2.1 ha x hx hk hxa

theorem keyInsertError_owner {db : Store} {key : StreamKey} (h : db.keyInsertError key = none) :
    key.broadcasterID ∈ db.broadcasters := by
  unfold keyInsertError at h
  split_ifs at h with h₁ h₂ h₃
  exact h₃

end Store

end RescueStream
