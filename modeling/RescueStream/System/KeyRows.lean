import RescueStream.System.Keys

/-! What an action does to a `stream_keys` row, column by column, and to the broadcasters.
`KeyMove` is finer than `KeyStep`: a statement leaves a row alone, stamps its `last_used_at`,
expires it (only while it is active and past its `expires_at`) or revokes it (setting
`revoked_at`), and writes no other column; `Sys.step_keys` says this of every action, a row it
inserts being the fresh one `StreamKeyService.Create` builds for an existing broadcaster.
`Sys.step_broadcasters` says that only `Create` adds a broadcaster, under a fresh id, and only
`Delete` removes one, with its keys.

From them, over every interleaving of requests: `revoked_at` is set exactly on the revoked keys
and every expired key has an `expires_at`; no run changes a key's value, owner, creation time
or expiry; every key row's owner is a broadcaster row; and a deleted broadcaster never comes
back, nor does any key it owned, whose value is neither admitted nor started as a stream
again. -/

namespace RescueStream

/-! ### One row, one statement -/

/-- Nothing, a `last_used_at` stamp, an expiry of an active key, or a revocation. -/
def KeyMove (k k' : StreamKey) : Prop :=
  k' = k ∨ (∃ t, k' = { k with lastUsedAt := some t }) ∨
    (k.status = .active ∧ (∃ t, expiredAt k.expiresAt t = true) ∧
      k' = { k with status := .expired }) ∨
    ∃ t, k' = { k with status := .revoked, revokedAt := some t }

def FreshKey (k : StreamKey) : Prop :=
  k.status = .active ∧ k.revokedAt = none ∧ k.lastUsedAt = none

/-- The columns no statement writes after the insert: id, value, owner, creation, expiry. -/
def SameKey (k k' : StreamKey) : Prop :=
  k'.id = k.id ∧ k'.keyValue = k.keyValue ∧ k'.broadcasterID = k.broadcasterID ∧
    k'.createdAt = k.createdAt ∧ k'.expiresAt = k.expiresAt

/-- `revoked_at` is set exactly on a revoked key, and an expired key has an `expires_at`. -/
def KeyShape (k : StreamKey) : Prop :=
  (k.revokedAt ≠ none ↔ k.status = .revoked) ∧ (k.status = .expired → k.expiresAt ≠ none)

theorem KeyMove.refl (k : StreamKey) : KeyMove k k := .inl rfl

theorem SameKey.refl (k : StreamKey) : SameKey k k := ⟨rfl, rfl, rfl, rfl, rfl⟩

theorem SameKey.trans {k k' k'' : StreamKey} (h₁ : SameKey k k') (h₂ : SameKey k' k'') :
    SameKey k k'' := by
  obtain ⟨a₁, b₁, c₁, d₁, e₁⟩ := h₁
  obtain ⟨a₂, b₂, c₂, d₂, e₂⟩ := h₂
  exact ⟨a₂.trans a₁, b₂.trans b₁, c₂.trans c₁, d₂.trans d₁, e₂.trans e₁⟩

theorem KeyMove.same {k k' : StreamKey} (h : KeyMove k k') : SameKey k k' := by
  rcases h with rfl | ⟨-, rfl⟩ | ⟨-, -, rfl⟩ | ⟨-, rfl⟩ <;> exact SameKey.refl _

theorem KeyMove.shape {k k' : StreamKey} (h : KeyMove k k') (hk : KeyShape k) : KeyShape k' := by
  rcases h with rfl | ⟨t, rfl⟩ | ⟨hact, ⟨t, hexp⟩, rfl⟩ | ⟨t, rfl⟩
  · exact hk
  · exact hk
  · have hnone : k.revokedAt = none := by simpa [hact] using hk.1
    refine ⟨by simp [hnone], fun _ hn => ?_⟩
    rw [show k.expiresAt = none from hn] at hexp
    cases hexp
  · simp [KeyShape]

theorem FreshKey.shape {k : StreamKey} (h : FreshKey k) : KeyShape k := by
  obtain ⟨hs, hr, -⟩ := h
  simp [KeyShape, hs, hr]

/-! ### One table, one action -/

def KeysMoved (db db' : Store) : Prop :=
  ∀ k' ∈ db'.streamKeys, ∃ k ∈ db.streamKeys, KeyMove k k'

namespace KeysMoved

theorem of_eq {db db' : Store} (h : db'.streamKeys = db.streamKeys) : KeysMoved db db' :=
  fun k' hk' => ⟨k', h ▸ hk', .refl k'⟩

theorem updateKey {db : Store} {id : Nat} {f : StreamKey → StreamKey}
    (hf : ∀ k ∈ db.streamKeys, k.id = id → KeyMove k (f k)) : KeysMoved db (db.updateKey id f) := by
  intro k' hk'
  obtain ⟨k, hk, rfl⟩ := Store.mem_updateKey.mp hk'
  refine ⟨k, hk, ?_⟩
  split_ifs with he
  · exact hf k hk he
  · exact .refl k

theorem deleteBroadcaster (db : Store) (b : Nat) : KeysMoved db (db.deleteBroadcaster b) :=
  fun k' hk' => ⟨k', (List.mem_filter.mp hk').1, .refl k'⟩

end KeysMoved

theorem authenticate_keysMoved {ids : List Nat} {vals : List String} {db : Store}
    (ht : Tables ids vals db) (req : AuthRequest) (now : Int) (fault : Option AuthStmt) :
    KeysMoved db (authenticate db req now fault).2 := by
  rcases authenticate_cases db req now fault with ⟨-, he⟩ | ⟨-, -, he⟩ | ⟨-, _, he⟩ |
    ⟨-, -, _, _, htx, he⟩ <;> rw [he]
  iterate 3 exact .of_eq rfl
  rcases authenticateTx_cases htx with ⟨-, rfl, -⟩ | ⟨key, hk, hact, hexp, -, rfl⟩ |
    ⟨key, -, -, -, -, -, rfl⟩
  · exact .of_eq rfl
  · refine .updateKey fun k hk' hid => ?_
    rw [ht.key_eq_of_id hk' (Store.mem_of_keyByValue hk).1 hid]
    exact .inr (.inr (.inl ⟨hact, ⟨now, hexp⟩, rfl⟩))
  · exact .updateKey fun k _ _ => .inr (.inl ⟨now, rfl⟩)

theorem StreamKeyService.create_fresh (db : Store) (req : CreateRequest) (id : Nat) (now : Int)
    (fault : Bool) {draw : Option RandomBytes} {v : String} (hv : generateStreamKey draw = .ok v) :
    (StreamKeyService.create db req draw id now fault).2 = db ∨
      ∃ key : StreamKey, key.id = id ∧ key.keyValue = v ∧ FreshKey key ∧
        key.broadcasterID ∈ db.broadcasters ∧
        (StreamKeyService.create db req draw id now fault).2 =
          { db with streamKeys := key :: db.streamKeys } := by
  simp only [StreamKeyService.create, hv]
  split
  · rename_i h
    obtain ⟨hins, he⟩ := StreamKeyRepo.create_ok h
    exact .inr ⟨_, rfl, rfl, ⟨rfl, rfl, rfl⟩, Store.keyInsertError_owner hins, he⟩
  · exact .inl rfl

namespace Sys

/-- The next statement of a call changes the tables and its program point, and may draw an id. -/
theorem advance_cases {s s' : Sys} {pid u : Nat} {now : Int} {fault : Bool}
    (h : s.advance pid u now fault = some s') :
    (∃ id pc pc' db', s.procs[pid]? = some (.revoke id pc) ∧
      revokeStep s.db id now fault pc = some (pc', db') ∧
      s' = { s with db := db', procs := s.procs.set pid (.revoke id pc') }) ∨
    ∃ req pc pc' db' ids', s.procs[pid]? = some (.ready req pc) ∧
      readyStep s.db req u now fault pc = some (pc', db') ∧
      s' = { s with db := db', procs := s.procs.set pid (.ready req pc'), issuedIds := ids' } ∧
      (ids' = s.issuedIds ∨ ∃ key, pc = .insert key ∧ u ∉ s.issuedIds ∧ ids' = u :: s.issuedIds) := by
  unfold advance at h
  split at h
  · rename_i id pc hp
    obtain ⟨⟨pc', db'⟩, hr, rfl⟩ := Option.map_eq_some'.mp h
    exact .inl ⟨id, pc, pc', db', hp, hr, rfl⟩
  · rename_i req key hp
    split_ifs at h with hu
    obtain ⟨⟨pc', db'⟩, hr, rfl⟩ := Option.map_eq_some'.mp h
    exact .inr ⟨req, _, pc', db', _, hp, hr, rfl, .inr ⟨key, rfl, hu, rfl⟩⟩
  · rename_i req pc _ hp
    obtain ⟨⟨pc', db'⟩, hr, rfl⟩ := Option.map_eq_some'.mp h
    exact .inr ⟨req, pc, pc', db', _, hp, hr, rfl, .inl rfl⟩
  · cases h

theorem createBroadcaster_cases {s s' : Sys} {id : Nat} {fault : Bool}
    (h : s.step (.createBroadcaster id fault) = some s') :
    id ∉ s.issuedIds ∧
      s' = { s with db := BroadcasterService.create s.db id fault, issuedIds := id :: s.issuedIds } := by
  simp only [step] at h
  split_ifs at h with hid
  exact ⟨hid, (Option.some.inj h).symm⟩

theorem createStreamKey_cases {s s' : Sys} {req : CreateRequest} {draw : Option RandomBytes}
    {id : Nat} {now : Int} {fault : Bool} (h : s.step (.createStreamKey req draw id now fault) = some s') :
    s' = s ∨ ∃ v, generateStreamKey draw = .ok v ∧ id ∉ s.issuedIds ∧ v ∉ s.issuedKeys ∧
      s' = { s with db := (StreamKeyService.create s.db req draw id now fault).2,
                    issuedIds := id :: s.issuedIds, issuedKeys := v :: s.issuedKeys } := by
  simp only [step] at h
  split at h
  · exact .inl (Option.some.inj h).symm
  · rename_i v hv
    split_ifs at h with hfresh
    exact .inr ⟨v, hv, (not_or.mp hfresh).1, (not_or.mp hfresh).2, (Option.some.inj h).symm⟩

theorem deleteBroadcaster_of_mem {s s' : Sys} {b : Nat} (hb : b ∈ s.db.broadcasters)
    (h : s.step (.deleteBroadcaster b false) = some s') :
    s' = { s with db := s.db.deleteBroadcaster b } := by
  cases h
  simp [BroadcasterService.delete, BroadcasterRepo.delete, hb]

theorem advance_keysMoved {s s' : Sys} {pid u : Nat} {now : Int} {fault : Bool}
    (h : s.advance pid u now fault = some s') : KeysMoved s.db s'.db := by
  rcases advance_cases h with ⟨id, pc, pc', db', -, hr, rfl⟩ | ⟨req, pc, pc', db', ids', -, hr, rfl, -⟩
  · rcases revokeStep_db hr with rfl | ⟨st, -, rfl⟩ | rfl
    · exact .of_eq rfl
    · exact .of_eq rfl
    · exact .updateKey fun k _ _ => .inr (.inr (.inr ⟨now, rfl⟩))
  · rcases readyStep_db hr with rfl | ⟨-, -, -, rfl⟩ <;> exact .of_eq rfl

/-- Every key row after an action is an old row after one `KeyMove`, or a fresh `Create`. -/
theorem step_keys {s s' : Sys} {a : Action} (hw : s.WF) (h : s.step a = some s') :
    ∀ k' ∈ s'.db.streamKeys, (∃ k ∈ s.db.streamKeys, KeyMove k k') ∨
      (k'.id ∉ s.issuedIds ∧ k'.keyValue ∉ s.issuedKeys ∧ FreshKey k' ∧
        k'.broadcasterID ∈ s.db.broadcasters) := by
  suffices KeysMoved s.db s'.db ∨ ∃ key, key.id ∉ s.issuedIds ∧ key.keyValue ∉ s.issuedKeys ∧
      FreshKey key ∧ key.broadcasterID ∈ s.db.broadcasters ∧
      s'.db.streamKeys = key :: s.db.streamKeys by
    intro k' hk'
    rcases this with hm | ⟨key, hi, hv, hf, ho, he⟩
    · exact .inl (hm k' hk')
    · rcases List.mem_cons.mp (he ▸ hk') with rfl | hk
      · exact .inr ⟨hi, hv, hf, ho⟩
      · exact .inl ⟨k', hk, .refl k'⟩
  cases a with
  | authenticate req now fault =>
    cases h
    exact .inl (authenticate_keysMoved hw.tables req now fault)
  | notReady req now fault =>
    cases h
    rcases handleNotReady_db s.db (some req) now fault with he | ⟨p, he⟩ <;>
      exact .inl (.of_eq (by simp [he]))
  | createBroadcaster id fault =>
    obtain ⟨-, rfl⟩ := createBroadcaster_cases h
    rcases BroadcasterService.create_db s.db id fault with he | he <;>
      exact .inl (.of_eq (by rw [he]))
  | deleteBroadcaster id fault =>
    cases h
    rcases BroadcasterService.delete_db s.db id fault with he | he <;> dsimp only <;> rw [he]
    · exact .inl (.of_eq rfl)
    · exact .inl (.deleteBroadcaster _ _)
  | createStreamKey req draw id now fault =>
    rcases createStreamKey_cases h with rfl | ⟨v, hv, hid, hval, rfl⟩
    · exact .inl (.of_eq rfl)
    rcases StreamKeyService.create_fresh s.db req id now fault hv with he | ⟨key, rfl, rfl, hf, ho, he⟩
    · exact .inl (.of_eq (by rw [he]))
    · exact .inr ⟨key, hid, hval, hf, ho, by rw [he]⟩
  | startRevoke id => cases h; exact .inl (.of_eq rfl)
  | startReady req => cases h; exact .inl (.of_eq rfl)
  | advance pid u now fault => exact .inl (advance_keysMoved h)

/-! ### Over every run -/

/-- In every reachable state `revoked_at` is set exactly on revoked keys. -/
theorem revokedAt_iff_revoked {s : Sys} (hs : Reachable s) :
    ∀ k ∈ s.db.streamKeys, (k.revokedAt ≠ none ↔ k.status = .revoked) ∧
      (k.status = .expired → k.expiresAt ≠ none) := by
  induction hs with
  | init => exact fun _ h => nomatch h
  | step a hs hst ih =>
    intro k' hk'
    rcases step_keys (reachable_wf hs) hst k' hk' with ⟨k, hk, hm⟩ | ⟨-, -, hf, -⟩
    · exact hm.shape (ih k hk)
    · exact hf.shape

theorem revokedAt_iff_revoked_revokeIdle :
    Reachable (init.after revokeIdle) ∧
    ∀ k ∈ (init.after revokeIdle).db.streamKeys, (k.revokedAt ≠ none ↔ k.status = .revoked) ∧
      (k.status = .expired → k.expiresAt ≠ none) := by
  have hs : Reachable (init.after revokeIdle) := reachable_of_run (run_after (by decide))
  exact ⟨hs, revokedAt_iff_revoked hs⟩

theorem Steps.same_key {s s' : Sys} (h : Steps s s') (hw : s.WF) :
    ∀ k' ∈ s'.db.streamKeys, (∃ k ∈ s.db.streamKeys, SameKey k k') ∨ k'.id ∉ s.issuedIds := by
  induction h with
  | refl => exact fun k hk => .inl ⟨k, hk, SameKey.refl k⟩
  | tail a h₁ hst ih =>
    intro k'' hk''
    rcases step_keys (h₁.wf hw) hst k'' hk'' with ⟨k', hk', hm⟩ | ⟨hi, -⟩
    · rcases ih k' hk' with ⟨k, hk, hsame⟩ | hi
      · exact .inl ⟨k, hk, hsame.trans hm.same⟩
      · exact .inr (hm.same.1 ▸ hi)
    · exact .inr fun hx => hi ((h₁.issued hw).1 hx)

theorem Steps.same_key_of_mem {s s' : Sys} (h : Steps s s') (hw : s.WF) {k k' : StreamKey}
    (hk : k ∈ s.db.streamKeys) (hk' : k' ∈ s'.db.streamKeys) (he : k'.id = k.id) : SameKey k k' := by
  rcases h.same_key hw k' hk' with ⟨k₀, hk₀, hsame⟩ | hi
  · obtain rfl := hw.tables.key_eq_of_id hk₀ hk (hsame.1.symm.trans he)
    exact hsame
  · exact absurd (he ▸ hw.tables.keyID_issued k hk) hi

/-- No run changes a key's value, owner, creation time or expiry. -/
theorem key_columns_fixed {s s' : Sys} (hs : Reachable s) (h : Steps s s') {k k' : StreamKey}
    (hk : k ∈ s.db.streamKeys) (hk' : k' ∈ s'.db.streamKeys) (he : k'.id = k.id) :
    k'.keyValue = k.keyValue ∧ k'.broadcasterID = k.broadcasterID ∧ k'.createdAt = k.createdAt ∧
      k'.expiresAt = k.expiresAt :=
  (h.same_key_of_mem (reachable_wf hs) hk hk' he).2

theorem key_columns_fixed_revokeIdle :
    let s := init.after setup
    let s' := init.after revokeIdle
    let k : StreamKey := ⟨1, zeroKey, 0, .active, 0, none, none, none⟩
    let k' : StreamKey := ⟨1, zeroKey, 0, .revoked, 0, none, some 1, none⟩
    Reachable s ∧ Steps s s' ∧ k ∈ s.db.streamKeys ∧ k' ∈ s'.db.streamKeys ∧ k'.id = k.id ∧
    k'.keyValue = k.keyValue ∧ k'.broadcasterID = k.broadcasterID ∧ k'.createdAt = k.createdAt ∧
      k'.expiresAt = k.expiresAt := by
  intro s s' k k'
  have hs : Reachable s := reachable_of_run (run_after (by decide))
  have h : Steps s s' := steps_of_run (show s.run (revokeIdle.drop 2) = some s' by decide)
  have hk : k ∈ s.db.streamKeys := by decide
  have hk' : k' ∈ s'.db.streamKeys := by decide
  exact ⟨hs, h, hk, hk', rfl, key_columns_fixed hs h hk hk' rfl⟩

/-! ### Owners -/

/-- Only `Create` adds a broadcaster, under a drawn id, and only `Delete` removes one. -/
theorem step_broadcasters {s s' : Sys} {a : Action} (h : s.step a = some s') :
    s'.db.broadcasters = s.db.broadcasters ∨
    (∃ id, id ∉ s.issuedIds ∧ s'.issuedIds = id :: s.issuedIds ∧
      s'.db.broadcasters = id :: s.db.broadcasters) ∨
    ∃ id, s'.db = s.db.deleteBroadcaster id := by
  cases a with
  | authenticate req now fault =>
    cases h
    rcases authenticate_db s.db req now fault with he | ⟨_, -, -, he⟩ | ⟨_, -, he⟩ <;>
      exact .inl (by dsimp only; rw [he] <;> rfl)
  | notReady req now fault =>
    cases h
    rcases handleNotReady_db s.db (some req) now fault with he | ⟨p, he⟩ <;>
      exact .inl (by dsimp only; rw [he] <;> rfl)
  | createBroadcaster id fault =>
    obtain ⟨hid, rfl⟩ := createBroadcaster_cases h
    rcases BroadcasterService.create_db s.db id fault with he | he
    · exact .inl (by dsimp only; rw [he])
    · exact .inr (.inl ⟨id, hid, rfl, by dsimp only; rw [he]⟩)
  | deleteBroadcaster id fault =>
    cases h
    rcases BroadcasterService.delete_db s.db id fault with he | he
    · exact .inl (by dsimp only; rw [he])
    · exact .inr (.inr ⟨id, he⟩)
  | createStreamKey req draw id now fault =>
    rcases createStreamKey_cases h with rfl | ⟨v, hv, -, -, rfl⟩
    · exact .inl rfl
    rcases StreamKeyService.create_fresh s.db req id now fault hv with he | ⟨_, -, -, -, -, he⟩ <;>
      exact .inl (by dsimp only; rw [he])
  | startRevoke id => cases h; exact .inl rfl
  | startReady req => cases h; exact .inl rfl
  | advance pid u now fault =>
    refine .inl ?_
    rcases advance_cases h with ⟨id, pc, pc', db', -, hr, rfl⟩ | ⟨req, pc, pc', db', ids', -, hr, rfl, -⟩
    · rcases revokeStep_db hr with rfl | ⟨st, -, rfl⟩ | rfl <;> rfl
    · rcases readyStep_db hr with rfl | ⟨-, -, -, rfl⟩ <;> rfl

/-- Every broadcaster id was drawn, and every key's owner is a broadcaster row. -/
def Owned (s : Sys) : Prop :=
  (∀ b ∈ s.db.broadcasters, b ∈ s.issuedIds) ∧
    ∀ k ∈ s.db.streamKeys, k.broadcasterID ∈ s.db.broadcasters

theorem step_owned {s s' : Sys} {a : Action} (hw : s.WF) (ho : Owned s) (h : s.step a = some s') :
    Owned s' := by
  have hsub := (step_change hw h).ids_subset
  have hkeys : ∀ k' ∈ s'.db.streamKeys, k'.broadcasterID ∈ s.db.broadcasters := fun k' hk' => by
    rcases step_keys hw h k' hk' with ⟨k, hk, hm⟩ | ⟨-, -, -, hb⟩
    · rw [hm.same.2.2.1]
      exact ho.2 k hk
    · exact hb
  rcases step_broadcasters h with he | ⟨id, -, hi, he⟩ | ⟨id, he⟩
  · rw [Owned, he]
    exact ⟨fun b hb => hsub (ho.1 b hb), hkeys⟩
  · rw [Owned, he, hi]
    refine ⟨fun b hb => ?_, fun k' hk' => List.mem_cons_of_mem _ (hkeys k' hk')⟩
    rcases List.mem_cons.mp hb with rfl | hb
    · exact List.mem_cons_self _ _
    · exact List.mem_cons_of_mem _ (ho.1 b hb)
  · rw [Owned, he]
    refine ⟨fun b hb => hsub (ho.1 b (List.mem_filter.mp hb).1), fun k' hk' => ?_⟩
    obtain ⟨hk', hne⟩ := List.mem_filter.mp hk'
    exact List.mem_filter.mpr ⟨ho.2 k' hk', by simpa using hne⟩

theorem reachable_owned {s : Sys} (hs : Reachable s) : Owned s := by
  induction hs with
  | init => exact ⟨fun _ h => (nomatch h), fun _ h => (nomatch h)⟩
  | step a hs hst ih => exact step_owned (reachable_wf hs) ih hst

theorem Steps.broadcaster_gone {s s' : Sys} (h : Steps s s') (hw : s.WF) {b : Nat}
    (hb : b ∈ s.issuedIds) (hn : b ∉ s.db.broadcasters) : b ∉ s'.db.broadcasters := by
  induction h with
  | refl => exact hn
  | tail a h₁ hst ih =>
    have hb' := (h₁.issued hw).1 hb
    rcases step_broadcasters hst with he | ⟨id, hid, -, he⟩ | ⟨id, he⟩
    · rw [he]
      exact ih
    · rw [he]
      exact List.not_mem_cons_of_ne_of_not_mem (fun e => hid (e ▸ hb')) ih
    · rw [he]
      exact fun hm => ih (List.mem_filter.mp hm).1

/-! ### Deleted broadcasters -/

theorem deleted_key_gone {s₀ s₁ s₂ : Sys} (hs : Reachable s₀) {b : Nat}
    (hb : b ∈ s₀.db.broadcasters) (h₁ : s₀.step (.deleteBroadcaster b false) = some s₁)
    (h₂ : Steps s₁ s₂) {k : StreamKey} (hk : k ∈ s₀.db.streamKeys) (hkb : k.broadcasterID = b) :
    (∀ k' ∈ s₂.db.streamKeys, k'.id ≠ k.id ∧ k'.keyValue ≠ k.keyValue) ∧
    (∀ r ∈ s₂.db.streams, r.streamKeyID ≠ k.id) ∧
    (∀ (req : AuthRequest) (now : Int) (fault : Option AuthStmt), req.action = "publish" →
      extractKeyValue req = k.keyValue → admitted (authenticate s₂.db req now fault).1 = false) ∧
    ∀ (req : WebhookReadyRequest) (d : ReadyDraw), req.path = k.keyValue →
      (handleReady s₂.db (some req) d).1 = s₂.db := by
  have hw := reachable_wf hs
  have hw₁ := step_wf hw h₁
  obtain rfl := deleteBroadcaster_of_mem hb h₁
  have hgone₁ : ∀ k₁ ∈ (s₀.db.deleteBroadcaster b).streamKeys,
      k₁.id ≠ k.id ∧ k₁.keyValue ≠ k.keyValue := by
    intro k₁ hk₁
    obtain ⟨hk₁, hne⟩ := List.mem_filter.mp hk₁
    have hne : k₁.broadcasterID ≠ b := by simpa using hne
    exact ⟨fun he => hne (hw.tables.key_eq_of_id hk₁ hk he ▸ hkb),
      fun he => hne (hw.tables.key_eq_of_value hk₁ hk he ▸ hkb)⟩
  have hgone : ∀ k' ∈ s₂.db.streamKeys, k'.id ≠ k.id ∧ k'.keyValue ≠ k.keyValue := by
    intro k' hk'
    rcases h₂.key_trace hw₁ k' hk' with ⟨k₁, hk₁, ht⟩ | ⟨hi, hv⟩
    · obtain ⟨hid, hval⟩ := KeyStep.trace_id ht
      rw [hid, hval]
      exact hgone₁ k₁ hk₁
    · exact ⟨fun he => hi (he ▸ hw.tables.keyID_issued k hk),
        fun he => hv (he ▸ hw.tables.keyValue_issued k hk)⟩
  have hnone : ∀ key, s₂.db.keyByValue k.keyValue ≠ some key := fun key hkey =>
    (hgone key (Store.mem_of_keyByValue hkey).1).2 (Store.mem_of_keyByValue hkey).2
  refine ⟨hgone, fun r hr he => ?_, fun req now fault hp hkv => ?_, fun req d hpath => ?_⟩
  · obtain ⟨k', hk', hid, -⟩ := (h₂.wf hw₁).tables.stream_key r hr
    exact (hgone k' hk').1 (hid.trans he)
  · cases hres : (authenticate s₂.db req now fault).1 with
    | error e => rfl
    | ok res =>
      by_contra ha
      obtain ⟨key, hkey, -⟩ := authenticate_allowed hres (by simpa [admitted] using ha) hp
      exact hnone key (hkv ▸ hkey)
  · rcases handleReady_inserts s₂.db req d with he | ⟨key, hkey, -⟩
    · exact he
    · exact absurd (hpath ▸ hkey) (hnone key)

/-- A successful `DELETE /broadcasters/{id}` is final, for it and every key it owned. -/
theorem deleted_broadcaster_never_returns {s₀ s₁ s₂ : Sys} (hs : Reachable s₀) {b : Nat}
    (hb : b ∈ s₀.db.broadcasters) (h₁ : s₀.step (.deleteBroadcaster b false) = some s₁)
    (h₂ : Steps s₁ s₂) :
    b ∉ s₂.db.broadcasters ∧ (∀ k' ∈ s₂.db.streamKeys, k'.broadcasterID ≠ b) ∧
    ∀ k ∈ s₀.db.streamKeys, k.broadcasterID = b →
      (∀ k' ∈ s₂.db.streamKeys, k'.id ≠ k.id ∧ k'.keyValue ≠ k.keyValue) ∧
      (∀ r ∈ s₂.db.streams, r.streamKeyID ≠ k.id) ∧
      (∀ (req : AuthRequest) (now : Int) (fault : Option AuthStmt), req.action = "publish" →
        extractKeyValue req = k.keyValue → admitted (authenticate s₂.db req now fault).1 = false) ∧
      ∀ (req : WebhookReadyRequest) (d : ReadyDraw), req.path = k.keyValue →
        (handleReady s₂.db (some req) d).1 = s₂.db := by
  have hs₁ : Reachable s₁ := .step _ hs h₁
  have hs₂ : Reachable s₂ := h₂.reachable hs₁
  have he₁ := deleteBroadcaster_of_mem hb h₁
  have hgone : b ∉ s₂.db.broadcasters := by
    refine h₂.broadcaster_gone (reachable_wf hs₁) ?_ ?_ <;> rw [he₁]
    · exact (reachable_owned hs).1 b hb
    · simp [Store.deleteBroadcaster]
  refine ⟨hgone, fun k' hk' he => hgone (he ▸ (reachable_owned hs₂).2 k' hk'), fun k hk hkb =>
    deleted_key_gone hs hb h₁ h₂ hk hkb⟩

theorem deleted_broadcaster_never_returns_setup :
    let s₀ := init.after setup
    let s₁ := s₀.after [.deleteBroadcaster 0 false]
    Reachable s₀ ∧ 0 ∈ s₀.db.broadcasters ∧ s₀.step (.deleteBroadcaster 0 false) = some s₁ ∧
    Steps s₁ s₁ ∧ 0 ∉ s₁.db.broadcasters ∧ (∀ k' ∈ s₁.db.streamKeys, k'.broadcasterID ≠ 0) ∧
    ∀ k ∈ s₀.db.streamKeys, k.broadcasterID = 0 →
      (∀ k' ∈ s₁.db.streamKeys, k'.id ≠ k.id ∧ k'.keyValue ≠ k.keyValue) ∧
      (∀ r ∈ s₁.db.streams, r.streamKeyID ≠ k.id) ∧
      (∀ (req : AuthRequest) (now : Int) (fault : Option AuthStmt), req.action = "publish" →
        extractKeyValue req = k.keyValue → admitted (authenticate s₁.db req now fault).1 = false) ∧
      ∀ (req : WebhookReadyRequest) (d : ReadyDraw), req.path = k.keyValue →
        (handleReady s₁.db (some req) d).1 = s₁.db := by
  intro s₀ s₁
  have hs : Reachable s₀ := reachable_of_run (run_after (by decide))
  have hb : 0 ∈ s₀.db.broadcasters := by decide
  have h₁ : s₀.step (.deleteBroadcaster 0 false) = some s₁ := by decide
  exact ⟨hs, hb, h₁, .refl s₁, deleted_broadcaster_never_returns hs hb h₁ (.refl s₁)⟩

end Sys

end RescueStream
