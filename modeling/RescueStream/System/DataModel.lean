import RescueStream.System.KeyRows
import RescueStream.System.Streams

/-! What the data model document asks of the rows, over every interleaving of requests.

Its validation rules: `key_value` matches `sk_[A-Za-z0-9_-]{43}`, and a stream's `path` is
URL-safe. Every key value is one `generateStreamKey` returned, no statement rewrites it, and
a stream's path is its key's value, so both hold in every reachable state.

Its history: a stream is "an active or historical video broadcast session", and revoking a
key or ending a stream only updates the row. No statement of the service deletes a key or a
stream row; only the cascade of a broadcaster's delete removes them.

Its status transitions: a key goes to `revoked` "via admin action" and to `expired`
"automatically when expires_at < now()". In the code each changing column of a key row has
one writer: `Revoke` writes `revoked` and `revoked_at`, and `Authenticate` writes
`last_used_at` and `expired`, the latter only for the key a publish presents. No key expires
while no one presents it. -/

namespace RescueStream

/-! ### Key values and paths -/

/-- A key `generateStreamKey` returns matches the pattern, has 46 characters and is URL-safe. -/
theorem generateStreamKey_valid {draw : Option RandomBytes} {v : String}
    (h : generateStreamKey draw = .ok v) :
    matchesKeyPattern v = true ∧ v.length = 46 ∧ ∀ c ∈ v.data, isURLChar c = true := by
  cases draw with
  | none => cases h
  | some b =>
    obtain rfl : "sk_" ++ encodeToString b.bytes = v := Except.ok.inj h
    have hlen : (encodeBlocks b.bytes).length = 43 := by rw [length_encodeBlocks, b.length_eq]
    have hdata : ("sk_" ++ encodeToString b.bytes).data = "sk_".data ++ encodeBlocks b.bytes := rfl
    refine ⟨?_, ?_, fun c hc => ?_⟩
    · simp only [matchesKeyPattern, hdata]
      simpa [hlen] using fun c hc => isURLChar_of_mem c (mem_encodeBlocks hc)
    · show ("sk_".data ++ encodeBlocks b.bytes).length = 46
      rw [List.length_append, hlen]; rfl
    · rw [hdata] at hc
      rcases List.mem_append.mp hc with hc | hc
      · exact (by decide : ∀ c ∈ "sk_".data, isURLChar c = true) c hc
      · exact isURLChar_of_mem c (mem_encodeBlocks hc)

namespace Sys

theorem step_issuedKeys {s s' : Sys} {a : Action} (h : s.step a = some s') :
    s'.issuedKeys = s.issuedKeys ∨
      ∃ draw v, generateStreamKey draw = .ok v ∧ s'.issuedKeys = v :: s.issuedKeys := by
  cases a with
  | createBroadcaster id fault => obtain ⟨-, rfl⟩ := createBroadcaster_cases h; exact .inl rfl
  | createStreamKey req draw id now fault =>
    rcases createStreamKey_cases h with rfl | ⟨v, hv, -, -, rfl⟩
    exacts [.inl rfl, .inr ⟨draw, v, hv, rfl⟩]
  | advance pid u now fault =>
    rcases advance_cases h with ⟨-, -, -, -, -, -, rfl⟩ | ⟨-, -, -, -, -, -, -, rfl, -⟩ <;>
      exact .inl rfl
  | _ => cases h; exact .inl rfl

/-- Every key value drawn so far is one `generateStreamKey` returned. -/
theorem issuedKeys_generated {s : Sys} (hs : Reachable s) :
    ∀ v ∈ s.issuedKeys, ∃ draw, generateStreamKey draw = .ok v := by
  induction hs with
  | init => exact fun _ h => (nomatch h)
  | step a _ hst ih =>
    intro v hv
    rcases step_issuedKeys hst with he | ⟨draw, w, hw, he⟩
    · exact ih v (he ▸ hv)
    · rcases List.mem_cons.mp (he ▸ hv) with rfl | hv
      · exact ⟨draw, hw⟩
      · exact ih v hv

theorem keyValue_valid {s : Sys} (hs : Reachable s) :
    ∀ k ∈ s.db.streamKeys, matchesKeyPattern k.keyValue = true ∧ k.keyValue.length = 46 ∧
      ∀ c ∈ k.keyValue.data, isURLChar c = true := fun k hk => by
  obtain ⟨draw, hv⟩ :=
    issuedKeys_generated hs k.keyValue ((reachable_wf hs).tables.keyValue_issued k hk)
  exact generateStreamKey_valid hv

/-- Every key value matches `sk_[A-Za-z0-9_-]{43}`, and every stream path is URL-safe. -/
theorem keyValues_valid_paths_urlSafe {s : Sys} (hs : Reachable s) :
    (∀ k ∈ s.db.streamKeys, matchesKeyPattern k.keyValue = true ∧ k.keyValue.length = 46) ∧
    ∀ r ∈ s.db.streams, ∀ c ∈ r.path.data, isURLChar c = true := by
  refine ⟨fun k hk => ⟨(keyValue_valid hs k hk).1, (keyValue_valid hs k hk).2.1⟩, fun r hr => ?_⟩
  obtain ⟨k, hk, -, hpath⟩ := (reachable_wf hs).tables.stream_key r hr
  exact hpath ▸ (keyValue_valid hs k hk).2.2

theorem keyValues_valid_paths_urlSafe_redelivery :
    Reachable (init.after redelivery) ∧
    (∀ k ∈ (init.after redelivery).db.streamKeys,
      matchesKeyPattern k.keyValue = true ∧ k.keyValue.length = 46) ∧
    ∀ r ∈ (init.after redelivery).db.streams, ∀ c ∈ r.path.data, isURLChar c = true :=
  ⟨reachable_redelivery, keyValues_valid_paths_urlSafe reachable_redelivery⟩

end Sys

/-! ### Rows are kept -/

theorem RowStep.streamKeyID_eq {r r' : Stream} (h : RowStep r r') : r'.streamKeyID = r.streamKeyID := by
  obtain rfl | ⟨-, t, rfl⟩ := h <;> rfl

namespace DbChange

variable {ids ids' : List Nat} {vals vals' : List String} {db db' : Store}

theorem key_kept (h : DbChange ids vals db ids' vals' db') {k : StreamKey} (hk : k ∈ db.streamKeys) :
    (∃ k' ∈ db'.streamKeys, k'.id = k.id) ∨ k.broadcasterID ∉ db'.broadcasters := by
  cases h with
  | updateKey id f hid _ _ =>
    exact .inl ⟨_, Store.mem_updateKey.mpr ⟨k, hk, rfl⟩, by split_ifs <;> simp [hid]⟩
  | insertKey key _ _ => exact .inl ⟨k, List.mem_cons_of_mem _ hk, rfl⟩
  | deleteBroadcaster b =>
    by_cases hb : k.broadcasterID = b
    · exact .inr (by simp [Store.deleteBroadcaster, hb])
    · exact .inl ⟨k, List.mem_filter.mpr ⟨hk, by simpa using hb⟩, rfl⟩
  | _ => exact .inl ⟨k, hk, rfl⟩

theorem row_kept (ht : Tables ids vals db) (h : DbChange ids vals db ids' vals' db') {r : Stream}
    (hr : r ∈ db.streams) :
    (∃ r' ∈ db'.streams, r'.id = r.id) ∨ ∀ k ∈ db'.streamKeys, k.id ≠ r.streamKeyID := by
  cases h with
  | endWhere cond now =>
    exact .inl ⟨_, Store.mem_endWhere.mpr ⟨r, hr, rfl⟩, by split_ifs <;> simp⟩
  | insertStream _ _ _ _ _ _ => exact .inl ⟨r, List.mem_cons_of_mem _ hr, rfl⟩
  | deleteBroadcaster b =>
    by_cases hg : r.streamKeyID ∈ (db.streamKeys.filter (·.broadcasterID = b)).map (·.id)
    · refine .inr fun k hk he => ?_
      obtain ⟨k₀, hk₀, hid⟩ := List.mem_map.mp hg
      obtain ⟨hk₀, hb⟩ := List.mem_filter.mp hk₀
      obtain ⟨hk, hne⟩ := List.mem_filter.mp hk
      obtain rfl := ht.key_eq_of_id hk hk₀ (he.trans hid.symm)
      simp_all
    · exact .inl ⟨r, List.mem_filter.mpr ⟨hr, by simpa using hg⟩, rfl⟩
  | _ => exact .inl ⟨r, hr, rfl⟩

end DbChange

namespace Sys

theorem Steps.rows_kept {s s' : Sys} (h : Steps s s') (hs : Reachable s) :
    (∀ k ∈ s.db.streamKeys,
      (∃ k' ∈ s'.db.streamKeys, k'.id = k.id) ∨ k.broadcasterID ∉ s'.db.broadcasters) ∧
    ∀ r ∈ s.db.streams,
      (∃ r' ∈ s'.db.streams, r'.id = r.id) ∨ ∀ k ∈ s'.db.streamKeys, k.id ≠ r.streamKeyID := by
  have hw := reachable_wf hs
  induction h with
  | refl => exact ⟨fun k hk => .inl ⟨k, hk, rfl⟩, fun r hr => .inl ⟨r, hr, rfl⟩⟩
  | tail a h₁ hst ih =>
    have hw₁ := h₁.wf hw
    have hc := step_change hw₁ hst
    have hsub := (h₁.issued hw).1
    refine ⟨fun k hk => ?_, fun r hr => ?_⟩
    · rcases ih.1 k hk with ⟨k₁, hk₁, hid⟩ | hn
      · rcases hc.key_kept hk₁ with ⟨k₂, hk₂, hid₂⟩ | hn
        · exact .inl ⟨k₂, hk₂, hid₂.trans hid⟩
        · exact .inr ((h₁.same_key_of_mem hw hk hk₁ hid).2.2.1 ▸ hn)
      · have hb := hsub ((reachable_owned hs).1 _ ((reachable_owned hs).2 k hk))
        exact .inr ((Steps.tail a (.refl _) hst).broadcaster_gone hw₁ hb hn)
    · rcases ih.2 r hr with ⟨r₁, hr₁, hid⟩ | hn
      · rcases hc.row_kept hw₁.tables hr₁ with ⟨r₂, hr₂, hid₂⟩ | hn
        · exact .inl ⟨r₂, hr₂, hid₂.trans hid⟩
        · exact .inr ((h₁.row_trace_of_mem hw hr hr₁ hid).streamKeyID_eq ▸ hn)
      · refine .inr fun k hk he => ?_
        rcases hc.key_history k hk with ⟨k₁, hk₁, hks⟩ | ⟨hi, -⟩
        · exact hn k₁ hk₁ (hks.1.symm.trans he)
        · obtain ⟨k₀, hk₀, hk₀id, -⟩ := hw.tables.stream_key r hr
          exact hi (he ▸ hk₀id ▸ hsub (hw.tables.keyID_issued k₀ hk₀))

/-- Over every run, only a broadcaster's cascading delete removes key or stream rows. -/
theorem rows_deleted_only_by_cascade {s s' : Sys} (hs : Reachable s) (h : Steps s s') :
    (∀ k ∈ s.db.streamKeys, k.broadcasterID ∈ s'.db.broadcasters →
      ∃ k' ∈ s'.db.streamKeys, k'.id = k.id) ∧
    ∀ r ∈ s.db.streams, (∃ k ∈ s'.db.streamKeys, k.id = r.streamKeyID) →
      ∃ r' ∈ s'.db.streams, r'.id = r.id := by
  have hk := (h.rows_kept hs).1
  have hr := (h.rows_kept hs).2
  refine ⟨fun k hmem hb => (hk k hmem).resolve_right (not_not_intro hb), fun r hmem hkey => ?_⟩
  obtain ⟨k, hk', he⟩ := hkey
  exact (hr r hmem).resolve_right fun hn => hn k hk' he

theorem rows_deleted_only_by_cascade_redelivery :
    let s := init.after redelivery
    let s' := s.after [.notReady ⟨zeroKey⟩ 4 false, .startRevoke 1, .advance 2 0 5 false,
      .advance 2 0 5 false, .advance 2 0 5 false]
    Reachable s ∧ Steps s s' ∧
    (∀ k ∈ s.db.streamKeys, k.broadcasterID ∈ s'.db.broadcasters →
      ∃ k' ∈ s'.db.streamKeys, k'.id = k.id) ∧
    ∀ r ∈ s.db.streams, (∃ k ∈ s'.db.streamKeys, k.id = r.streamKeyID) →
      ∃ r' ∈ s'.db.streams, r'.id = r.id := by
  intro s s'
  have h : Steps s s' := steps_of_run (run_after (by decide))
  exact ⟨reachable_redelivery, h, rows_deleted_only_by_cascade reachable_redelivery h⟩

end Sys

/-! ### Who writes a key row -/

theorem Store.mem_updateKey_cases {db : Store} {id : Nat} {f : StreamKey → StreamKey} {k' : StreamKey}
    (hk' : k' ∈ (db.updateKey id f).streamKeys) (hf : ∀ x, (f x).id = x.id) :
    ∃ x ∈ db.streamKeys, x.id = k'.id ∧ (k' = x ∨ x.id = id ∧ k' = f x) := by
  obtain ⟨x, hx, rfl⟩ := Store.mem_updateKey.mp hk'
  by_cases hxk : x.id = id
  · exact ⟨x, hx, by simp [hxk, hf], .inr ⟨hxk, if_pos hxk⟩⟩
  · exact ⟨x, hx, by simp [hxk], .inl (if_neg hxk)⟩

namespace Sys

theorem step_key_writes {s s' : Sys} {a : Action} (h : s.step a = some s') :
    (∀ k' ∈ s'.db.streamKeys, k'.id ∈ s.issuedIds → k' ∈ s.db.streamKeys) ∨
    (∃ req now fault key, a = .authenticate req now fault ∧ req.action = "publish" ∧
      s.db.keyByValue (extractKeyValue req) = some key ∧
      ((admitted (authenticate s.db req now fault).1 = true ∧ s'.db = s.db.touchKey key.id now) ∨
        (expiredAt key.expiresAt now = true ∧ s'.db = s.db.expireKey key.id))) ∨
    ∃ pid u now fault id t, s.procs[pid]? = some (.revoke id (.updateStatus t)) ∧
      a = .advance pid u now fault ∧
      s'.db = s.db.updateKey id fun k => { k with status := .revoked, revokedAt := some now } := by
  have same (he : s'.db.streamKeys = s.db.streamKeys) :
      ∀ k' ∈ s'.db.streamKeys, k'.id ∈ s.issuedIds → k' ∈ s.db.streamKeys :=
    fun k' hk' _ => he ▸ hk'
  cases a with
  | authenticate req now fault =>
    cases h
    rcases authenticate_cases s.db req now fault with ⟨-, he⟩ | ⟨-, -, he⟩ | ⟨-, _, he⟩ |
      ⟨hp, -, res, db', htx, he⟩
    iterate 3 exact .inl (same (by simp [he]))
    rcases authenticateTx_cases htx with ⟨-, rfl, -⟩ | ⟨key, hk, -, hexp, -, rfl⟩ |
      ⟨key, hk, -, -, -, rfl, rfl⟩
    · exact .inl (same (by simp [he]))
    · exact .inr (.inl ⟨req, now, fault, key, rfl, hp, hk, .inr ⟨hexp, by simp [he]⟩⟩)
    · exact .inr (.inl ⟨req, now, fault, key, rfl, hp, hk, .inl ⟨by simp [he, admitted], by simp [he]⟩⟩)
  | notReady req now fault =>
    cases h
    rcases handleNotReady_db s.db (some req) now fault with he | ⟨p, he⟩ <;>
      exact .inl (same (by simp [he]))
  | createBroadcaster id fault =>
    obtain ⟨-, rfl⟩ := createBroadcaster_cases h
    rcases BroadcasterService.create_db s.db id fault with he | he <;> exact .inl (same (by simp [he]))
  | deleteBroadcaster id fault =>
    cases h
    refine .inl fun k' hk' _ => ?_
    rcases BroadcasterService.delete_db s.db id fault with he | he <;> simp only [he] at hk'
    · exact hk'
    · exact (List.mem_filter.mp hk').1
  | createStreamKey req draw id now fault =>
    rcases createStreamKey_cases h with rfl | ⟨v, hv, hid, -, rfl⟩
    · exact .inl fun k' hk' _ => hk'
    refine .inl fun k' hk' hi => ?_
    rcases StreamKeyService.create_db s.db req id now fault hv with he | ⟨key, rfl, -, -, he⟩ <;>
      simp only [he] at hk'
    · exact hk'
    · rcases List.mem_cons.mp hk' with rfl | hk'
      · exact absurd hi hid
      · exact hk'
  | startRevoke id => cases h; exact .inl fun k' hk' _ => hk'
  | startReady req => cases h; exact .inl fun k' hk' _ => hk'
  | advance pid u now fault =>
    rcases advance_cases h with ⟨id, pc, pc', db', hp, hr, rfl⟩ |
      ⟨req, pc, pc', db', ids', -, hr, rfl, -⟩
    · rcases revokeStep_cases hr with rfl | ⟨st, -, rfl⟩ | ⟨t, rfl, rfl⟩
      · exact .inl fun k' hk' _ => hk'
      · exact .inl fun k' hk' _ => hk'
      · exact .inr (.inr ⟨pid, u, now, fault, id, t, hp, rfl, rfl⟩)
    · rcases readyStep_db hr with rfl | ⟨-, -, -, rfl⟩ <;> exact .inl fun k' hk' _ => hk'

/-- What one action does to one key row: nothing, a stamp, an expiry, or a revocation. -/
theorem step_key_row {s s' : Sys} {a : Action} (hw : s.WF) (h : s.step a = some s')
    {k k' : StreamKey} (hk : k ∈ s.db.streamKeys) (hk' : k' ∈ s'.db.streamKeys) (hid : k'.id = k.id) :
    k' = k ∨
    (∃ req now fault, a = .authenticate req now fault ∧ req.action = "publish" ∧
      extractKeyValue req = k.keyValue ∧
      ((admitted (authenticate s.db req now fault).1 = true ∧ k' = { k with lastUsedAt := some now }) ∨
        (expiredAt k.expiresAt now = true ∧ k' = { k with status := .expired }))) ∨
    ∃ pid u now fault t, s.procs[pid]? = some (.revoke k.id (.updateStatus t)) ∧
      a = .advance pid u now fault ∧ k' = { k with status := .revoked, revokedAt := some now } := by
  have ht := hw.tables
  rcases step_key_writes h with hsame | ⟨req, now, fault, key, rfl, hp, hkey, hw⟩ |
    ⟨pid, u, now, fault, id, t, hpid, rfl, he⟩
  · exact .inl (ht.key_eq_of_id (hsame k' hk' (hid ▸ ht.keyID_issued k hk)) hk hid)
  · obtain ⟨hkm, hkv⟩ := Store.mem_of_keyByValue hkey
    have hrow (f : StreamKey → StreamKey) (hf : ∀ x, (f x).id = x.id)
        (hk' : k' ∈ (s.db.updateKey key.id f).streamKeys) : k' = k ∨ (key = k ∧ k' = f k) := by
      obtain ⟨x, hx, hxid, hcase⟩ := Store.mem_updateKey_cases hk' hf
      obtain rfl := ht.key_eq_of_id hx hk (hxid.trans hid)
      rcases hcase with he | ⟨hxk, he⟩
      · exact .inl he
      · exact .inr ⟨ht.key_eq_of_id hkm hx hxk.symm, he⟩
    rcases hw with ⟨hadm, he⟩ | ⟨hexp, he⟩ <;> rw [he] at hk'
    · rcases hrow (fun k => { k with lastUsedAt := some now }) (fun _ => rfl) hk' with he | ⟨rfl, he⟩
      · exact .inl he
      · exact .inr (.inl ⟨req, now, fault, rfl, hp, hkv.symm, .inl ⟨hadm, he⟩⟩)
    · rcases hrow (fun k => { k with status := .expired }) (fun _ => rfl) hk' with he | ⟨rfl, he⟩
      · exact .inl he
      · exact .inr (.inl ⟨req, now, fault, rfl, hp, hkv.symm, .inr ⟨hexp, he⟩⟩)
  · rw [he] at hk'
    obtain ⟨x, hx, hxid, hcase⟩ := Store.mem_updateKey_cases hk' fun _ => rfl
    obtain rfl := ht.key_eq_of_id hx hk (hxid.trans hid)
    rcases hcase with hkk | ⟨rfl, hkk⟩
    · exact .inl hkk
    · exact .inr (.inr ⟨pid, u, now, fault, t, hpid, rfl, hkk⟩)

/-- Each column of a key row that changes after its insert has exactly one writer. -/
theorem key_column_writers {s s' : Sys} {a : Action} (hs : Reachable s) (h : s.step a = some s')
    {k k' : StreamKey} (hk : k ∈ s.db.streamKeys) (hk' : k' ∈ s'.db.streamKeys) (hid : k'.id = k.id) :
    (k'.lastUsedAt ≠ k.lastUsedAt → ∃ req now fault, a = .authenticate req now fault ∧
      req.action = "publish" ∧ extractKeyValue req = k.keyValue ∧
      admitted (authenticate s.db req now fault).1 = true) ∧
    (k'.status ≠ k.status →
      (k'.status = .expired ∧ ∃ req now fault, a = .authenticate req now fault ∧
        req.action = "publish" ∧ extractKeyValue req = k.keyValue ∧
        expiredAt k.expiresAt now = true) ∨
      (k'.status = .revoked ∧ ∃ pid u now fault t,
        s.procs[pid]? = some (.revoke k.id (.updateStatus t)) ∧ a = .advance pid u now fault)) ∧
    (k'.revokedAt ≠ k.revokedAt → ∃ pid u now fault t,
      s.procs[pid]? = some (.revoke k.id (.updateStatus t)) ∧ a = .advance pid u now fault) := by
  rcases step_key_row (reachable_wf hs) h hk hk' hid with rfl | ⟨req, now, fault, rfl, hp, hv, hw⟩ |
    ⟨pid, u, now, fault, t, hpid, rfl, rfl⟩
  · exact ⟨fun h => absurd rfl h, fun h => absurd rfl h, fun h => absurd rfl h⟩
  · rcases hw with ⟨hadm, rfl⟩ | ⟨hexp, rfl⟩
    · exact ⟨fun _ => ⟨req, now, fault, rfl, hp, hv, hadm⟩, fun h => absurd rfl h, fun h => absurd rfl h⟩
    · exact ⟨fun h => absurd rfl h, fun _ => .inl ⟨rfl, req, now, fault, rfl, hp, hv, hexp⟩,
        fun h => absurd rfl h⟩
  · exact ⟨fun h => absurd rfl h, fun _ => .inr ⟨rfl, pid, u, now, fault, t, hpid, rfl⟩,
      fun _ => ⟨pid, u, now, fault, t, hpid, rfl⟩⟩

theorem key_column_writers_setup :
    let s := init.after setup
    let a : Action := .authenticate ⟨zeroKey, "publish", zeroKey⟩ 5 none
    let s' := s.after [a]
    let k : StreamKey := ⟨1, zeroKey, 0, .active, 0, none, none, none⟩
    let k' : StreamKey := ⟨1, zeroKey, 0, .active, 0, none, none, some 5⟩
    Reachable s ∧ s.step a = some s' ∧ k ∈ s.db.streamKeys ∧ k' ∈ s'.db.streamKeys ∧ k'.id = k.id ∧
    (k'.lastUsedAt ≠ k.lastUsedAt → ∃ req now fault, a = .authenticate req now fault ∧
      req.action = "publish" ∧ extractKeyValue req = k.keyValue ∧
      admitted (authenticate s.db req now fault).1 = true) ∧
    (k'.status ≠ k.status →
      (k'.status = .expired ∧ ∃ req now fault, a = .authenticate req now fault ∧
        req.action = "publish" ∧ extractKeyValue req = k.keyValue ∧
        expiredAt k.expiresAt now = true) ∨
      (k'.status = .revoked ∧ ∃ pid u now fault t,
        s.procs[pid]? = some (.revoke k.id (.updateStatus t)) ∧ a = .advance pid u now fault)) ∧
    (k'.revokedAt ≠ k.revokedAt → ∃ pid u now fault t,
      s.procs[pid]? = some (.revoke k.id (.updateStatus t)) ∧ a = .advance pid u now fault) := by
  intro s a s' k k'
  have hs : Reachable s := reachable_of_run (run_after (by decide))
  have h : s.step a = some s' := by decide
  have hk : k ∈ s.db.streamKeys := by decide
  have hk' : k' ∈ s'.db.streamKeys := by decide
  exact ⟨hs, h, hk, hk', rfl, key_column_writers hs h hk hk' rfl⟩

/-! ### Ending a stream frees its key -/

/-- After a not-ready for its path, a key has no active stream and can be admitted again. -/
theorem notReady_frees_key {s : Sys} (hs : Reachable s) {k : StreamKey} (hk : k ∈ s.db.streamKeys)
    (hact : k.status = .active) (now now' : Int) (hexp : expiredAt k.expiresAt now' = false)
    (req : AuthRequest) (hpub : req.action = "publish") (hv : extractKeyValue req = k.keyValue) :
    admitted (authenticate (handleNotReady s.db (some ⟨k.keyValue⟩) now false).1 req now' none).1 =
      true := by
  have ht := (reachable_wf hs).tables
  have hne : k.keyValue ≠ "" := fun h => by
    obtain ⟨draw, hd⟩ := issuedKeys_generated hs k.keyValue (ht.keyValue_issued k hk)
    simpa [h] using (generateStreamKey_valid hd).2.1
  obtain ⟨db', hdb'⟩ : ∃ db', (handleNotReady s.db (some ⟨k.keyValue⟩) now false).1 = db' := ⟨_, rfl⟩
  have hw' := step_wf (reachable_wf hs)
    (show s.step (.notReady ⟨k.keyValue⟩ now false) = some { s with db := db' } by simp [step, hdb'])
  have hend := @handleNotReady_eq s.db ⟨k.keyValue⟩ now false hne
  simp only [Bool.false_eq_true, if_false, hdb'] at hend
  rw [hdb']
  have hkeys : db'.streamKeys = s.db.streamKeys := by rw [hend]; split_ifs <;> rfl
  have hnone : db'.activeStreamOf k.id = none := by
    refine Store.activeStreamOf_eq_none_iff.mpr fun r hr hrk ha => ?_
    have hpath : k.keyValue = r.path := hw'.tables.keyValue_eq_path hr (hkeys ▸ hk) hrk.symm
    rw [hend] at hr
    split_ifs at hr with hany
    · exact Store.not_active_of_endWhere hr (by simp [hpath]) ha
    · exact hany ⟨r, hr, hpath.symm, ha⟩
  have hkey : db'.keyByValue k.keyValue = some k :=
    (Store.keyByValue_eq_some_iff (hkeys ▸ ht.keyValues_nodup)).mpr ⟨hkeys ▸ hk, rfl⟩
  simp [authenticate, hpub, hv, hne, beginFunc, authenticateTx, hkey, hact, hexp, hnone, admitted]

theorem notReady_frees_key_redelivery :
    let s := init.after redelivery
    let k : StreamKey := ⟨1, zeroKey, 0, .active, 0, none, none, none⟩
    let req : AuthRequest := ⟨zeroKey, "publish", zeroKey⟩
    Reachable s ∧ k ∈ s.db.streamKeys ∧ k.status = .active ∧ expiredAt k.expiresAt 5 = false ∧
      req.action = "publish" ∧ extractKeyValue req = k.keyValue ∧
      admitted (authenticate (handleNotReady s.db (some ⟨k.keyValue⟩) 4 false).1 req 5 none).1 =
        true := by
  intro s k req
  have hk : k ∈ s.db.streamKeys := by decide
  exact ⟨reachable_redelivery, hk, rfl, rfl, rfl, rfl,
    notReady_frees_key reachable_redelivery hk rfl 4 5 rfl req rfl rfl⟩

end Sys

end RescueStream
