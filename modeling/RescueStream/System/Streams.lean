import RescueStream.System.Run
import Mathlib.Data.List.Pairwise

/-! The `streams` table over every run. In every reachable state a key has at most one
active stream, a stream's path is the value of its key, and `ended_at` is set exactly on the
ended rows; ending a row is final. An active row that an action adds is always the row a
`handleReady` call builds for the key it looked up by the path: no other action creates a
stream, and `handleReady` consults neither the key's status nor any admission. -/

namespace RescueStream

theorem length_filter_le_one {α : Type} {l : List α} {q : α → Bool} (hl : l.Nodup)
    (h : ∀ a ∈ l, ∀ b ∈ l, q a = true → q b = true → a = b) : (l.filter q).length ≤ 1 := by
  have hn := hl.filter q
  have hm : ∀ a ∈ l.filter q, ∀ b ∈ l.filter q, a = b := fun a ha b hb => by
    rw [List.mem_filter] at ha hb
    exact h a ha.1 b hb.1 ha.2 hb.2
  match hf : l.filter q, hn, hm with
  | [], _, _ | [_], _, _ => simp
  | a :: b :: _, hn, hm =>
    have hab : a = b := hm a (by simp) b (by simp)
    exact ((List.nodup_cons.mp hn).1 (by rw [hab]; exact List.mem_cons_self _ _)).elim

namespace Tables

variable {ids : List Nat} {vals : List String} {db : Store}

theorem streams_nodup (ht : Tables ids vals db) : db.streams.Nodup :=
  ht.streamIDs_nodup.of_map _

theorem active_eq (ht : Tables ids vals db) {r r' : Stream} (hr : r ∈ db.streams)
    (hr' : r' ∈ db.streams) (ha : r.status = .active) (ha' : r'.status = .active)
    (hk : r.streamKeyID = r'.streamKeyID) : r = r' := by
  have hsym : Symmetric fun a b : Stream =>
      a.status = .active → b.status = .active → a.streamKeyID ≠ b.streamKeyID :=
    fun _ _ h ha hb he => h hb ha he.symm
  by_contra hne
  exact ht.oneActive.forall hsym hr hr' hne ha ha' hk

theorem keyValue_eq_path (ht : Tables ids vals db) {r : Stream} (hr : r ∈ db.streams)
    {k : StreamKey} (hk : k ∈ db.streamKeys) (he : k.id = r.streamKeyID) : k.keyValue = r.path := by
  obtain ⟨k₀, hk₀, h₁, h₂⟩ := ht.stream_key r hr
  rw [ht.key_eq_of_id hk hk₀ (he.trans h₁.symm), h₂]

/-- The row that `handleNotReady(p)` ends is the active stream of the key whose value is `p`. -/
theorem activeOfPath_iff (ht : Tables ids vals db) {r : Stream} (hr : r ∈ db.streams) (p : String) :
    (db.keyByValue p).bind (fun k => db.activeStreamOf k.id) = some r ↔
      r.path = p ∧ r.status = .active := by
  constructor
  · intro h
    obtain ⟨k, hk, hs⟩ := Option.bind_eq_some.mp h
    obtain ⟨hkm, hkv⟩ := Store.mem_of_keyByValue hk
    obtain ⟨-, hrk, hra⟩ := Store.mem_of_activeStreamOf hs
    exact ⟨(ht.keyValue_eq_path hr hkm hrk.symm).symm.trans hkv, hra⟩
  · rintro ⟨rfl, ha⟩
    obtain ⟨k, hk, hkid, hkv⟩ := ht.stream_key r hr
    obtain ⟨k', hk'⟩ := Store.keyByValue_isSome hk hkv
    obtain ⟨hk'm, hk'v⟩ := Store.mem_of_keyByValue hk'
    obtain rfl := ht.key_eq_of_value hk'm hk (hk'v.trans hkv.symm)
    obtain ⟨r', hr'⟩ := Store.activeStreamOf_isSome hr hkid.symm ha
    obtain ⟨hr'm, hr'k, hr'a⟩ := Store.mem_of_activeStreamOf hr'
    rw [Option.bind_eq_some]
    exact ⟨k', hk', hr'.trans (congrArg some (ht.active_eq hr'm hr hr'a ha (hr'k.trans hkid)))⟩

end Tables

namespace Sys

/-- The ready webhook of key `1`, its not-ready, and the ready delivered again. -/
def redelivery : List Action :=
  setup ++ [.startReady ⟨zeroKey, "rtmpConn", ""⟩, .advance 0 2 1 false,
    .advance 0 2 1 false, .notReady ⟨zeroKey⟩ 2 false,
    .startReady ⟨zeroKey, "rtmpConn", ""⟩, .advance 1 3 3 false,
    .advance 1 3 3 false]

theorem reachable_redelivery : Reachable (init.after redelivery) :=
  reachable_of_run (run_after (by decide))

/-! ### At most one active stream per key -/

theorem one_active_per_key {s : Sys} (hs : Reachable s) :
    (∀ K : Nat, (s.db.streams.filter fun r => r.streamKeyID == K && r.status == .active).length ≤ 1) ∧
    (∀ (r : Stream) (fault : Bool), r.status = .active →
      (∃ x ∈ s.db.streams, x.streamKeyID = r.streamKeyID ∧ x.status = .active) →
      ∃ e, StreamRepo.create s.db r fault = .error e) ∧
    ∀ s', Steps s s' → ∀ r ∈ s.db.streams, r.status ≠ .active →
      ∀ r' ∈ s'.db.streams, r'.id = r.id → r'.status ≠ .active := by
  have hw := reachable_wf hs
  refine ⟨fun K => length_filter_le_one hw.tables.streams_nodup fun a ha b hb hqa hqb => ?_,
    fun r fault ha hx => StreamRepo.create_error_of_active ha hx,
    fun s' h r hr hna r' hr' he => ?_⟩
  · simp only [Bool.and_eq_true, beq_iff_eq] at hqa hqb
    exact hw.tables.active_eq ha hb hqa.2 hqb.2 (hqa.1.trans hqb.1.symm)
  · rwa [(h.row_trace_of_mem hw hr hr' he).eq_of_not_active hna]

theorem one_active_per_key_redelivery :
    let s := init.after redelivery
    Reachable s ∧
    (∀ K : Nat, (s.db.streams.filter fun r => r.streamKeyID == K && r.status == .active).length ≤ 1) ∧
    (∀ (r : Stream) (fault : Bool), r.status = .active →
      (∃ x ∈ s.db.streams, x.streamKeyID = r.streamKeyID ∧ x.status = .active) →
      ∃ e, StreamRepo.create s.db r fault = .error e) ∧
    ∀ s', Steps s s' → ∀ r ∈ s.db.streams, r.status ≠ .active →
      ∀ r' ∈ s'.db.streams, r'.id = r.id → r'.status ≠ .active :=
  ⟨reachable_redelivery, one_active_per_key reachable_redelivery⟩

/-! ### Paths are key values -/

theorem stream_path_key_value {s : Sys} (hs : Reachable s) :
    (∀ r ∈ s.db.streams, (∃ k ∈ s.db.streamKeys, k.id = r.streamKeyID) ∧
      ∀ k ∈ s.db.streamKeys, k.id = r.streamKeyID → k.keyValue = r.path) ∧
    (∀ p : String, (s.db.streams.filter fun r => r.path == p && r.status == .active).length ≤ 1) ∧
    ∀ (req : WebhookNotReadyRequest) (now : Int) (fault : Bool), req.path ≠ "" →
      (handleNotReady s.db (some req) now fault).1 = if fault then s.db else
        { s.db with streams := s.db.streams.map fun r =>
            if (s.db.keyByValue req.path).bind (fun k => s.db.activeStreamOf k.id) = some r
            then r.finish now else r } := by
  have ht := (reachable_wf hs).tables
  refine ⟨fun r hr => ?_, fun p => ?_, fun req now fault hp => ?_⟩
  · obtain ⟨k, hk, hid, -⟩ := ht.stream_key r hr
    exact ⟨⟨k, hk, hid⟩, fun k hk he => ht.keyValue_eq_path hr hk he⟩
  · refine length_filter_le_one ht.streams_nodup fun a ha b hb hqa hqb => ?_
    simp only [Bool.and_eq_true, beq_iff_eq] at hqa hqb
    rw [← ht.activeOfPath_iff ha] at hqa
    rw [← ht.activeOfPath_iff hb] at hqb
    exact Option.some.inj (hqa.symm.trans hqb)
  · have hmap : ∀ r ∈ s.db.streams,
        (if (r.path == req.path) = true ∧ r.status = .active then r.finish now else r) =
          if (s.db.keyByValue req.path).bind (fun k => s.db.activeStreamOf k.id) = some r
          then r.finish now else r := fun r hr => by
      simp only [beq_iff_eq, ht.activeOfPath_iff hr]
    rw [handleNotReady_eq _ _ _ hp]
    split_ifs with hf he
    · rfl
    · exact congrArg (fun l => { s.db with streams := l }) (List.map_congr_left hmap)
    · refine (congrArg (fun l => { s.db with streams := l })
        ((List.map_congr_left fun r hr => ?_).trans (List.map_id' _))).symm
      rw [← hmap r hr, if_neg fun hc => he ⟨r, hr, by simpa using hc.1, hc.2⟩]

theorem stream_path_key_value_redelivery :
    let s := init.after redelivery
    let req : WebhookNotReadyRequest := ⟨zeroKey⟩
    Reachable s ∧ req.path ≠ "" ∧
    (∀ r ∈ s.db.streams, (∃ k ∈ s.db.streamKeys, k.id = r.streamKeyID) ∧
      ∀ k ∈ s.db.streamKeys, k.id = r.streamKeyID → k.keyValue = r.path) ∧
    (∀ p : String, (s.db.streams.filter fun r => r.path == p && r.status == .active).length ≤ 1) ∧
    (handleNotReady s.db (some req) 4 false).1 =
      { s.db with streams := s.db.streams.map fun r =>
          if (s.db.keyByValue req.path).bind (fun k => s.db.activeStreamOf k.id) = some r
          then r.finish 4 else r } :=
  have h := stream_path_key_value reachable_redelivery
  ⟨reachable_redelivery, by decide, h.1, h.2.1, h.2.2 _ 4 false (by decide)⟩

/-! ### Ending is final -/

theorem stream_end_final {s : Sys} (hs : Reachable s) :
    (∀ r ∈ s.db.streams, r.endedAt = none ↔ r.status = .active) ∧
    ∀ s', Steps s s' → ∀ r ∈ s.db.streams, ∀ r' ∈ s'.db.streams, r'.id = r.id →
      r' = r ∨ (r.status = .active ∧ ∃ t, r' = r.finish t) :=
  have hw := reachable_wf hs
  ⟨hw.tables.endedAt_eq_none, fun _ h _ hr _ hr' he => h.row_trace_of_mem hw hr hr' he⟩

theorem stream_end_final_redelivery :
    let s := init.after redelivery
    let s' := s.after [.startRevoke 1, .advance 2 0 5 false, .advance 2 0 5 false,
      .advance 2 0 5 false, .advance 2 0 5 false, .advance 2 0 5 false]
    Reachable s ∧ Steps s s' ∧
    (∀ r ∈ s.db.streams, r.endedAt = none ↔ r.status = .active) ∧
    ∀ r ∈ s.db.streams, ∀ r' ∈ s'.db.streams, r'.id = r.id →
      r' = r ∨ (r.status = .active ∧ ∃ t, r' = r.finish t) :=
  have hst : Steps _ _ := steps_of_run (run_after (by decide))
  have h := stream_end_final reachable_redelivery
  ⟨reachable_redelivery, hst, h.1, h.2 _ hst⟩

/-! ### Who creates streams -/

/-- Every row after an action is an old row after one `RowStep`, or a `handleReady` insert. -/
theorem step_streams {s s' : Sys} {a : Action} (h : s.step a = some s') :
    ∀ r ∈ s'.db.streams, (∃ r₀ ∈ s.db.streams, RowStep r₀ r) ∨
      ∃ pid u now fault req key, a = .advance pid u now fault ∧
        s.procs[pid]? = some (.ready req (.insert key)) ∧ r = readyStream req key.id u now := by
  intro r hr
  cases a with
  | authenticate req now fault =>
    simp only [step, Option.some.injEq] at h; subst h
    refine .inl ⟨r, ?_, RowStep.refl r⟩
    rcases authenticate_db s.db req now fault with he | ⟨_, -, -, he⟩ | ⟨_, -, he⟩ <;>
      rw [he] at hr <;> exact hr
  | notReady req now fault =>
    simp only [step, Option.some.injEq] at h; subst h
    rcases handleNotReady_db s.db (some req) now fault with he | ⟨p, he⟩ <;> rw [he] at hr
    · exact .inl ⟨r, hr, RowStep.refl r⟩
    · exact .inl (RowStep.of_mem_endWhere hr)
  | createBroadcaster id fault =>
    simp only [step] at h
    split_ifs at h
    simp only [Option.some.injEq] at h; subst h
    refine .inl ⟨r, ?_, RowStep.refl r⟩
    rcases BroadcasterService.create_db s.db id fault with he | he <;> rw [he] at hr <;> exact hr
  | deleteBroadcaster id fault =>
    simp only [step, Option.some.injEq] at h; subst h
    refine .inl ⟨r, ?_, RowStep.refl r⟩
    rcases BroadcasterService.delete_db s.db id fault with he | he <;> rw [he] at hr
    exacts [hr, (List.mem_filter.mp hr).1]
  | createStreamKey req draw id now fault =>
    simp only [step] at h
    refine .inl ⟨r, ?_, RowStep.refl r⟩
    split at h
    · simp only [Option.some.injEq] at h; subst h; exact hr
    · rename_i v hv
      split_ifs at h
      simp only [Option.some.injEq] at h; subst h
      rcases StreamKeyService.create_db s.db req id now fault hv with he | ⟨key, -, -, -, he⟩ <;>
        rw [he] at hr <;> exact hr
  | startRevoke _ | startReady _ =>
    simp only [step, Option.some.injEq] at h; subst h
    exact .inl ⟨r, hr, RowStep.refl r⟩
  | advance pid u now fault =>
    simp only [step, advance] at h
    split at h
    · obtain ⟨⟨pc', db'⟩, hst, rfl⟩ := Option.map_eq_some'.mp h
      rcases revokeStep_db hst with rfl | ⟨st, -, rfl⟩ | rfl
      · exact .inl ⟨r, hr, RowStep.refl r⟩
      · exact .inl (RowStep.of_mem_endWhere hr)
      · exact .inl ⟨r, hr, RowStep.refl r⟩
    · rename_i req key hp
      split_ifs at h
      obtain ⟨⟨pc', db'⟩, hst, rfl⟩ := Option.map_eq_some'.mp h
      rcases readyStep_db hst with rfl | ⟨key', hkey', -, rfl⟩
      · exact .inl ⟨r, hr, RowStep.refl r⟩
      · cases hkey'
        rcases List.mem_cons.mp hr with rfl | hr
        · exact .inr ⟨pid, u, now, fault, req, key, rfl, hp, rfl⟩
        · exact .inl ⟨r, hr, RowStep.refl r⟩
    · rename_i req pc hne hp
      obtain ⟨⟨pc', db'⟩, hst, rfl⟩ := Option.map_eq_some'.mp h
      rcases readyStep_db hst with rfl | ⟨key', rfl, -, -⟩
      · exact .inl ⟨r, hr, RowStep.refl r⟩
      · exact absurd rfl (hne key')
    · cases h

/-- An active row an action adds is a `handleReady` insert for the key found by its path. -/
theorem active_stream_from_ready {s s' : Sys} {a : Action} (hs : Reachable s)
    (h : s.step a = some s') {r : Stream} (hr : r ∈ s'.db.streams) (ha : r.status = .active)
    (hnew : r ∉ s.db.streams) :
    ∃ pid u now fault req key, a = .advance pid u now fault ∧
      s.procs[pid]? = some (.ready req (.insert key)) ∧ r = readyStream req key.id u now ∧
      key.keyValue = req.path ∧ ∀ k ∈ s.db.streamKeys, k.id = key.id → k.keyValue = req.path := by
  rcases step_streams h r hr with ⟨r₀, hr₀, rfl | ⟨-, t, rfl⟩⟩ | ⟨pid, u, now, fault, req, key, rfl, hp, rfl⟩
  · exact absurd hr₀ hnew
  · simp at ha
  · obtain ⟨-, hpath, hval⟩ := (reachable_wf hs).procs _ (List.getElem?_mem hp)
    exact ⟨pid, u, now, fault, req, key, rfl, hp, rfl, hpath, fun k hk he => (hval k hk he).trans hpath⟩

theorem active_stream_from_ready_first :
    let s := init.after (setup ++ [.startReady ⟨zeroKey, "rtmpConn", ""⟩,
      .advance 0 2 1 false])
    let a : Action := .advance 0 2 1 false
    let r := readyStream ⟨zeroKey, "rtmpConn", ""⟩ 1 2 1
    Reachable s ∧ s.step a = some (s.after [a]) ∧ r ∈ (s.after [a]).db.streams ∧
    r.status = .active ∧ r ∉ s.db.streams ∧
    ∃ pid u now fault req key, a = .advance pid u now fault ∧
      s.procs[pid]? = some (.ready req (.insert key)) ∧ r = readyStream req key.id u now ∧
      key.keyValue = req.path ∧ ∀ k ∈ s.db.streamKeys, k.id = key.id → k.keyValue = req.path := by
  intro s a r
  have hs : Reachable s := reachable_of_run (run_after (by decide))
  have h : s.step a = some (s.after [a]) := by decide
  have hr : r ∈ (s.after [a]).db.streams := by decide
  have hnew : r ∉ s.db.streams := by decide
  exact ⟨hs, h, hr, rfl, hnew, active_stream_from_ready hs h hr rfl hnew⟩

/-- In `redelivery` nothing is admitted, yet the second ready makes a second row active. -/
theorem ready_without_admission :
    (∀ b ∈ redelivery, ∀ req now fault, b ≠ .authenticate req now fault) ∧
    Reachable (init.after redelivery) ∧
    ∃ r₁ ∈ (init.after redelivery).db.streams, ∃ r₂ ∈ (init.after redelivery).db.streams,
      r₁.path = r₂.path ∧ r₁.status = .ended ∧ r₂.status = .active :=
  ⟨by simp [redelivery, setup], reachable_redelivery, by decide⟩

end Sys

end RescueStream
