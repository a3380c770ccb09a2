import RescueStream.System.DataModel

/-! What a request touches, over every interleaving. An action names a key when it presents
its value (`Authenticate`), carries its path (the webhooks), deletes its owner, or runs a
statement of a `Revoke` of its id or of a `ready` delivery for its path. `Sys.Names` says
this, and `Sys.unnamed_key_untouched` that an action leaves every key it does not name as it
was: its row, its streams, and its publishers, which a `Revoke`'s kick does not disconnect.
Requests about one key never change another, whatever ran before them.

`Revoke` needs an invariant for this. It reads the active stream of its key with
`GetActiveByStreamKeyID`, then in later statements calls `KickPath(stream.Path)` and
`EndStream(stream.ID)`, other requests running in between. `RevokePc.found` is the stream a
call holds from its check on, and `HoldsKeyStream` what the call knows of it in every later
state: a stream of its key, whose path is the value of no other key and whose id no stream of
another key carries.

Two `Revoke`s of one key are ordered in real time: `Sys.revoke_after_revoke` says that one
reading the key after the other returned nil fails and writes nothing, so the race in which
both return nil needs the two calls to overlap. -/

namespace RescueStream

/-- The stream a call of `Revoke` found active at its check, held from then on. -/
def RevokePc.found : RevokePc → Option Stream
  | .kick st | .endStream st => some st
  | .updateStatus t | .returned t _ => t.map (·.1)
  | _ => none

/-- What a call of `Revoke(id)` knows of the stream it holds: key `id`'s, with drawn id and path. -/
def HoldsKeyStream (ids : List Nat) (vals : List String) (db : Store) (id : Nat) :
    Option Stream → Prop
  | none => True
  | some st => st.streamKeyID = id ∧ st.id ∈ ids ∧ st.path ∈ vals ∧
      (∀ k ∈ db.streamKeys, k.keyValue = st.path → k.id = id) ∧
      ∀ r ∈ db.streams, r.id = st.id → r.streamKeyID = id

theorem HoldsKeyStream.change {ids ids' : List Nat} {vals vals' : List String} {db db' : Store}
    (h : DbChange ids vals db ids' vals' db') {id : Nat} {t : Option Stream}
    (ht : HoldsKeyStream ids vals db id t) : HoldsKeyStream ids' vals' db' id t := by
  match t, ht with
  | none, _ => trivial
  | some st, ⟨hk, hsid, hpath, hval, hrows⟩ =>
    refine ⟨hk, h.ids_subset hsid, h.vals_subset hpath, fun k hk' he => ?_, fun r hr he => ?_⟩
    · rcases h.key_history k hk' with ⟨k₀, hk₀, h₁, h₂, -⟩ | ⟨-, hfresh⟩
      · rw [h₁]; exact hval k₀ hk₀ (h₂ ▸ he)
      · exact absurd (he ▸ hpath) hfresh
    · rcases h.row_history r hr with ⟨r₀, hr₀, hs⟩ | hfresh
      · rw [hs.streamKeyID_eq]; exact hrows r₀ hr₀ (hs.id_eq ▸ he)
      · exact absurd (he ▸ hsid) hfresh

theorem HoldsKeyStream.of_check {ids : List Nat} {vals : List String} {db : Store}
    (ht : Tables ids vals db) {id : Nat} {fault : Bool} {st : Stream}
    (h : StreamRepo.getActiveByStreamKeyID db id fault = .ok st) :
    HoldsKeyStream ids vals db id (some st) := by
  obtain ⟨hmem, hkid, -⟩ := StreamRepo.getActiveByStreamKeyID_ok h
  obtain ⟨k₀, hk₀, h₀, hpath⟩ := ht.stream_key st hmem
  refine ⟨hkid, ht.streamID_issued st hmem, hpath ▸ ht.keyValue_issued k₀ hk₀, fun k hk he => ?_,
    fun r hr he => ?_⟩
  · rw [ht.key_eq_of_value hk hk₀ (he.trans hpath.symm), h₀, hkid]
  · rw [ht.stream_eq_of_id hr hmem he, hkid]

theorem revokeStep_found {db db' : Store} {id : Nat} {now : Int} {fault : Bool} {pc pc' : RevokePc}
    (h : revokeStep db id now fault pc = some (pc', db')) :
    pc'.found = pc.found ∨ pc'.found = none ∨
      ∃ st, db' = db ∧ pc'.found = some st ∧ StreamRepo.getActiveByStreamKeyID db id fault = .ok st := by
  cases pc with
  | start =>
    simp only [revokeStep, Option.some.injEq] at h
    split at h <;> [skip; split_ifs at h] <;> obtain ⟨rfl, -⟩ := Prod.mk.inj h <;> exact .inr (.inl rfl)
  | checkActive =>
    simp only [revokeStep, Option.some.injEq] at h
    split at h <;> obtain ⟨rfl, rfl⟩ := Prod.mk.inj h
    · exact .inr (.inr ⟨_, rfl, rfl, ‹_›⟩)
    all_goals exact .inr (.inl rfl)
  | kick st => obtain ⟨rfl, -⟩ := Prod.mk.inj (Option.some.inj h); exact .inl rfl
  | endStream st =>
    simp only [revokeStep, Option.some.injEq] at h
    split at h <;> obtain ⟨rfl, -⟩ := Prod.mk.inj h <;> exact .inl rfl
  | updateStatus t =>
    simp only [revokeStep, Option.some.injEq] at h
    split at h <;> obtain ⟨rfl, -⟩ := Prod.mk.inj h <;> exact .inl rfl
  | returned t r => cases h

/-- The read of `Revoke` fails, and writes nothing, when no row with its id is active. -/
theorem revokeStep_start_of_inactive {db : Store} {id : Nat} (now : Int) (fault : Bool)
    (h : ∀ k ∈ db.streamKeys, k.id = id → k.status ≠ .active) :
    ∃ e, revokeStep db id now fault .start = some (.returned none (.error e), db) ∧
      (fault = false → e = .invalidStatus ∨ e = .notFound) := by
  cases hg : StreamKeyRepo.getByID db id fault with
  | error e =>
    refine ⟨e, by simp [revokeStep, hg], fun hf => .inr ?_⟩
    subst hf
    cases hk : db.keyByID id <;>
      simp [StreamKeyRepo.getByID, StreamKeyRepo.scanStreamKey, hk] at hg
    exact hg.symm
  | ok key =>
    obtain ⟨hk, hid⟩ := StreamKeyRepo.getByID_ok hg
    exact ⟨.invalidStatus, by simp [revokeStep, hg, h key hk hid], fun _ => .inl rfl⟩

namespace Sys

theorem step_proc_cases {s s' : Sys} {a : Action} (h : s.step a = some s') :
    ∀ p ∈ s'.procs, p ∈ s.procs ∨ (∃ id, p = .revoke id .start) ∨ (∃ req pc, p = .ready req pc) ∨
      ∃ pid id pc pc' u now fault, s.procs[pid]? = some (.revoke id pc) ∧
        a = .advance pid u now fault ∧ revokeStep s.db id now fault pc = some (pc', s'.db) ∧
        p = .revoke id pc' := by
  intro p hp
  cases a with
  | startRevoke id =>
    cases h
    rcases List.mem_append.mp hp with hp | hp
    · exact .inl hp
    · exact .inr (.inl ⟨id, List.mem_singleton.mp hp⟩)
  | startReady req =>
    cases h
    rcases List.mem_append.mp hp with hp | hp
    · exact .inl hp
    · exact .inr (.inr (.inl ⟨req, _, List.mem_singleton.mp hp⟩))
  | advance pid u now fault =>
    rcases advance_cases h with ⟨id, pc, pc', db', hpc, hr, rfl⟩ |
      ⟨req, pc, pc', db', ids', -, -, rfl, -⟩ <;> rcases List.mem_or_eq_of_mem_set hp with hp | rfl
    · exact .inl hp
    · exact .inr (.inr (.inr ⟨pid, id, pc, pc', u, now, fault, hpc, rfl, hr, rfl⟩))
    · exact .inl hp
    · exact .inr (.inr (.inl ⟨_, _, rfl⟩))
  | createBroadcaster id fault => obtain ⟨-, rfl⟩ := createBroadcaster_cases h; exact .inl hp
  | createStreamKey req draw id now fault =>
    rcases createStreamKey_cases h with rfl | ⟨v, -, -, -, rfl⟩
    all_goals exact .inl hp
  | _ => cases h; exact .inl hp

/-- Every call of `Revoke` knows `HoldsKeyStream` of the stream it holds. -/
def KickSafe (s : Sys) : Prop :=
  ∀ id pc, Proc.revoke id pc ∈ s.procs → HoldsKeyStream s.issuedIds s.issuedKeys s.db id pc.found

theorem step_kickSafe {s s' : Sys} {a : Action} (hw : s.WF) (hk : KickSafe s)
    (h : s.step a = some s') : KickSafe s' := by
  have hc := step_change hw h
  intro id pc hp
  rcases step_proc_cases h _ hp with hp | ⟨_, he⟩ | ⟨_, _, he⟩ |
    ⟨pid, id', pc₀, pc', u, now, fault, hp₀, -, hr, he⟩
  · exact (hk id pc hp).change hc
  · cases he; trivial
  · cases he
  · cases he
    rcases revokeStep_found hr with he | he | ⟨st, hdb, he, hget⟩ <;> rw [he]
    · exact (hk id pc₀ (List.getElem?_mem hp₀)).change hc
    · trivial
    · rw [hdb]
      exact .change (.grow _ _ hc.ids_subset hc.vals_subset) (.of_check hw.tables hget)

theorem reachable_kickSafe {s : Sys} (hs : Reachable s) : KickSafe s := by
  induction hs with
  | init => exact fun _ _ h => (nomatch h)
  | step a hs hst ih => exact step_kickSafe (reachable_wf hs) ih hst

end Sys

/-! ### Requests about one key leave the others alone -/

theorem filter_map_of_fixed {α : Type} {p : α → Bool} {g : α → α} (l : List α)
    (hp : ∀ x ∈ l, p (g x) = p x) (hg : ∀ x ∈ l, p x = true → g x = x) :
    (l.map g).filter p = l.filter p := by
  induction l with
  | nil => rfl
  | cons x l ih =>
    have ih' := ih (fun y hy => hp y (List.mem_cons_of_mem x hy))
      (fun y hy => hg y (List.mem_cons_of_mem x hy))
    by_cases hx : p x = true
    · simp [List.filter_cons, hp x (List.mem_cons_self x l), hx, hg x (List.mem_cons_self x l) hx, ih']
    · simp [List.filter_cons, hp x (List.mem_cons_self x l), hx, ih']

theorem Store.streamsOf_endWhere {db : Store} {cond : Stream → Bool} {now : Int} {kid : Nat}
    (h : ∀ r ∈ db.streams, r.streamKeyID = kid → cond r = true → r.status ≠ .active) :
    (db.endWhere cond now).streams.filter (·.streamKeyID = kid) = db.streams.filter (·.streamKeyID = kid) :=
  filter_map_of_fixed _ (fun _ _ => by split_ifs <;> simp)
    fun r hr hk => if_neg fun hc => h r hr (by simpa using hk) hc.1 hc.2

theorem Store.mem_updateKey_of_ne {db : Store} {id : Nat} {f : StreamKey → StreamKey}
    {k : StreamKey} (hk : k ∈ db.streamKeys) (hne : k.id ≠ id) : k ∈ (db.updateKey id f).streamKeys :=
  Store.mem_updateKey.mpr ⟨k, hk, if_neg hne⟩

namespace Sys

/-- Action `a` presents, carries or deletes key `k`, or runs a `Revoke` or `ready` about it. -/
def Names (s : Sys) (k : StreamKey) : Action → Prop
  | .authenticate req _ _ => extractKeyValue req = k.keyValue
  | .notReady req _ _ => req.path = k.keyValue
  | .deleteBroadcaster b _ => k.broadcasterID = b
  | .advance pid _ _ _ => (∃ pc, s.procs[pid]? = some (.revoke k.id pc)) ∨
      ∃ req pc, s.procs[pid]? = some (.ready req pc) ∧ req.path = k.keyValue
  | _ => False

/-- An action leaves every key it does not name as it was: its row, its streams, its path. -/
theorem unnamed_key_untouched {s s' : Sys} {a : Action} (hs : Reachable s) (h : s.step a = some s')
    {k : StreamKey} (hk : k ∈ s.db.streamKeys) (hn : ¬ s.Names k a) :
    k ∈ s'.db.streamKeys ∧
    s'.db.streams.filter (·.streamKeyID = k.id) = s.db.streams.filter (·.streamKeyID = k.id) ∧
    ∀ pid u now fault id st, a = .advance pid u now fault →
      s.procs[pid]? = some (.revoke id (.kick st)) → st.path ≠ k.keyValue := by
  have hw := reachable_wf hs
  have ht := hw.tables
  have hkick : ∀ pid u now fault id st, a = .advance pid u now fault →
      s.procs[pid]? = some (.revoke id (.kick st)) → st.path ≠ k.keyValue := by
    rintro pid u now fault id st rfl hp hpath
    have hid := (reachable_kickSafe hs id _ (List.getElem?_mem hp)).2.2.2.1 k hk hpath.symm
    exact hn (.inl ⟨.kick st, hid ▸ hp⟩)
  suffices k ∈ s'.db.streamKeys ∧
      s'.db.streams.filter (·.streamKeyID = k.id) = s.db.streams.filter (·.streamKeyID = k.id) from
    ⟨this.1, this.2, hkick⟩
  cases a with
  | authenticate req now fault =>
    cases h
    have hne : ∀ key, s.db.keyByValue (extractKeyValue req) = some key → k.id ≠ key.id :=
      fun key hkey he => hn <| by
        obtain ⟨hm, hv⟩ := Store.mem_of_keyByValue hkey
        show extractKeyValue req = k.keyValue
        rw [ht.key_eq_of_id hk hm he, hv]
    rcases authenticate_db s.db req now fault with he | ⟨key, hkey, -, he⟩ | ⟨key, hkey, he⟩ <;>
      dsimp only <;> rw [he]
    · exact ⟨hk, rfl⟩
    · exact ⟨Store.mem_updateKey_of_ne hk (hne key hkey), rfl⟩
    · exact ⟨Store.mem_updateKey_of_ne hk (hne key hkey), rfl⟩
  | notReady req now fault =>
    cases h
    by_cases hp : req.path = ""
    · simpa [handleNotReady, hp] using hk
    rw [handleNotReady_eq s.db now fault hp]
    split_ifs
    · exact ⟨hk, rfl⟩
    · exact ⟨hk, Store.streamsOf_endWhere fun r hr hrk hc _ =>
        hn ((ht.keyValue_eq_path hr hk hrk.symm).trans (by simpa using hc)).symm⟩
    · exact ⟨hk, rfl⟩
  | createBroadcaster id fault =>
    obtain ⟨-, rfl⟩ := createBroadcaster_cases h
    rcases BroadcasterService.create_db s.db id fault with he | he <;> dsimp only <;> rw [he] <;>
      exact ⟨hk, rfl⟩
  | deleteBroadcaster b fault =>
    cases h
    rcases BroadcasterService.delete_db s.db b fault with he | he <;> dsimp only <;> rw [he]
    · exact ⟨hk, rfl⟩
    refine ⟨List.mem_filter.mpr ⟨hk, by simpa using hn⟩, ?_⟩
    simp only [Store.deleteBroadcaster, List.filter_filter]
    refine List.filter_congr fun r _ => ?_
    by_cases hrk : r.streamKeyID = k.id
    · have hgone : ∀ k₀ ∈ s.db.streamKeys, k₀.broadcasterID = b → k₀.id ≠ r.streamKeyID :=
        fun k₀ hk₀ hb he => hn (ht.key_eq_of_id hk₀ hk (he.trans hrk) ▸ hb)
      simpa [hrk] using hgone
    · simp [hrk]
  | createStreamKey req draw id now fault =>
    rcases createStreamKey_cases h with rfl | ⟨v, hv, -, -, rfl⟩
    · exact ⟨hk, rfl⟩
    rcases StreamKeyService.create_db s.db req id now fault hv with he | ⟨key, -, -, -, he⟩ <;>
      dsimp only <;> rw [he]
    · exact ⟨hk, rfl⟩
    · exact ⟨List.mem_cons_of_mem _ hk, rfl⟩
  | startRevoke id => cases h; exact ⟨hk, rfl⟩
  | startReady req => cases h; exact ⟨hk, rfl⟩
  | advance pid u now fault =>
    rcases advance_cases h with ⟨id, pc, pc', db', hp, hr, rfl⟩ |
      ⟨req, pc, pc', db', ids', hp, hr, rfl, -⟩
    · have hid : k.id ≠ id := fun he => hn (.inl ⟨pc, he ▸ hp⟩)
      rcases revokeStep_cases hr with rfl | ⟨st, rfl, rfl⟩ | ⟨t, -, rfl⟩
      · exact ⟨hk, rfl⟩
      · have hholds := reachable_kickSafe hs id (.endStream st) (List.getElem?_mem hp)
        exact ⟨hk, Store.streamsOf_endWhere fun r hr hrk hc _ =>
          hid (hrk.symm.trans (hholds.2.2.2.2 r hr (by simpa using hc)))⟩
      · exact ⟨Store.mem_updateKey_of_ne hk hid, rfl⟩
    · rcases readyStep_db hr with rfl | ⟨key, rfl, -, rfl⟩
      · exact ⟨hk, rfl⟩
      · obtain ⟨-, hpath, hval⟩ := hw.procs _ (List.getElem?_mem hp)
        have hne : key.id ≠ k.id := fun he =>
          hn (.inr ⟨req, _, hp, hpath.symm.trans (hval k hk he.symm).symm⟩)
        exact ⟨hk, by simp [List.filter_cons, readyStream, hne]⟩

theorem unnamed_key_untouched_setup :
    let s := init.after setup
    let a : Action := .authenticate ⟨"sk_other", "publish", "sk_other"⟩ 5 none
    let s' := s.after [a]
    let k : StreamKey := ⟨1, zeroKey, 0, .active, 0, none, none, none⟩
    Reachable s ∧ s.step a = some s' ∧ k ∈ s.db.streamKeys ∧ ¬ s.Names k a ∧
    k ∈ s'.db.streamKeys ∧
    s'.db.streams.filter (·.streamKeyID = k.id) = s.db.streams.filter (·.streamKeyID = k.id) ∧
    ∀ pid u now fault id st, a = .advance pid u now fault →
      s.procs[pid]? = some (.revoke id (.kick st)) → st.path ≠ k.keyValue := by
  intro s a s' k
  have hs : Reachable s := reachable_of_run (run_after (by decide))
  have h : s.step a = some s' := by decide
  have hk : k ∈ s.db.streamKeys := by decide
  have hn : ¬ s.Names k a := show ¬ (extractKeyValue _ = zeroKey) by decide
  exact ⟨hs, h, hk, hn, unnamed_key_untouched hs h hk hn⟩

/-! ### Revokes of one key that do not overlap -/

/-- A `Revoke` reading its key after another `Revoke` of it returned `nil` fails, writing nothing. -/
theorem revoke_after_revoke {s s₁ s₂ : Sys} (hs : Reachable s) {i j id u : Nat} {now : Int}
    {fault : Bool} {t : Option (Stream × Except Error Unit)}
    (hi : s.procs[i]? = some (.revoke id (.returned t (.ok ())))) (h : Steps s s₁)
    (hj : s₁.procs[j]? = some (.revoke id .start)) (h₂ : s₁.step (.advance j u now fault) = some s₂) :
    s₂.db = s₁.db ∧ ∃ e, s₂.procs[j]? = some (.revoke id (.returned none (.error e))) ∧
      (fault = false → e = .invalidStatus ∨ e = .notFound) := by
  obtain ⟨-, hkeys, -⟩ := (reachable_wf (h.reachable hs)).procs _ (List.getElem?_mem (h.returned hi))
  obtain ⟨e, hr, he⟩ := @revokeStep_start_of_inactive s₁.db id now fault
    fun k hk hid ha => nomatch (hkeys k hk hid).1.symm.trans ha
  rcases advance_cases h₂ with ⟨id', pc, pc', db', hp, hr', rfl⟩ | ⟨req, pc, pc', db', ids', hp, -⟩ <;>
    rw [hj] at hp <;> cases hp
  rw [hr] at hr'
  cases hr'
  exact ⟨rfl, e, List.getElem?_set_self (List.getElem?_eq_some.mp hj).1, he⟩

theorem revoke_after_revoke_revokeIdle :
    let s := init.after revokeIdle
    let s₁ := s.after [.startRevoke 1]
    let s₂ := s₁.after [.advance 1 0 4 false]
    Reachable s ∧ s.procs[0]? = some (.revoke 1 (.returned none (.ok ()))) ∧ Steps s s₁ ∧
    s₁.procs[1]? = some (.revoke 1 .start) ∧ s₁.step (.advance 1 0 4 false) = some s₂ ∧
    s₂.db = s₁.db ∧ ∃ e, s₂.procs[1]? = some (.revoke 1 (.returned none (.error e))) ∧
      (false = false → e = .invalidStatus ∨ e = .notFound) := by
  intro s s₁ s₂
  have hs : Reachable s := reachable_of_run (run_after (by decide))
  have hi : s.procs[0]? = some (.revoke 1 (.returned none (.ok ()))) := by decide
  have h : Steps s s₁ := steps_of_run (run_after (by decide))
  have hj : s₁.procs[1]? = some (.revoke 1 .start) := by decide
  have h₂ : s₁.step (.advance 1 0 4 false) = some s₂ := by decide
  exact ⟨hs, hi, h, hj, h₂, revoke_after_revoke hs hi h hj h₂⟩

end Sys

end RescueStream
