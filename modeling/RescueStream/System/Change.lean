import RescueStream.System.Step

/-! What one action can do to the tables, said once. `DbChange` lists the kinds of change:
the values drawn grow, a key row is updated, active streams are ended, fresh rows are
inserted under the schema's checks, or a broadcaster is deleted with its cascade. `Tables`
is what the schema and the fresh draws keep true of the tables, and `Tables.change` shows
every change keeps it. Row by row, `KeyStep` and `RowStep` are all that can happen to a
stream key and to a stream; `DbChange.key_history` and `DbChange.row_history` say that
every row after a change is an old row moved by them or a row with a fresh id. -/

namespace RescueStream

/-- What one action can do to a key row: keep its status, revoke it, or expire it if active. -/
def KeyStep (k k' : StreamKey) : Prop :=
  k'.id = k.id ∧ k'.keyValue = k.keyValue ∧
    ((k'.status = k.status ∧ k'.revokedAt = k.revokedAt) ∨
      (k'.status = .revoked ∧ k'.revokedAt ≠ none) ∨
      (k.status = .active ∧ k'.status = .expired ∧ k'.revokedAt = k.revokedAt))

def RowStep (r r' : Stream) : Prop :=
  r' = r ∨ (r.status = .active ∧ ∃ t, r' = r.finish t)

theorem KeyStep.refl (k : StreamKey) : KeyStep k k := ⟨rfl, rfl, .inl ⟨rfl, rfl⟩⟩

theorem RowStep.refl (r : Stream) : RowStep r r := .inl rfl

theorem KeyStep.not_active {k k' : StreamKey} (h : KeyStep k k') (hk : k.status ≠ .active) :
    k'.status ≠ .active := by
  obtain ⟨-, -, ⟨h₁, -⟩ | ⟨h₁, -⟩ | ⟨h₁, -⟩⟩ := h
  · rwa [h₁]
  · simp [h₁]
  · exact absurd h₁ hk

theorem KeyStep.revoked {k k' : StreamKey} (h : KeyStep k k')
    (hk : k.status = .revoked ∧ k.revokedAt ≠ none) : k'.status = .revoked ∧ k'.revokedAt ≠ none := by
  obtain ⟨-, -, ⟨h₁, h₂⟩ | h₁ | ⟨h₁, -⟩⟩ := h
  · rw [h₁, h₂]; exact hk
  · exact h₁
  · simp [hk.1] at h₁

theorem RowStep.id_eq {r r' : Stream} (h : RowStep r r') : r'.id = r.id := by
  obtain rfl | ⟨-, t, rfl⟩ := h <;> rfl

theorem RowStep.eq_of_not_active {r r' : Stream} (h : RowStep r r') (hr : r.status ≠ .active) :
    r' = r := by
  obtain rfl | ⟨h₁, -⟩ := h
  · rfl
  · exact absurd h₁ hr

theorem RowStep.of_mem_endWhere {db : Store} {cond : Stream → Bool} {now : Int} {r : Stream}
    (hr : r ∈ (db.endWhere cond now).streams) : ∃ x ∈ db.streams, RowStep x r := by
  obtain ⟨x, hx, rfl⟩ := Store.mem_endWhere.mp hr
  exact ⟨x, hx, by split_ifs with hc; exacts [.inr ⟨hc.2, now, rfl⟩, RowStep.refl x]⟩

/-- What one action can do to the tables and to the ids and key values drawn so far. -/
inductive DbChange (ids : List Nat) (vals : List String) (db : Store) :
    List Nat → List String → Store → Prop
  | grow (ids' : List Nat) (vals' : List String) (hi : ids ⊆ ids') (hv : vals ⊆ vals') :
      DbChange ids vals db ids' vals' db
  | updateKey (id : Nat) (f : StreamKey → StreamKey) (hid : ∀ k, (f k).id = k.id)
      (hval : ∀ k, (f k).keyValue = k.keyValue)
      (hf : ∀ k ∈ db.streamKeys, k.id = id → KeyStep k (f k)) :
      DbChange ids vals db ids vals (db.updateKey id f)
  | endWhere (cond : Stream → Bool) (now : Int) : DbChange ids vals db ids vals (db.endWhere cond now)
  | insertBroadcaster (u : Nat) :
      DbChange ids vals db (u :: ids) vals { db with broadcasters := u :: db.broadcasters }
  | insertKey (key : StreamKey) (hid : key.id ∉ ids) (hval : key.keyValue ∉ vals) :
      DbChange ids vals db (key.id :: ids) (key.keyValue :: vals)
        { db with streamKeys := key :: db.streamKeys }
  | insertStream (r : Stream) (hid : r.id ∉ ids) (hins : db.streamInsertError r = none)
      (hst : r.status = .active) (hend : r.endedAt = none)
      (hkey : ∀ k ∈ db.streamKeys, k.id = r.streamKeyID → k.keyValue = r.path) :
      DbChange ids vals db (r.id :: ids) vals { db with streams := r :: db.streams }
  | deleteBroadcaster (id : Nat) : DbChange ids vals db ids vals (db.deleteBroadcaster id)

namespace DbChange

variable {ids ids' : List Nat} {vals vals' : List String} {db db' : Store}

theorem refl : DbChange ids vals db ids vals db := .grow _ _ (fun _ h => h) (fun _ h => h)

theorem ids_subset (h : DbChange ids vals db ids' vals' db') : ids ⊆ ids' := by
  cases h <;> first | assumption | exact fun _ hx => hx | exact List.subset_cons_self _ _

theorem vals_subset (h : DbChange ids vals db ids' vals' db') : vals ⊆ vals' := by
  cases h <;> first | assumption | exact fun _ hx => hx | exact List.subset_cons_self _ _

theorem key_history (h : DbChange ids vals db ids' vals' db') :
    ∀ k' ∈ db'.streamKeys, (∃ k ∈ db.streamKeys, KeyStep k k') ∨ (k'.id ∉ ids ∧ k'.keyValue ∉ vals) := by
  intro k' hk'
  cases h with
  | updateKey id f _ _ hf =>
    obtain ⟨k, hk, rfl⟩ := Store.mem_updateKey.mp hk'
    refine .inl ⟨k, hk, ?_⟩
    split_ifs with he
    · exact hf k hk he
    · exact KeyStep.refl k
  | insertKey key hid hval =>
    rcases List.mem_cons.mp hk' with rfl | hk
    · exact .inr ⟨hid, hval⟩
    · exact .inl ⟨k', hk, KeyStep.refl k'⟩
  | deleteBroadcaster id =>
    exact .inl ⟨k', (List.mem_filter.mp hk').1, KeyStep.refl k'⟩
  | _ => exact .inl ⟨k', hk', KeyStep.refl k'⟩

theorem row_history (h : DbChange ids vals db ids' vals' db') :
    ∀ r' ∈ db'.streams, (∃ r ∈ db.streams, RowStep r r') ∨ r'.id ∉ ids := by
  intro r' hr'
  cases h with
  | endWhere cond now => exact .inl (RowStep.of_mem_endWhere hr')
  | insertStream r hid _ _ _ _ =>
    rcases List.mem_cons.mp hr' with rfl | hr
    · exact .inr hid
    · exact .inl ⟨r', hr, RowStep.refl r'⟩
  | deleteBroadcaster id =>
    exact .inl ⟨r', (List.mem_filter.mp hr').1, RowStep.refl r'⟩
  | _ => exact .inl ⟨r', hr', RowStep.refl r'⟩

end DbChange

/-- The schema's constraints and the freshness of draws, as the tables keep them. -/
structure Tables (ids : List Nat) (vals : List String) (db : Store) : Prop where
  keyIDs_nodup : (db.streamKeys.map (·.id)).Nodup
  keyValues_nodup : (db.streamKeys.map (·.keyValue)).Nodup
  streamIDs_nodup : (db.streams.map (·.id)).Nodup
  keyID_issued : ∀ k ∈ db.streamKeys, k.id ∈ ids
  keyValue_issued : ∀ k ∈ db.streamKeys, k.keyValue ∈ vals
  streamID_issued : ∀ r ∈ db.streams, r.id ∈ ids
  stream_key : ∀ r ∈ db.streams, ∃ k ∈ db.streamKeys, k.id = r.streamKeyID ∧ k.keyValue = r.path
  endedAt_eq_none : ∀ r ∈ db.streams, r.endedAt = none ↔ r.status = .active
  oneActive : db.streams.Pairwise fun a b =>
    a.status = .active → b.status = .active → a.streamKeyID ≠ b.streamKeyID

theorem not_mem_map_of_forall {α β : Type} {l : List α} {f : α → β} {ids : List β} {a : β}
    (h : ∀ x ∈ l, f x ∈ ids) (ha : a ∉ ids) : a ∉ l.map f := by
  simp only [List.mem_map, not_exists, not_and]
  exact fun x hx he => ha (he ▸ h x hx)

namespace Tables

variable {ids ids' : List Nat} {vals vals' : List String} {db db' : Store}

theorem empty : Tables [] [] Store.empty where
  keyIDs_nodup := .nil
  keyValues_nodup := .nil
  streamIDs_nodup := .nil
  keyID_issued _ h := nomatch h
  keyValue_issued _ h := nomatch h
  streamID_issued _ h := nomatch h
  stream_key _ h := nomatch h
  endedAt_eq_none _ h := nomatch h
  oneActive := .nil

theorem mono (h : Tables ids vals db) (hi : ids ⊆ ids') (hv : vals ⊆ vals') :
    Tables ids' vals' db :=
  { h with
    keyID_issued := fun k hk => hi (h.keyID_issued k hk)
    keyValue_issued := fun k hk => hv (h.keyValue_issued k hk)
    streamID_issued := fun r hr => hi (h.streamID_issued r hr) }

/-- A key row is determined by its id. -/
theorem key_eq_of_id (h : Tables ids vals db) {k k' : StreamKey} (hk : k ∈ db.streamKeys)
    (hk' : k' ∈ db.streamKeys) (he : k.id = k'.id) : k = k' :=
  List.inj_on_of_nodup_map h.keyIDs_nodup hk hk' he

theorem key_eq_of_value (h : Tables ids vals db) {k k' : StreamKey} (hk : k ∈ db.streamKeys)
    (hk' : k' ∈ db.streamKeys) (he : k.keyValue = k'.keyValue) : k = k' :=
  List.inj_on_of_nodup_map h.keyValues_nodup hk hk' he

theorem stream_eq_of_id (h : Tables ids vals db) {r r' : Stream} (hr : r ∈ db.streams)
    (hr' : r' ∈ db.streams) (he : r.id = r'.id) : r = r' :=
  List.inj_on_of_nodup_map h.streamIDs_nodup hr hr' he

theorem updateKey (h : Tables ids vals db) (id : Nat) (f : StreamKey → StreamKey)
    (hid : ∀ k, (f k).id = k.id) (hval : ∀ k, (f k).keyValue = k.keyValue) :
    Tables ids vals (db.updateKey id f) := by
  have hmem : ∀ k ∈ (db.updateKey id f).streamKeys, ∃ x ∈ db.streamKeys, k.id = x.id ∧
      k.keyValue = x.keyValue := by
    intro k hk
    obtain ⟨x, hx, rfl⟩ := Store.mem_updateKey.mp hk
    exact ⟨x, hx, by split_ifs <;> simp [hid, hval]⟩
  refine { h with
    keyIDs_nodup := by rw [Store.map_updateKey _ _ _ _ hid]; exact h.keyIDs_nodup
    keyValues_nodup := by rw [Store.map_updateKey _ _ _ _ hval]; exact h.keyValues_nodup
    keyID_issued := fun k hk => ?_
    keyValue_issued := fun k hk => ?_
    stream_key := fun r hr => ?_ }
  · obtain ⟨x, hx, he, -⟩ := hmem k hk; exact he ▸ h.keyID_issued x hx
  · obtain ⟨x, hx, -, he⟩ := hmem k hk; exact he ▸ h.keyValue_issued x hx
  · obtain ⟨k, hk, h₁, h₂⟩ := h.stream_key r hr
    refine ⟨if k.id = id then f k else k, List.mem_map_of_mem _ hk, ?_⟩
    split_ifs <;> simp [hid, hval, h₁, h₂]

theorem endWhere (h : Tables ids vals db) (cond : Stream → Bool) (now : Int) :
    Tables ids vals (db.endWhere cond now) := by
  have hmem : ∀ r ∈ (db.endWhere cond now).streams, ∃ x ∈ db.streams, RowStep x r :=
    fun _ hr => RowStep.of_mem_endWhere hr
  refine { h with
    streamIDs_nodup := by
      rw [Store.map_endWhere _ _ _ (·.id) fun _ => rfl]; exact h.streamIDs_nodup
    streamID_issued := fun r hr => ?_
    stream_key := fun r hr => ?_
    endedAt_eq_none := fun r hr => ?_
    oneActive := ?_ }
  · obtain ⟨x, hx, hs⟩ := hmem r hr; exact hs.id_eq ▸ h.streamID_issued x hx
  · obtain ⟨x, hx, rfl | ⟨-, t, rfl⟩⟩ := hmem r hr
    · exact h.stream_key _ hx
    · simpa using h.stream_key x hx
  · obtain ⟨x, hx, rfl | ⟨-, t, rfl⟩⟩ := hmem r hr
    · exact h.endedAt_eq_none _ hx
    · simp
  · refine List.pairwise_map.mpr (h.oneActive.imp fun {a b} hab ha hb => ?_)
    split_ifs at ha hb ⊢ <;> simp_all

theorem insertKey (h : Tables ids vals db) (key : StreamKey) (hid : key.id ∉ ids)
    (hval : key.keyValue ∉ vals) :
    Tables (key.id :: ids) (key.keyValue :: vals) { db with streamKeys := key :: db.streamKeys } where
  keyIDs_nodup := List.nodup_cons.mpr ⟨not_mem_map_of_forall h.keyID_issued hid, h.keyIDs_nodup⟩
  keyValues_nodup :=
    List.nodup_cons.mpr ⟨not_mem_map_of_forall h.keyValue_issued hval, h.keyValues_nodup⟩
  streamIDs_nodup := h.streamIDs_nodup
  keyID_issued := by simpa using fun k hk => List.mem_cons_of_mem _ (h.keyID_issued k hk)
  keyValue_issued := by simpa using fun k hk => List.mem_cons_of_mem _ (h.keyValue_issued k hk)
  streamID_issued := fun r hr => List.mem_cons_of_mem _ (h.streamID_issued r hr)
  stream_key := fun r hr => by
    obtain ⟨k, hk, hk'⟩ := h.stream_key r hr; exact ⟨k, List.mem_cons_of_mem _ hk, hk'⟩
  endedAt_eq_none := h.endedAt_eq_none
  oneActive := h.oneActive

theorem insertStream (h : Tables ids vals db) (r : Stream) (hid : r.id ∉ ids)
    (hins : db.streamInsertError r = none) (hst : r.status = .active) (hend : r.endedAt = none)
    (hkey : ∀ k ∈ db.streamKeys, k.id = r.streamKeyID → k.keyValue = r.path) :
    Tables (r.id :: ids) vals { db with streams := r :: db.streams } := by
  obtain ⟨-, hone, k, hk, hkid⟩ := Store.streamInsertError_eq_none hins
  refine { h.mono (List.subset_cons_self _ _) (fun _ hx => hx) with
    streamIDs_nodup :=
      List.nodup_cons.mpr ⟨not_mem_map_of_forall h.streamID_issued hid, h.streamIDs_nodup⟩
    streamID_issued := by simpa using fun x hx => List.mem_cons_of_mem _ (h.streamID_issued x hx)
    stream_key := by simpa using ⟨⟨k, hk, hkid, hkey k hk hkid⟩, h.stream_key⟩
    endedAt_eq_none := by simpa [hst, hend] using h.endedAt_eq_none
    oneActive := List.pairwise_cons.mpr ⟨fun x hx _ hx' he => hone hst x hx he.symm hx', h.oneActive⟩ }

theorem deleteBroadcaster (h : Tables ids vals db) (id : Nat) :
    Tables ids vals (db.deleteBroadcaster id) where
  keyIDs_nodup := h.keyIDs_nodup.sublist ((List.filter_sublist _).map _)
  keyValues_nodup := h.keyValues_nodup.sublist ((List.filter_sublist _).map _)
  streamIDs_nodup := h.streamIDs_nodup.sublist ((List.filter_sublist _).map _)
  keyID_issued := fun k hk => h.keyID_issued k (List.mem_filter.mp hk).1
  keyValue_issued := fun k hk => h.keyValue_issued k (List.mem_filter.mp hk).1
  streamID_issued := fun r hr => h.streamID_issued r (List.mem_filter.mp hr).1
  stream_key := fun r hr => by
    simp only [Store.deleteBroadcaster, List.mem_filter, List.mem_map, decide_eq_true_eq] at hr ⊢
    obtain ⟨hr, hgone⟩ := hr
    obtain ⟨k, hk, h₁, h₂⟩ := h.stream_key r hr
    exact ⟨k, ⟨hk, fun hb => hgone ⟨k, ⟨hk, hb⟩, h₁⟩⟩, h₁, h₂⟩
  endedAt_eq_none := fun r hr => h.endedAt_eq_none r (List.mem_filter.mp hr).1
  oneActive := h.oneActive.sublist (List.filter_sublist _)

end Tables

/-- Every change keeps `Tables`. -/
theorem DbChange.tables {ids ids' : List Nat} {vals vals' : List String} {db db' : Store}
    (h : DbChange ids vals db ids' vals' db') (ht : Tables ids vals db) : Tables ids' vals' db' := by
  cases h with
  | grow _ _ hi hv => exact ht.mono hi hv
  | updateKey id f hid hval _ => exact ht.updateKey id f hid hval
  | endWhere cond now => exact ht.endWhere cond now
  | insertBroadcaster u => exact { ht.mono (List.subset_cons_self _ _) (fun _ hx => hx) with }
  | insertKey key hid hval => exact ht.insertKey key hid hval
  | insertStream r hid hins hst hend hkey => exact ht.insertStream r hid hins hst hend hkey
  | deleteBroadcaster id => exact ht.deleteBroadcaster id

end RescueStream
