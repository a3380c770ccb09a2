import RescueStream.System.Invariant
import Mathlib.Logic.Relation

/-! Whole runs. `Steps.wf` carries the invariant along a run. `Steps.key_trace` and
`Steps.row_trace` say what a run can do to one row: a key row keeps its id and value and
moves by `KeyStep`s, a stream row moves by one `RowStep`, and any other row at the end of
the run has an id drawn during it. A `Revoke` that has returned keeps its place among the
calls, with its result, for the rest of the run. -/

namespace RescueStream

open Relation

/-- Ending a row is final, so `RowStep` composes. -/
theorem RowStep.trans {r r' r'' : Stream} (h₁ : RowStep r r') (h₂ : RowStep r' r'') :
    RowStep r r'' := by
  obtain rfl | ⟨ha, t, rfl⟩ := h₁
  · exact h₂
  · rw [h₂.eq_of_not_active (by simp)]
    exact .inr ⟨ha, t, rfl⟩

theorem KeyStep.trace_id {k k' : StreamKey} (h : ReflTransGen KeyStep k k') :
    k'.id = k.id ∧ k'.keyValue = k.keyValue := by
  induction h with
  | refl => exact ⟨rfl, rfl⟩
  | tail _ hs ih => exact ⟨hs.1.trans ih.1, hs.2.1.trans ih.2⟩

theorem KeyStep.trace_not_active {k k' : StreamKey} (h : ReflTransGen KeyStep k k')
    (hk : k.status ≠ .active) : k'.status ≠ .active := by
  induction h with
  | refl => exact hk
  | tail _ hs ih => exact hs.not_active ih

namespace Sys

variable {s s' : Sys}

theorem Steps.wf (h : Steps s s') (hw : s.WF) : s'.WF := by
  induction h with
  | refl => exact hw
  | tail a _ hst ih => exact step_wf ih hst

/-- The ids and key values drawn only grow. -/
theorem Steps.issued (h : Steps s s') (hw : s.WF) :
    s.issuedIds ⊆ s'.issuedIds ∧ s.issuedKeys ⊆ s'.issuedKeys := by
  induction h with
  | refl => exact ⟨fun _ hx => hx, fun _ hx => hx⟩
  | tail a h₁ hst ih =>
    have hc := step_change (h₁.wf hw) hst
    exact ⟨fun _ hx => hc.ids_subset (ih.1 hx), fun _ hx => hc.vals_subset (ih.2 hx)⟩

theorem Steps.key_trace (h : Steps s s') (hw : s.WF) :
    ∀ k' ∈ s'.db.streamKeys, (∃ k ∈ s.db.streamKeys, ReflTransGen KeyStep k k') ∨
      (k'.id ∉ s.issuedIds ∧ k'.keyValue ∉ s.issuedKeys) := by
  induction h with
  | refl => exact fun k hk => .inl ⟨k, hk, .refl⟩
  | tail a h₁ hst ih =>
    intro k'' hk''
    have hsub := h₁.issued hw
    rcases (step_change (h₁.wf hw) hst).key_history k'' hk'' with ⟨k', hk', hs⟩ | ⟨hi, hv⟩
    · rcases ih k' hk' with ⟨k, hk, ht⟩ | ⟨hi, hv⟩
      · exact .inl ⟨k, hk, ht.tail hs⟩
      · exact .inr ⟨hs.1 ▸ hi, hs.2.1 ▸ hv⟩
    · exact .inr ⟨fun hx => hi (hsub.1 hx), fun hx => hv (hsub.2 hx)⟩

/-- A key row at the end of a run with a start row's id or value is it moved by `KeyStep`s. -/
theorem Steps.key_trace_of_mem (h : Steps s s') (hw : s.WF) {k k' : StreamKey}
    (hk : k ∈ s.db.streamKeys) (hk' : k' ∈ s'.db.streamKeys)
    (he : k'.id = k.id ∨ k'.keyValue = k.keyValue) : ReflTransGen KeyStep k k' := by
  rcases h.key_trace hw k' hk' with ⟨k₀, hk₀, ht⟩ | ⟨hi, hv⟩
  · obtain ⟨hid, hval⟩ := KeyStep.trace_id ht
    obtain rfl : k₀ = k := he.elim
      (fun he => hw.tables.key_eq_of_id hk₀ hk (hid.symm.trans he))
      (fun he => hw.tables.key_eq_of_value hk₀ hk (hval.symm.trans he))
    exact ht
  · exact he.elim (fun he => absurd (he ▸ hw.tables.keyID_issued k hk) hi)
      (fun he => absurd (he ▸ hw.tables.keyValue_issued k hk) hv)

theorem Steps.row_trace (h : Steps s s') (hw : s.WF) :
    ∀ r' ∈ s'.db.streams, (∃ r ∈ s.db.streams, RowStep r r') ∨ r'.id ∉ s.issuedIds := by
  induction h with
  | refl => exact fun r hr => .inl ⟨r, hr, RowStep.refl r⟩
  | tail a h₁ hst ih =>
    intro r'' hr''
    rcases (step_change (h₁.wf hw) hst).row_history r'' hr'' with ⟨r', hr', hs⟩ | hi
    · rcases ih r' hr' with ⟨r, hr, ht⟩ | hi
      · exact .inl ⟨r, hr, ht.trans hs⟩
      · exact .inr (hs.id_eq ▸ hi)
    · exact .inr fun hx => hi ((h₁.issued hw).1 hx)

/-- A stream row at the end of a run with a start row's id is it moved by one `RowStep`. -/
theorem Steps.row_trace_of_mem (h : Steps s s') (hw : s.WF) {r r' : Stream}
    (hr : r ∈ s.db.streams) (hr' : r' ∈ s'.db.streams) (he : r'.id = r.id) : RowStep r r' := by
  rcases h.row_trace hw r' hr' with ⟨r₀, hr₀, hs⟩ | hi
  · obtain rfl : r₀ = r := hw.tables.stream_eq_of_id hr₀ hr (hs.id_eq.symm.trans he)
    exact hs
  · exact absurd (he ▸ hw.tables.streamID_issued r hr) hi

/-- A `Revoke` that has returned is never run again. -/
theorem step_returned {a : Action} {i id : Nat} {t : Option (Stream × Except Error Unit)}
    {r : Except Error Unit} (hp : s.procs[i]? = some (.revoke id (.returned t r)))
    (h : s.step a = some s') : s'.procs[i]? = some (.revoke id (.returned t r)) := by
  obtain ⟨hlt, -⟩ := List.getElem?_eq_some.mp hp
  cases a with
  | startRevoke _ | startReady _ =>
    simp only [step, Option.some.injEq] at h; subst h
    rw [List.getElem?_append_left hlt]; exact hp
  | advance pid u now fault =>
    simp only [step, advance] at h
    by_cases hi : pid = i
    · subst hi; simp [hp, revokeStep] at h
    · split at h <;> try split_ifs at h
      all_goals first
        | obtain ⟨_, -, rfl⟩ := Option.map_eq_some'.mp h; exact (List.getElem?_set_ne hi).trans hp
        | cases h
  | _ =>
    simp only [step] at h
    repeat' split at h
    all_goals first
      | (simp only [Option.some.injEq] at h; subst h; exact hp)
      | cases h

theorem Steps.returned {i id : Nat} {t : Option (Stream × Except Error Unit)}
    {r : Except Error Unit} (h : Steps s s') (hp : s.procs[i]? = some (.revoke id (.returned t r))) :
    s'.procs[i]? = some (.revoke id (.returned t r)) := by
  induction h with
  | refl => exact hp
  | tail a _ hst ih => exact step_returned ih hst

end Sys

end RescueStream
