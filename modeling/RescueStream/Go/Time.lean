import Mathlib.Order.Basic
import Mathlib.Tactic.Ring

/-! The arithmetic of Go's `time` package that the timestamp check of
`AuthMiddleware.Authenticate` runs, as Go 1.22 writes it in `time/time.go`. A `Time` is kept as
Go keeps one without a monotonic reading: `sec`, the `int64` seconds since January 1 of year 1
(`t.sec()`, the field `ext`), and `nsec`, the nanoseconds within the second (`t.nsec()`); the
two ranges are fields, so no other value can be built. `time.Unix` shifts by `unixToInternal`
in `int64`, which wraps. `Sub` computes the difference in `int64` and keeps it only if adding
it back with `Add`, whose seconds saturate, gives the first time again. `Time.sub_eq` proves
what Go documents for `Sub`: the exact difference, clamped to the range of `Duration`. -/

namespace RescueStream

/-- `int64` arithmetic: the result taken into `[-2^63, 2^63)`. -/
def wrap64 (x : Int) : Int := (x + 2 ^ 63) % 2 ^ 64 - 2 ^ 63

theorem wrap64_ge (x : Int) : -2 ^ 63 ≤ wrap64 x := by unfold wrap64; omega
theorem wrap64_lt (x : Int) : wrap64 x < 2 ^ 63 := by unfold wrap64; omega

theorem wrap64_far (x : Int) :
    (2 ^ 63 ≤ x → wrap64 x ≤ x - 2 ^ 64) ∧ (x < -2 ^ 63 → x + 2 ^ 64 ≤ wrap64 x) := by
  unfold wrap64; omega

theorem wrap64_of_mem {x : Int} (h₁ : -2 ^ 63 ≤ x) (h₂ : x < 2 ^ 63) : wrap64 x = x := by
  unfold wrap64; omega

/-- `unixToInternal`: the seconds from January 1 of year 1 to the Unix epoch. -/
def unixToInternal : Int := (1969 * 365 + 1969 / 4 - 1969 / 100 + 1969 / 400) * 86400

def minDuration : Int := -2 ^ 63
def maxDuration : Int := 2 ^ 63 - 1

theorem tdiv_tmod_second (d : Int) :
    d = 1000000000 * d.tdiv 1000000000 + d.tmod 1000000000 ∧
      -1000000000 < d.tmod 1000000000 ∧ d.tmod 1000000000 < 1000000000 := by
  refine ⟨(Int.tdiv_add_tmod d _).symm, ?_, Int.tmod_lt_of_pos _ (by decide)⟩
  rw [Int.tmod_def]
  by_cases h : 0 ≤ d
  · rw [Int.tdiv_eq_ediv h (by decide)]; omega
  · rw [show d = -(-d) by omega, Int.neg_tdiv, Int.tdiv_eq_ediv (by omega) (by decide)]; omega

/-- A `time.Time` with no monotonic reading: `t.sec()` since January 1 of year 1 and `t.nsec()`. -/
structure Time where
  sec : Int
  nsec : Int
  sec_ge : -2 ^ 63 ≤ sec
  sec_lt : sec < 2 ^ 63
  nsec_ge : 0 ≤ nsec
  nsec_lt : nsec < 1000000000

namespace Time

/-- `time.Unix(sec, 0)`: `ext` is `sec + unixToInternal` in `int64`. -/
def unix (sec : Int) : Time :=
  ⟨wrap64 (sec + unixToInternal), 0, wrap64_ge _, wrap64_lt _, Int.le_refl 0, by decide⟩

/-- `t.addSec(d)`: `t.ext + d`, or the bound on the side the sum overflows to. -/
def addSec (t : Time) (d : Int) : Time :=
  if (wrap64 (t.sec + d) > t.sec ↔ d > 0) then
    ⟨wrap64 (t.sec + d), t.nsec, wrap64_ge _, wrap64_lt _, t.nsec_ge, t.nsec_lt⟩
  else if d > 0 then ⟨2 ^ 63 - 1, t.nsec, by decide, by decide, t.nsec_ge, t.nsec_lt⟩
  else ⟨-(2 ^ 63 - 1), t.nsec, by decide, by decide, t.nsec_ge, t.nsec_lt⟩

/-- `t.Add(d)`: the whole seconds and the rest of `d` added, with the carry. -/
def add (t : Time) (d : Int) : Time :=
  if h : t.nsec + d.tmod 1000000000 ≥ 1000000000 then
    addSec ⟨t.sec, t.nsec + d.tmod 1000000000 - 1000000000, t.sec_ge, t.sec_lt, by omega,
      by have := (tdiv_tmod_second d).2.2; have := t.nsec_lt; omega⟩ (d.tdiv 1000000000 + 1)
  else if h' : t.nsec + d.tmod 1000000000 < 0 then
    addSec ⟨t.sec, t.nsec + d.tmod 1000000000 + 1000000000, t.sec_ge, t.sec_lt,
      by have := (tdiv_tmod_second d).2.1; have := t.nsec_ge; omega, by omega⟩
      (d.tdiv 1000000000 - 1)
  else
    addSec ⟨t.sec, t.nsec + d.tmod 1000000000, t.sec_ge, t.sec_lt, by omega, by omega⟩
      (d.tdiv 1000000000)

def equal (t u : Time) : Bool := t.sec == u.sec && t.nsec == u.nsec

def before (t u : Time) : Bool := t.sec < u.sec || (t.sec == u.sec && t.nsec < u.nsec)

/-- `t.Sub(u)`: the `int64` difference when adding it back to `u` gives `t`, else a bound. -/
def sub (t u : Time) : Int :=
  let d := wrap64 (wrap64 (wrap64 (t.sec - u.sec) * 1000000000) + (t.nsec - u.nsec))
  if (u.add d).equal t then d
  else if t.before u then minDuration
  else maxDuration

/-- Nanoseconds since the Unix epoch, as an exact integer. -/
def unixNanos (t : Time) : Int := (t.sec - unixToInternal) * 1000000000 + t.nsec

/-! ### What the operations compute -/

def satSec (x : Int) : Int :=
  if x < -2 ^ 63 then -(2 ^ 63 - 1) else if 2 ^ 63 ≤ x then 2 ^ 63 - 1 else x

theorem satSec_cases (x : Int) :
    (satSec x = x ∧ -2 ^ 63 ≤ x ∧ x < 2 ^ 63) ∨ (satSec x = -(2 ^ 63 - 1) ∧ x < -2 ^ 63) ∨
      (satSec x = 2 ^ 63 - 1 ∧ 2 ^ 63 ≤ x) := by
  unfold satSec; split_ifs <;> omega

theorem addSec_sec (t : Time) {d : Int} (h₁ : -2 ^ 63 ≤ d) (h₂ : d < 2 ^ 63) :
    (t.addSec d).sec = satSec (t.sec + d) := by
  have := t.sec_ge; have := t.sec_lt
  obtain ⟨hhi, hlo⟩ := wrap64_far (t.sec + d)
  unfold addSec satSec
  by_cases hl : t.sec + d < -2 ^ 63
  · rw [if_neg (by omega), if_neg (by omega), if_pos hl]
  by_cases hu : 2 ^ 63 ≤ t.sec + d
  · rw [if_neg (by omega), if_pos (by omega), if_neg hl, if_pos hu]
  · have hw := wrap64_of_mem (not_lt.mp hl) (not_le.mp hu)
    rw [if_pos (by omega), if_neg hl, if_neg hu]
    exact hw

@[simp] theorem addSec_nsec (t : Time) (d : Int) : (t.addSec d).nsec = t.nsec := by
  unfold addSec; split_ifs <;> rfl

theorem tdiv_second_mem {d : Int} (h₁ : -2 ^ 63 ≤ d) (h₂ : d < 2 ^ 63) :
    -2 ^ 63 < d.tdiv 1000000000 - 1 ∧ d.tdiv 1000000000 + 1 < 2 ^ 63 := by
  have := tdiv_tmod_second d; omega

theorem add_nsec (t : Time) (d : Int) : (t.add d).nsec = (t.nsec + d) % 1000000000 := by
  have := tdiv_tmod_second d; have := t.nsec_ge; have := t.nsec_lt
  unfold add
  split_ifs <;> simp only [addSec_nsec] <;> omega

theorem add_sec (t : Time) {d : Int} (h₁ : -2 ^ 63 ≤ d) (h₂ : d < 2 ^ 63) :
    (t.add d).sec = satSec (t.sec + (t.nsec + d) / 1000000000) := by
  have := tdiv_tmod_second d; have := tdiv_second_mem h₁ h₂
  have := t.nsec_ge; have := t.nsec_lt
  unfold add
  by_cases hc : t.nsec + d.tmod 1000000000 ≥ 1000000000
  · rw [dif_pos hc, addSec_sec _ (by omega) (by omega),
      show (t.nsec + d) / 1000000000 = d.tdiv 1000000000 + 1 by omega]
  rw [dif_neg hc]
  by_cases hc' : t.nsec + d.tmod 1000000000 < 0
  · rw [dif_pos hc', addSec_sec _ (by omega) (by omega),
      show (t.nsec + d) / 1000000000 = d.tdiv 1000000000 - 1 by omega]
  · rw [dif_neg hc', addSec_sec _ (by omega) (by omega),
      show (t.nsec + d) / 1000000000 = d.tdiv 1000000000 by omega]

theorem wrap64_sub (x y : Int) :
    wrap64 (wrap64 (wrap64 x * 1000000000) + y) = wrap64 (x * 1000000000 + y) := by
  unfold wrap64; omega

theorem eq_of_add_back {a b x y d D : Int} (ha₁ : -2 ^ 63 ≤ a) (ha₂ : a < 2 ^ 63)
    (hx₁ : 0 ≤ x) (hx₂ : x < 1000000000) (hd₁ : -2 ^ 63 ≤ d) (hd₂ : d < 2 ^ 63)
    (hD : D = (b - a) * 1000000000 + (y - x)) (hw₁ : -2 ^ 63 ≤ D → D < 2 ^ 63 → d = D)
    (hw₂ : 2 ^ 63 ≤ D → d ≤ D - 2 ^ 64) (hw₃ : D < -2 ^ 63 → D + 2 ^ 64 ≤ d)
    (hn : (x + d) % 1000000000 = y) (hs : satSec (a + (x + d) / 1000000000) = b) : d = D := by
  rcases satSec_cases (a + (x + d) / 1000000000) with ⟨he, -⟩ | ⟨he, hlt⟩ | ⟨he, hge⟩ <;>
    rw [he] at hs <;> omega

theorem satSec_of_mem {x : Int} (h₁ : -2 ^ 63 ≤ x) (h₂ : x < 2 ^ 63) : satSec x = x := by
  unfold satSec; rw [if_neg (by omega), if_neg (by omega)]

/-- `Sub`'s check holds exactly when the exact difference fits `int64`. -/
theorem add_back_equal_iff (t u : Time) {D : Int}
    (hD : (t.sec - u.sec) * 1000000000 + (t.nsec - u.nsec) = D) :
    (u.add (wrap64 D)).equal t = true ↔ -2 ^ 63 ≤ D ∧ D ≤ 2 ^ 63 - 1 := by
  have := t.sec_ge; have := t.sec_lt; have := t.nsec_ge; have := t.nsec_lt
  have := u.nsec_ge; have := u.nsec_lt
  have hge := wrap64_ge D; have hlt := wrap64_lt D
  simp only [equal, Bool.and_eq_true, beq_iff_eq, add_sec _ hge hlt, add_nsec]
  constructor
  · rintro ⟨hs, hn⟩
    have := eq_of_add_back u.sec_ge u.sec_lt u.nsec_ge u.nsec_lt hge hlt hD.symm wrap64_of_mem
      (wrap64_far D).1 (wrap64_far D).2 hn hs
    omega
  · intro hr
    rw [wrap64_of_mem hr.1 (by omega), show (u.nsec + D) / 1000000000 = t.sec - u.sec by omega,
      show u.sec + (t.sec - u.sec) = t.sec by omega, satSec_of_mem t.sec_ge t.sec_lt]
    exact ⟨rfl, by omega⟩

theorem before_iff (t u : Time) :
    t.before u = true ↔ (t.sec - u.sec) * 1000000000 + (t.nsec - u.nsec) < 0 := by
  have := t.nsec_ge; have := t.nsec_lt; have := u.nsec_ge; have := u.nsec_lt
  simp only [before, Bool.or_eq_true, Bool.and_eq_true, beq_iff_eq, decide_eq_true_eq]
  omega

/-- `t.Sub(u)` is the exact difference in nanoseconds, clamped to the range of `Duration`. -/
theorem sub_eq (t u : Time) :
    t.sub u = if (t.sec - u.sec) * 1000000000 + (t.nsec - u.nsec) < -2 ^ 63 then minDuration
      else if 2 ^ 63 - 1 < (t.sec - u.sec) * 1000000000 + (t.nsec - u.nsec) then maxDuration
      else (t.sec - u.sec) * 1000000000 + (t.nsec - u.nsec) := by
  have hbefore := before_iff t u
  unfold sub
  rw [wrap64_sub]
  generalize hD : (t.sec - u.sec) * 1000000000 + (t.nsec - u.nsec) = D at hbefore
  have heq := add_back_equal_iff t u hD
  by_cases h₁ : D < -2 ^ 63
  · rw [if_neg (fun h => absurd (heq.mp h).1 (by omega)), if_pos (hbefore.mpr (by omega)),
      if_pos h₁]
  by_cases h₂ : 2 ^ 63 - 1 < D
  · rw [if_neg (fun h => absurd (heq.mp h).2 (by omega)),
      if_neg (fun h => absurd (hbefore.mp h) (by omega)), if_neg h₁, if_pos h₂]
  · rw [if_pos (heq.mpr ⟨by omega, by omega⟩), if_neg h₁, if_neg h₂,
      wrap64_of_mem (by omega) (by omega)]

end Time

end RescueStream
