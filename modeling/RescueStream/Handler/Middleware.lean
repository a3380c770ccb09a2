import RescueStream.Go.Time
import Mathlib.Data.Nat.Defs

/-! `AuthMiddleware.Authenticate` (`internal/handler/middleware.go`), the HMAC check in front of
the API. The request is cut down to what the middleware reads; HMAC-SHA256 stays a parameter
that returns 32 bytes, and everything around it is modelled: `strconv.ParseInt`, the `%d` of
`fmt.Sprintf`, the drift check on `time.Since(time.Unix(ts, 0))` over the `time` model of
`Go/Time.lean`, `hex.EncodeToString`, and the order of the checks with their problem details. -/

namespace RescueStream

/-! ### `strconv.ParseInt` and `%d` -/

/-- The value of decimal digits, most significant first, as the loop of `ParseUint` builds it. -/
def parseDigits (ds : List Char) : Nat := ds.foldl (fun n c => 10 * n + (c.toNat - 48)) 0

def splitSign : List Char → Bool × List Char
  | '+' :: ds => (false, ds)
  | '-' :: ds => (true, ds)
  | ds => (false, ds)

/-- `strconv.ParseInt(s, 10, 64)`; `none` is the `*NumError` it returns. -/
def parseInt (s : String) : Option Int :=
  let (neg, ds) := splitSign s.data
  if ds = [] ∨ ds.any (fun c => !c.isDigit) then none
  else
    let v : Int := if neg then -(parseDigits ds : Int) else parseDigits ds
    if v < -2 ^ 63 ∨ 2 ^ 63 ≤ v then none else some v

theorem parseInt_mem {s : String} {v : Int} (h : parseInt s = some v) :
    -2 ^ 63 ≤ v ∧ v < 2 ^ 63 := by
  unfold parseInt at h
  generalize splitSign s.data = p at h
  obtain ⟨neg, ds⟩ := p
  dsimp only at h
  split_ifs at h <;> cases h <;> omega

theorem parseDigits_append (l : List Char) (c : Char) :
    parseDigits (l ++ [c]) = 10 * parseDigits l + (c.toNat - 48) := by
  simp [parseDigits, List.foldl_append]

theorem digitChar_digit :
    ∀ d < 10, (Nat.digitChar d).isDigit = true ∧ (Nat.digitChar d).toNat - 48 = d := by
  decide

theorem toDigitsCore_succ (f n : Nat) (ds : List Char) :
    Nat.toDigitsCore 10 (f + 1) n ds = if n / 10 = 0 then Nat.digitChar (n % 10) :: ds
      else Nat.toDigitsCore 10 f (n / 10) (Nat.digitChar (n % 10) :: ds) := rfl

theorem toDigitsCore_acc (f n : Nat) (ds : List Char) :
    Nat.toDigitsCore 10 f n ds = Nat.toDigitsCore 10 f n [] ++ ds := by
  induction f generalizing n ds with
  | zero => rfl
  | succ f ih =>
    rw [toDigitsCore_succ, toDigitsCore_succ]
    split_ifs
    · rfl
    · rw [ih, ih (n / 10) [_], List.append_assoc, List.singleton_append]

/-- With enough fuel, `toDigitsCore` writes decimal digits that `parseDigits` reads back. -/
theorem toDigitsCore_digits (f n : Nat) (h : n < 10 ^ (f + 1)) :
    Nat.toDigitsCore 10 (f + 1) n [] ≠ [] ∧
      (∀ c ∈ Nat.toDigitsCore 10 (f + 1) n [], c.isDigit = true) ∧
      parseDigits (Nat.toDigitsCore 10 (f + 1) n []) = n := by
  induction f generalizing n with
  | zero =>
    have hn : n < 10 := by simpa using h
    obtain ⟨hd, hv⟩ := digitChar_digit (n % 10) (Nat.mod_lt _ (by decide))
    rw [toDigitsCore_succ, if_pos (Nat.div_eq_of_lt hn)]
    refine ⟨List.cons_ne_nil _ _, by simpa using hd, ?_⟩
    simp only [parseDigits, List.foldl_cons, List.foldl_nil, hv]
    omega
  | succ f ih =>
    obtain ⟨hd, hv⟩ := digitChar_digit (n % 10) (Nat.mod_lt _ (by decide))
    rw [toDigitsCore_succ]
    split_ifs with h₀
    · refine ⟨List.cons_ne_nil _ _, by simpa using hd, ?_⟩
      simp only [parseDigits, List.foldl_cons, List.foldl_nil, hv]
      omega
    · obtain ⟨-, ihd, ihv⟩ := ih (n / 10) (by rw [Nat.pow_succ] at h; omega)
      rw [toDigitsCore_acc]
      refine ⟨by simp, fun c hc => ?_, by rw [parseDigits_append, ihv, hv]; omega⟩
      rcases List.mem_append.mp hc with hc | hc
      · exact ihd c hc
      · simp only [List.mem_singleton] at hc; exact hc ▸ hd

theorem toDigits_digits (n : Nat) :
    Nat.toDigits 10 n ≠ [] ∧ (∀ c ∈ Nat.toDigits 10 n, c.isDigit = true) ∧
      parseDigits (Nat.toDigits 10 n) = n :=
  toDigitsCore_digits n n (by have := Nat.lt_pow_self (by decide : 1 < 10) (n + 1); omega)

theorem toString_data_ofNat (n : Nat) : (toString (Int.ofNat n)).data = Nat.toDigits 10 n := rfl

theorem toString_data_negSucc (n : Nat) :
    (toString (Int.negSucc n)).data = '-' :: Nat.toDigits 10 (n + 1) := rfl

/-- `%d` writes different integers differently. -/
theorem toString_injective {t t' : Int} (h : toString t = toString t') : t = t' := by
  have hd := congrArg String.data h
  have hdigit : ¬ ('-').isDigit := by decide
  cases t with
  | ofNat n =>
    cases t' with
    | ofNat n' =>
      have hv := congrArg parseDigits hd
      rw [toString_data_ofNat, toString_data_ofNat, (toDigits_digits n).2.2,
        (toDigits_digits n').2.2] at hv
      rw [hv]
    | negSucc n' =>
      rw [toString_data_ofNat, toString_data_negSucc] at hd
      exact absurd ((toDigits_digits n).2.1 _ (hd ▸ List.mem_cons_self _ _)) hdigit
  | negSucc n =>
    cases t' with
    | ofNat n' =>
      rw [toString_data_negSucc, toString_data_ofNat] at hd
      exact absurd ((toDigits_digits n').2.1 _ (hd ▸ List.mem_cons_self _ _)) hdigit
    | negSucc n' =>
      rw [toString_data_negSucc, toString_data_negSucc] at hd
      have hv := congrArg parseDigits (List.cons.inj hd).2
      rw [(toDigits_digits _).2.2, (toDigits_digits _).2.2] at hv
      rw [Nat.succ.inj hv]

theorem newline_not_mem_toString (t : Int) : '\n' ∉ (toString t).data := by
  have hdigit : ¬ ('\n').isDigit := by decide
  cases t with
  | ofNat n => exact fun h => hdigit ((toDigits_digits n).2.1 _ h)
  | negSucc n =>
    rw [toString_data_negSucc, List.mem_cons]
    rintro (h | h)
    · exact absurd h (by decide)
    · exact hdigit ((toDigits_digits _).2.1 _ h)

/-! ### The string to sign -/

/-- `fmt.Sprintf("%s\n%s\n%d\n%s", r.Method, r.URL.Path, timestamp, string(bodyBytes))`. -/
def stringToSign (method path : String) (timestamp : Int) (body : String) : String :=
  method ++ "\n" ++ path ++ "\n" ++ toString timestamp ++ "\n" ++ body

theorem stringToSign_data (method path : String) (timestamp : Int) (body : String) :
    (stringToSign method path timestamp body).data = method.data ++ '\n' ::
      (path.data ++ '\n' :: ((toString timestamp).data ++ '\n' :: body.data)) := by
  simp [stringToSign]

theorem append_cons_inj {c : Char} {x x' y y' : List Char} (hx : c ∉ x) (hx' : c ∉ x')
    (h : x ++ c :: y = x' ++ c :: y') : x = x' ∧ y = y' := by
  induction x generalizing x' with
  | nil =>
    cases x' with
    | nil => exact ⟨rfl, (List.cons.inj h).2⟩
    | cons a x' => exact absurd ((List.cons.inj h).1 ▸ List.mem_cons_self _ _) hx'
  | cons a x ih =>
    cases x' with
    | nil => exact absurd ((List.cons.inj h).1 ▸ List.mem_cons_self _ _) hx
    | cons b x' =>
      obtain ⟨rfl, ht⟩ := List.cons.inj h
      obtain ⟨rfl, rfl⟩ := ih (fun hm => hx (List.mem_cons_of_mem _ hm))
        (fun hm => hx' (List.mem_cons_of_mem _ hm)) ht
      exact ⟨rfl, rfl⟩

/-- With no newline in method or path, the string to sign determines all four parts. -/
theorem stringToSign_injective {m m' p p' b b' : String} {t t' : Int}
    (hm : '\n' ∉ m.data) (hm' : '\n' ∉ m'.data) (hp : '\n' ∉ p.data) (hp' : '\n' ∉ p'.data)
    (h : stringToSign m p t b = stringToSign m' p' t' b') :
    m = m' ∧ p = p' ∧ t = t' ∧ b = b' := by
  have hd := congrArg String.data h
  rw [stringToSign_data, stringToSign_data] at hd
  obtain ⟨hmm, hd⟩ := append_cons_inj hm hm' hd
  obtain ⟨hpp, hd⟩ := append_cons_inj hp hp' hd
  obtain ⟨htt, hbb⟩ :=
    append_cons_inj (newline_not_mem_toString t) (newline_not_mem_toString t') hd
  exact ⟨String.ext hmm, String.ext hpp, toString_injective (String.ext htt), String.ext hbb⟩

theorem stringToSign_injective_get :
    '\n' ∉ "GET".data ∧ '\n' ∉ "/streams".data ∧
      ("GET" = "GET" ∧ "/streams" = "/streams" ∧ (1700000000 : Int) = 1700000000 ∧ "x" = "x") :=
  ⟨by decide, by decide,
    stringToSign_injective (by decide) (by decide) (by decide) (by decide) rfl⟩

/-! ### The drift check -/

/-- `MaxTimestampDrift`, five minutes, in nanoseconds. -/
def maxTimestampDrift : Int := 5 * 60 * 1000000000

/-- The drift check on `time.Since(time.Unix(timestamp, 0))`, read as `time.Now().Sub`. -/
def driftOk (now : Time) (timestamp : Int) : Bool :=
  let timeDiff := now.sub (Time.unix timestamp)
  !(timeDiff < -maxTimestampDrift || timeDiff > maxTimestampDrift)

/-- The check passes iff the exact distance to `time.Unix`'s time is within the drift. -/
theorem driftOk_window (now : Time) (ts : Int) :
    driftOk now ts = true ↔ -maxTimestampDrift ≤ now.unixNanos - (Time.unix ts).unixNanos ∧
      now.unixNanos - (Time.unix ts).unixNanos ≤ maxTimestampDrift := by
  have hD : (now.sec - (Time.unix ts).sec) * 1000000000 + (now.nsec - (Time.unix ts).nsec) =
      now.unixNanos - (Time.unix ts).unixNanos := by
    simp only [Time.unixNanos]; omega
  simp only [driftOk, Time.sub_eq, hD, Bool.not_eq_true', Bool.or_eq_false_iff,
    decide_eq_false_iff_not, not_lt, maxTimestampDrift, minDuration, maxDuration]
  generalize now.unixNanos - (Time.unix ts).unixNanos = D
  by_cases h₁ : D < -2 ^ 63
  · rw [if_pos h₁]; omega
  by_cases h₂ : 2 ^ 63 - 1 < D
  · rw [if_neg h₁, if_pos h₂]; omega
  · rw [if_neg h₁, if_neg h₂]

/-- `time.Unix` wraps an `int64` second past `2^63 - unixToInternal` by `2^64` seconds. -/
theorem unix_unixNanos {ts : Int} (h₁ : -2 ^ 63 ≤ ts) (h₂ : ts < 2 ^ 63) :
    (Time.unix ts).unixNanos =
      (if ts + unixToInternal < 2 ^ 63 then ts else ts - 2 ^ 64) * 1000000000 := by
  simp only [Time.unixNanos, Time.unix, wrap64, unixToInternal]
  split_ifs <;> omega

/-- From 1970 to Unix second `2^62`, the check is the exact window on the clock. -/
theorem driftOk_iff (now : Time)
    (hnow : 0 ≤ now.sec - unixToInternal ∧ now.sec - unixToInternal ≤ 2 ^ 62)
    {s : String} {ts : Int} (h : parseInt s = some ts) :
    driftOk now ts = true ↔ -maxTimestampDrift ≤ now.unixNanos - ts * 1000000000 ∧
      now.unixNanos - ts * 1000000000 ≤ maxTimestampDrift := by
  obtain ⟨h₁, h₂⟩ := parseInt_mem h
  rw [driftOk_window, unix_unixNanos h₁ h₂]
  split_ifs with hw
  · rfl
  -- `time.Unix` wrapped: both distances are far outside the window.
  have hn₀ := now.nsec_ge
  have hn₁ := now.nsec_lt
  simp only [Time.unixNanos, maxTimestampDrift, unixToInternal] at hw hnow ⊢
  constructor <;> intro h <;> omega

def sampleNow : Time :=
  ⟨1700000000 + unixToInternal, 0, by decide, by decide, Int.le_refl 0, by decide⟩

theorem driftOk_iff_sample :
    (0 ≤ sampleNow.sec - unixToInternal ∧ sampleNow.sec - unixToInternal ≤ 2 ^ 62) ∧
    parseInt "1700000000" = some 1700000000 ∧
    (driftOk sampleNow 1700000000 = true ↔
      -maxTimestampDrift ≤ sampleNow.unixNanos - 1700000000 * 1000000000 ∧
        sampleNow.unixNanos - 1700000000 * 1000000000 ≤ maxTimestampDrift) :=
  ⟨by decide, by decide, @driftOk_iff sampleNow (by decide) "1700000000" 1700000000 (by decide)⟩

/-! ### The middleware -/

def hextable : List Char := "0123456789abcdef".data

/-- `hex.EncodeToString`: each byte as two digits of `hextable`, high half first. -/
def hexEncode (src : List UInt8) : String :=
  ⟨src.flatMap fun v =>
    [hextable.getD (v.toNat >>> 4) '0', hextable.getD (v.toNat &&& 0x0f) '0']⟩

theorem hexEncode_ne_empty {src : List UInt8} (h : src ≠ []) : hexEncode src ≠ "" := by
  obtain ⟨v, src, rfl⟩ := List.exists_cons_of_ne_nil h
  exact fun he => nomatch congrArg String.data he

/-- The 32 bytes of `h.Sum(nil)` for an HMAC-SHA256 `h`. -/
structure Digest where
  bytes : List UInt8
  length_bytes : bytes.length = 32

theorem Digest.bytes_ne_nil (d : Digest) : d.bytes ≠ [] :=
  fun h => by simpa [h] using d.length_bytes

/-- The method, decoded path, three headers (`""` when absent) and body `Authenticate` reads. -/
structure SignedRequest where
  method : String
  path : String
  apiKey : String
  signature : String
  timestamp : String
  body : Option String
  deriving DecidableEq, Repr

/-- The next handler with the API key, or an RFC 9457 problem. -/
inductive MiddlewareResult
  | next (apiKey : String)
  | problem (status : Nat) (title detail inst : String)
  deriving DecidableEq, Repr

def unauthorized (detail inst : String) : MiddlewareResult :=
  .problem 401 "Unauthorized" detail inst

/-- `AuthMiddleware.Authenticate` at `time.Now()`; `getSecret` is `GetSecret`, `none` on error. -/
def authenticateRequest (getSecret : String → Option String)
    (hmacSHA256 : String → String → Digest) (now : Time) (r : SignedRequest) :
    MiddlewareResult :=
  if r.apiKey = "" ∨ r.signature = "" ∨ r.timestamp = "" then
    unauthorized "Missing authentication headers (X-API-Key, X-Signature, X-Timestamp)" r.path
  else
    match parseInt r.timestamp with
    | none => unauthorized "Invalid timestamp format" r.path
    | some timestamp =>
      if driftOk now timestamp = false then
        unauthorized "Request timestamp is too old or in the future" r.path
      else
        match getSecret r.apiKey with
        | none => unauthorized "Invalid API key" r.path
        | some secret =>
          match r.body with
          | none => .problem 500 "Internal Server Error" "Failed to read request body" r.path
          | some body =>
            let expectedSignature :=
              hexEncode (hmacSHA256 secret (stringToSign r.method r.path timestamp body)).bytes
            if r.signature = expectedSignature then
              .next r.apiKey
            else unauthorized "Invalid signature" r.path

section
variable {getSecret : String → Option String} {hmacSHA256 : String → String → Digest}
  {now : Time} {r : SignedRequest}

/-- A request is passed on, with its own API key, exactly when every check holds. -/
theorem authenticateRequest_eq_next {k : String} :
    authenticateRequest getSecret hmacSHA256 now r = .next k ↔
      k = r.apiKey ∧ r.apiKey ≠ "" ∧ r.signature ≠ "" ∧ r.timestamp ≠ "" ∧
      ∃ ts secret body, parseInt r.timestamp = some ts ∧ driftOk now ts = true ∧
        getSecret r.apiKey = some secret ∧ r.body = some body ∧
        r.signature =
          hexEncode (hmacSHA256 secret (stringToSign r.method r.path ts body)).bytes := by
  unfold authenticateRequest
  by_cases h₀ : r.apiKey = "" ∨ r.signature = "" ∨ r.timestamp = ""
  · rw [if_pos h₀]
    refine iff_of_false (by simp [unauthorized]) ?_
    rintro ⟨-, ha, hs, ht, -⟩
    exact h₀.elim ha (·.elim hs ht)
  · rw [if_neg h₀]
    simp only [not_or] at h₀
    rcases hp : parseInt r.timestamp with _ | ts
    · simp [unauthorized]
    cases hd : driftOk now ts <;> cases hg : getSecret r.apiKey <;> cases hb : r.body <;>
      simp [unauthorized, h₀, hd, hg, hb]
    split_ifs with hsig <;> simp [hsig, eq_comm]

end

def sampleSecrets (apiKey : String) : Option String := if apiKey = "k1" then some "s1" else none

/-- Two requests to `GET /streams/{id}` that move `\n1700000000` from the body into the id. -/
def collidingRequests (signature : String) : SignedRequest × SignedRequest :=
  (⟨"GET", "/streams/a", "k1", signature, "1700000000", some "1700000000\nx"⟩,
    ⟨"GET", "/streams/a\n1700000000", "k1", signature, "1700000000", some "x"⟩)

def sampleSignature (hmacSHA256 : String → String → Digest) : String :=
  hexEncode (hmacSHA256 "s1" (stringToSign "GET" "/streams/a" 1700000000 "1700000000\nx")).bytes

theorem stringToSign_collision :
    stringToSign "GET" "/streams/a" 1700000000 "1700000000\nx" =
      stringToSign "GET" "/streams/a\n1700000000" 1700000000 "x" := by
  decide

theorem colliding_requests_accepted (hmacSHA256 : String → String → Digest) :
    authenticateRequest sampleSecrets hmacSHA256 sampleNow
        (collidingRequests (sampleSignature hmacSHA256)).1 = .next "k1" ∧
    authenticateRequest sampleSecrets hmacSHA256 sampleNow
        (collidingRequests (sampleSignature hmacSHA256)).2 = .next "k1" := by
  have accept : ∀ (r : SignedRequest) (body : String), r.apiKey = "k1" →
      r.timestamp = "1700000000" → r.body = some body →
      r.signature =
        hexEncode (hmacSHA256 "s1" (stringToSign r.method r.path 1700000000 body)).bytes →
      authenticateRequest sampleSecrets hmacSHA256 sampleNow r = .next "k1" := by
    intro r body ha ht hb hs
    refine authenticateRequest_eq_next.mpr ⟨ha.symm, by rw [ha]; decide,
      by rw [hs]; exact hexEncode_ne_empty (Digest.bytes_ne_nil _), by rw [ht]; decide,
      1700000000, "s1", body, by rw [ht]; decide, by decide, by rw [ha]; decide, hb, hs⟩
  exact ⟨accept _ _ rfl rfl rfl rfl, accept _ _ rfl rfl rfl
    (congrArg (fun m => hexEncode (hmacSHA256 "s1" m).bytes) stringToSign_collision)⟩

/-- Whatever HMAC-SHA256 computes, one signature authenticates both requests. -/
theorem one_signature_two_requests :
    stringToSign "GET" "/streams/a" 1700000000 "1700000000\nx" =
      stringToSign "GET" "/streams/a\n1700000000" 1700000000 "x" ∧
    "/streams/a" ≠ "/streams/a\n1700000000" ∧
    ∀ hmacSHA256 : String → String → Digest,
      authenticateRequest sampleSecrets hmacSHA256 sampleNow
          (collidingRequests (sampleSignature hmacSHA256)).1 = .next "k1" ∧
      authenticateRequest sampleSecrets hmacSHA256 sampleNow
          (collidingRequests (sampleSignature hmacSHA256)).2 = .next "k1" :=
  ⟨stringToSign_collision, by decide, colliding_requests_accepted⟩

/-- A keyed hash that ignores its input: a closed stand-in for HMAC-SHA256. -/
def constantHMAC : String → String → Digest := fun _ _ => ⟨List.replicate 32 0, rfl⟩

/-! ### The key store `main` installs -/

/-- `EnvKeyStore.GetSecret`: the one secret for every non-empty API key. -/
def envKeyStore (secret apiKey : String) : Option String :=
  if apiKey = "" then none else some secret

/-- Under `EnvKeyStore` any other non-empty `X-API-Key` gets the same answer. -/
theorem envKeyStore_ignores_apiKey (secret : String) (hmacSHA256 : String → String → Digest)
    (now : Time) (r : SignedRequest) {k : String} (hk : k ≠ "") (hr : r.apiKey ≠ "") :
    authenticateRequest (envKeyStore secret) hmacSHA256 now { r with apiKey := k } =
      match authenticateRequest (envKeyStore secret) hmacSHA256 now r with
      | .next _ => .next k
      | res => res := by
  unfold authenticateRequest
  simp only [envKeyStore, hk, hr, if_false, false_or]
  split_ifs
  · rfl
  · cases parseInt r.timestamp with
    | none => rfl
    | some ts =>
      dsimp only
      split_ifs
      · rfl
      · cases r.body with
        | none => rfl
        | some body => dsimp only; split_ifs <;> rfl

theorem envKeyStore_ignores_apiKey_k2 :
    let r := (collidingRequests (sampleSignature constantHMAC)).1
    ("k2" : String) ≠ "" ∧ r.apiKey ≠ "" ∧
    authenticateRequest (envKeyStore "s1") constantHMAC sampleNow { r with apiKey := "k2" } =
      match authenticateRequest (envKeyStore "s1") constantHMAC sampleNow r with
      | .next _ => .next "k2"
      | res => res := by
  intro r
  have hk : ("k2" : String) ≠ "" := by decide
  have hr : r.apiKey ≠ "" := by decide
  exact ⟨hk, hr, envKeyStore_ignores_apiKey "s1" constantHMAC sampleNow r hk hr⟩

end RescueStream
