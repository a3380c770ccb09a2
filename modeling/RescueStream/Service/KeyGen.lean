import RescueStream.Domain
import Mathlib.Data.List.GetD
import Mathlib.Tactic.Ring

/-! `generateStreamKey`: `"sk_"` followed by `base64.RawURLEncoding.EncodeToString` of the
32 bytes `crypto/rand` fills. The encoder is Go's `Encoding.Encode` for the URL alphabet
without padding: every group of three bytes gives four characters, and a trailing group
of one or two bytes gives two or three. `encodeBlocks_eq_base64URL` proves that it writes the
base64url encoding of RFC 4648, and `encodeBlocks_inj` that it is injective: the sextets of a
group give its bytes back. -/

namespace RescueStream

/-- The 32-byte buffer `rand.Read` fills. -/
structure RandomBytes where
  bytes : List UInt8
  length_eq : bytes.length = 32
  deriving DecidableEq

/-- The alphabet of `base64.URLEncoding`. -/
def encodeURL : List Char :=
  "ABCDEFGHIJKLMNOPQRSTUVWXYZabcdefghijklmnopqrstuvwxyz0123456789-_".toList

def encodeChar (v : Nat) : Char := encodeURL.getD v 'A'

/-- The loop of `Encoding.Encode` over whole groups, then its trailing small block. -/
def encodeBlocks : List UInt8 → List Char
  | b₀ :: b₁ :: b₂ :: rest =>
    let val := b₀.toNat <<< 16 ||| b₁.toNat <<< 8 ||| b₂.toNat
    encodeChar (val >>> 18 &&& 0x3F) :: encodeChar (val >>> 12 &&& 0x3F) ::
      encodeChar (val >>> 6 &&& 0x3F) :: encodeChar (val &&& 0x3F) :: encodeBlocks rest
  | [b₀, b₁] =>
    let val := b₀.toNat <<< 16 ||| b₁.toNat <<< 8
    [encodeChar (val >>> 18 &&& 0x3F), encodeChar (val >>> 12 &&& 0x3F),
      encodeChar (val >>> 6 &&& 0x3F)]
  | [b₀] =>
    let val := b₀.toNat <<< 16
    [encodeChar (val >>> 18 &&& 0x3F), encodeChar (val >>> 12 &&& 0x3F)]
  | [] => []

/-- `base64.RawURLEncoding.EncodeToString`. -/
def encodeToString (src : List UInt8) : String := ⟨encodeBlocks src⟩

/-- `generateStreamKey`; the draw is `none` when `rand.Read` fails. -/
def generateStreamKey (draw : Option RandomBytes) : Except Error String :=
  match draw with
  | none => .error .rand
  | some b => .ok ("sk_" ++ encodeToString b.bytes)

def isURLChar (c : Char) : Bool := c.isAlphanum || c == '-' || c == '_'

/-- The validation rule of `key_value`: it matches `sk_[A-Za-z0-9_-]{43}`. -/
def matchesKeyPattern (s : String) : Bool :=
  s.data.take 3 == "sk_".data && (s.data.drop 3).length == 43 && (s.data.drop 3).all isURLChar

/-! ### The alphabet -/

theorem map_toNat_encodeURL :
    encodeURL.map Char.toNat =
      List.range' 65 26 ++ List.range' 97 26 ++ List.range' 48 10 ++ [45, 95] := rfl

theorem encodeURL_nodup : encodeURL.Nodup := by
  refine List.Nodup.of_map Char.toNat ?_
  rw [map_toNat_encodeURL]
  simp only [List.nodup_append, List.nodup_range' 65 26, List.nodup_range' 97 26,
    List.nodup_range' 48 10, List.disjoint_left, List.mem_append, List.mem_range'_1,
    List.nodup_cons, List.mem_cons, List.mem_singleton, List.not_mem_nil, List.nodup_nil,
    true_and, and_true, or_false, not_false_eq_true]
  exact ⟨⟨fun a => by omega, fun a => by omega⟩, by decide, fun a => by omega⟩

theorem encodeChar_mem (v : Nat) : encodeChar v ∈ encodeURL := by
  rcases Nat.lt_or_ge v 64 with hv | hv
  · rw [encodeChar, List.getD_eq_getElem encodeURL 'A' hv]; exact List.getElem_mem _
  · rw [encodeChar, List.getD_eq_default encodeURL 'A' hv]; decide

theorem encodeChar_inj {v w : Nat} (hv : v < 64) (hw : w < 64) (h : encodeChar v = encodeChar w) :
    v = w := by
  rw [encodeChar, encodeChar, List.getD_eq_getElem encodeURL 'A' hv,
    List.getD_eq_getElem encodeURL 'A' hw] at h
  exact encodeURL_nodup.getElem_inj_iff.mp h

theorem encodeChar_mod_inj {x y : Nat} (h : encodeChar (x % 64) = encodeChar (y % 64)) :
    x % 64 = y % 64 :=
  encodeChar_inj (Nat.mod_lt _ (by norm_num)) (Nat.mod_lt _ (by norm_num)) h

theorem isURLChar_of_mem : ∀ c ∈ encodeURL, isURLChar c = true := by decide

/-! ### One group at a time -/

theorem byte_lt (a : UInt8) : a.toNat < 256 := a.toNat_lt_size

theorem or_shift_two (a : Nat) {b : Nat} (hb : b < 256) :
    a <<< 16 ||| b <<< 8 = a * 65536 + b * 256 := by
  rw [Nat.shiftLeft_eq, Nat.shiftLeft_eq, Nat.mul_comm a, ← Nat.mul_add_lt_is_or (by omega)]

theorem or_shift_three (a : Nat) {b c : Nat} (hb : b < 256) (hc : c < 256) :
    a <<< 16 ||| b <<< 8 ||| c = a * 65536 + b * 256 + c := by
  rw [or_shift_two a hb, show a * 65536 + b * 256 = 2 ^ 8 * (a * 256 + b) by omega,
    ← Nat.mul_add_lt_is_or (by omega)]

theorem low_sextet (x : Nat) : x &&& 0x3F = x % 64 := Nat.and_pow_two_sub_one_eq_mod _ 6

theorem encodeBlocks_three (a b c : UInt8) (rest : List UInt8) :
    encodeBlocks (a :: b :: c :: rest) =
      encodeChar ((a.toNat * 65536 + b.toNat * 256 + c.toNat) / 2 ^ 18 % 64) ::
      encodeChar ((a.toNat * 65536 + b.toNat * 256 + c.toNat) / 2 ^ 12 % 64) ::
      encodeChar ((a.toNat * 65536 + b.toNat * 256 + c.toNat) / 2 ^ 6 % 64) ::
      encodeChar ((a.toNat * 65536 + b.toNat * 256 + c.toNat) % 64) :: encodeBlocks rest := by
  simp only [encodeBlocks, or_shift_three _ (byte_lt b) (byte_lt c),
    low_sextet, Nat.shiftRight_eq_div_pow]

theorem encodeBlocks_two (a b : UInt8) :
    encodeBlocks [a, b] =
      [encodeChar ((a.toNat * 65536 + b.toNat * 256) / 2 ^ 18 % 64),
        encodeChar ((a.toNat * 65536 + b.toNat * 256) / 2 ^ 12 % 64),
        encodeChar ((a.toNat * 65536 + b.toNat * 256) / 2 ^ 6 % 64)] := by
  simp only [encodeBlocks, or_shift_two _ (byte_lt b), low_sextet,
    Nat.shiftRight_eq_div_pow]

theorem encodeBlocks_one (a : UInt8) :
    encodeBlocks [a] =
      [encodeChar (a.toNat * 65536 / 2 ^ 18 % 64), encodeChar (a.toNat * 65536 / 2 ^ 12 % 64)] := by
  simp only [encodeBlocks, Nat.shiftLeft_eq, low_sextet, Nat.shiftRight_eq_div_pow]

theorem length_encodeBlocks (l : List UInt8) :
    (encodeBlocks l).length = (4 * l.length + 2) / 3 := by
  induction l using encodeBlocks.induct with
  | case1 a b c rest ih => simp only [encodeBlocks_three, List.length_cons, ih]; omega
  | case2 a b => simp [encodeBlocks_two]
  | case3 a => simp [encodeBlocks_one]
  | case4 => rfl

/-! ### Base64url as RFC 4648 writes it -/

def bitsOf : Nat → Nat → List Bool
  | 0, _ => []
  | w + 1, n => n.testBit w :: bitsOf w n

def bitsVal : List Bool → Nat
  | [] => 0
  | b :: l => b.toNat * 2 ^ l.length + bitsVal l

def sextets : List Bool → List (List Bool)
  | b₀ :: b₁ :: b₂ :: b₃ :: b₄ :: b₅ :: rest => [b₀, b₁, b₂, b₃, b₄, b₅] :: sextets rest
  | [] => []
  | rest => [rest ++ List.replicate (6 - rest.length) false]

/-- The base64url encoding of RFC 4648 without padding, as the bits of the bytes in sextets. -/
def base64URL (src : List UInt8) : List Char :=
  (sextets (src.flatMap fun b => bitsOf 8 b.toNat)).map fun g => encodeChar (bitsVal g)

@[simp] theorem length_bitsOf (w n : Nat) : (bitsOf w n).length = w := by
  induction w <;> simp [bitsOf, *]

theorem bitsVal_append (l₁ l₂ : List Bool) :
    bitsVal (l₁ ++ l₂) = bitsVal l₁ * 2 ^ l₂.length + bitsVal l₂ := by
  induction l₁ with
  | nil => simp [bitsVal]
  | cons b l ih => rw [List.cons_append, bitsVal, bitsVal, ih, List.length_append]; ring

theorem bitsVal_bitsOf (w n : Nat) : bitsVal (bitsOf w n) = n % 2 ^ w := by
  induction w with
  | zero => simp [bitsOf, bitsVal, Nat.mod_one]
  | succ w ih =>
    rw [bitsOf, bitsVal, ih, length_bitsOf, Nat.mod_pow_succ, Nat.testBit_to_div_mod]
    rcases Nat.mod_two_eq_zero_or_one (n / 2 ^ w) with h | h <;> simp [h]; ring

theorem bitsOf_mod {w k : Nat} (n : Nat) (h : w ≤ k) : bitsOf w (n % 2 ^ k) = bitsOf w n := by
  induction w with
  | zero => rfl
  | succ w ih => simp [bitsOf, Nat.testBit_mod_two_pow, show w < k by omega, ih (by omega)]

theorem bitsOf_add (w₁ w₂ n : Nat) : bitsOf (w₁ + w₂) n = bitsOf w₁ (n / 2 ^ w₂) ++ bitsOf w₂ n := by
  induction w₁ with
  | zero => simp [bitsOf]
  | succ w ih =>
    rw [Nat.add_right_comm, bitsOf, ih, bitsOf, ← Nat.shiftRight_eq_div_pow, Nat.testBit_shiftRight,
      Nat.add_comm w₂, List.cons_append]

theorem bitsOf_eq {w n m : Nat} (h : n % 2 ^ w = m % 2 ^ w) : bitsOf w n = bitsOf w m := by
  rw [← bitsOf_mod n le_rfl, h, bitsOf_mod m le_rfl]

theorem sextets_six (x : Nat) (rest : List Bool) :
    sextets (bitsOf 6 x ++ rest) = bitsOf 6 x :: sextets rest := rfl

theorem bits_three {a b c v : Nat} (hv : v = a * 65536 + b * 256 + c) (hb : b < 256)
    (hc : c < 256) :
    bitsOf 8 a ++ bitsOf 8 b ++ bitsOf 8 c =
      bitsOf 6 (v / 2 ^ 18) ++ bitsOf 6 (v / 2 ^ 12) ++ bitsOf 6 (v / 2 ^ 6) ++ bitsOf 6 v := by
  have h₁ : bitsOf 24 v = bitsOf 8 (v / 2 ^ 16) ++ bitsOf 16 v := bitsOf_add 8 16 v
  have h₂ : bitsOf 16 v = bitsOf 8 (v / 2 ^ 8) ++ bitsOf 8 v := bitsOf_add 8 8 v
  have h₃ : bitsOf 24 v = bitsOf 6 (v / 2 ^ 18) ++ bitsOf 18 v := bitsOf_add 6 18 v
  have h₄ : bitsOf 18 v = bitsOf 6 (v / 2 ^ 12) ++ bitsOf 12 v := bitsOf_add 6 12 v
  have h₅ : bitsOf 12 v = bitsOf 6 (v / 2 ^ 6) ++ bitsOf 6 v := bitsOf_add 6 6 v
  rw [bitsOf_eq (show a % 2 ^ 8 = v / 2 ^ 16 % 2 ^ 8 by omega),
    bitsOf_eq (show b % 2 ^ 8 = v / 2 ^ 8 % 2 ^ 8 by omega),
    bitsOf_eq (show c % 2 ^ 8 = v % 2 ^ 8 by omega), List.append_assoc, ← h₂, ← h₁, h₃, h₄, h₅]
  simp only [List.append_assoc]

theorem bits_two {a b w : Nat} (hw : w = a * 256 + b) (hb : b < 256) :
    bitsOf 8 a ++ bitsOf 8 b = bitsOf 6 (w / 2 ^ 10) ++ bitsOf 6 (w / 2 ^ 4) ++ bitsOf 4 w := by
  have h₁ : bitsOf 16 w = bitsOf 8 (w / 2 ^ 8) ++ bitsOf 8 w := bitsOf_add 8 8 w
  have h₂ : bitsOf 16 w = bitsOf 6 (w / 2 ^ 10) ++ bitsOf 10 w := bitsOf_add 6 10 w
  have h₃ : bitsOf 10 w = bitsOf 6 (w / 2 ^ 4) ++ bitsOf 4 w := bitsOf_add 6 4 w
  rw [bitsOf_eq (show a % 2 ^ 8 = w / 2 ^ 8 % 2 ^ 8 by omega),
    bitsOf_eq (show b % 2 ^ 8 = w % 2 ^ 8 by omega), ← h₁, h₂, h₃, List.append_assoc]

@[simp] theorem bitsVal_replicate_false (k : Nat) : bitsVal (List.replicate k false) = 0 := by
  induction k <;> simp [List.replicate_succ, bitsVal, *]

theorem bitsVal_pad (k n : Nat) :
    bitsVal (bitsOf k n ++ List.replicate (6 - k) false) = n % 2 ^ k * 2 ^ (6 - k) := by
  rw [bitsVal_append, bitsVal_bitsOf, bitsVal_replicate_false, List.length_replicate, Nat.add_zero]

/-- Go's block encoder computes the base64url encoding. -/
theorem encodeBlocks_eq_base64URL (src : List UInt8) : encodeBlocks src = base64URL src := by
  induction src using encodeBlocks.induct with
  | case1 a b c rest ih =>
    rw [encodeBlocks_three, ih, base64URL, base64URL, List.flatMap_cons, List.flatMap_cons,
      List.flatMap_cons, ← List.append_assoc, ← List.append_assoc,
      bits_three rfl (byte_lt b) (byte_lt c)]
    simp only [List.append_assoc, sextets_six, List.map_cons, bitsVal_bitsOf, Nat.reducePow]
  | case2 a b =>
    rw [encodeBlocks_two, base64URL, List.flatMap_cons, List.flatMap_cons, List.flatMap_nil,
      List.append_nil, bits_two rfl (byte_lt b), List.append_assoc, sextets_six, sextets_six,
      show sextets (bitsOf 4 (a.toNat * 256 + b.toNat)) =
        [bitsOf 4 (a.toNat * 256 + b.toNat) ++ List.replicate (6 - 4) false] from rfl]
    simp only [List.map_cons, List.map_nil, bitsVal_bitsOf, bitsVal_pad, List.cons.injEq, and_true]
    refine ⟨congrArg encodeChar ?_, congrArg encodeChar ?_, congrArg encodeChar ?_⟩ <;> omega
  | case3 a =>
    rw [encodeBlocks_one, base64URL, List.flatMap_cons, List.flatMap_nil, List.append_nil,
      show bitsOf 8 a.toNat = bitsOf 6 (a.toNat / 2 ^ 2) ++ bitsOf 2 a.toNat from bitsOf_add 6 2 _,
      sextets_six, show sextets (bitsOf 2 a.toNat) =
        [bitsOf 2 a.toNat ++ List.replicate (6 - 2) false] from rfl]
    simp only [List.map_cons, List.map_nil, bitsVal_bitsOf, bitsVal_pad, List.cons.injEq, and_true]
    refine ⟨congrArg encodeChar ?_, congrArg encodeChar ?_⟩ <;> omega
  | case4 => rfl

/-! ### Injective, and in the alphabet -/

theorem group_eq_of_sextets {v v' : Nat} (hv : v < 2 ^ 24) (hv' : v' < 2 ^ 24)
    (h₀ : v / 2 ^ 18 % 64 = v' / 2 ^ 18 % 64) (h₁ : v / 2 ^ 12 % 64 = v' / 2 ^ 12 % 64)
    (h₂ : v / 2 ^ 6 % 64 = v' / 2 ^ 6 % 64) (h₃ : v % 64 = v' % 64) : v = v' := by
  omega

/-- The encoder is injective: the sextets of a group give back its bytes. -/
theorem encodeBlocks_inj {l l' : List UInt8} (h : encodeBlocks l = encodeBlocks l') : l = l' := by
  induction l using encodeBlocks.induct generalizing l' with
  | case1 a b c rest ih =>
    rcases l' with _ | ⟨a', _ | ⟨b', _ | ⟨c', rest'⟩⟩⟩
    · simp [encodeBlocks_three, encodeBlocks] at h
    · simp [encodeBlocks_three, encodeBlocks_one] at h
    · simp [encodeBlocks_three, encodeBlocks_two] at h
    · simp only [encodeBlocks_three, List.cons.injEq] at h
      obtain ⟨h₀, h₁, h₂, h₃, hr⟩ := h
      have := byte_lt a; have := byte_lt b; have := byte_lt c
      have := byte_lt a'; have := byte_lt b'; have := byte_lt c'
      have hv := group_eq_of_sextets (by omega) (by omega) (encodeChar_mod_inj h₀)
        (encodeChar_mod_inj h₁) (encodeChar_mod_inj h₂) (encodeChar_mod_inj h₃)
      rw [UInt8.toNat.inj (show a.toNat = a'.toNat by omega),
        UInt8.toNat.inj (show b.toNat = b'.toNat by omega),
        UInt8.toNat.inj (show c.toNat = c'.toNat by omega), ih hr]
  | case2 a b =>
    rcases l' with _ | ⟨a', _ | ⟨b', _ | ⟨c', rest'⟩⟩⟩
    · simp [encodeBlocks_two, encodeBlocks] at h
    · simp [encodeBlocks_two, encodeBlocks_one] at h
    · simp only [encodeBlocks_two, List.cons.injEq, and_true] at h
      obtain ⟨h₀, h₁, h₂⟩ := h
      have := byte_lt a; have := byte_lt b; have := byte_lt a'; have := byte_lt b'
      have hv := group_eq_of_sextets (by omega) (by omega) (encodeChar_mod_inj h₀)
        (encodeChar_mod_inj h₁) (encodeChar_mod_inj h₂) (by omega)
      rw [UInt8.toNat.inj (show a.toNat = a'.toNat by omega),
        UInt8.toNat.inj (show b.toNat = b'.toNat by omega)]
    · simp [encodeBlocks_three, encodeBlocks_two] at h
  | case3 a =>
    rcases l' with _ | ⟨a', _ | ⟨b', _ | ⟨c', rest'⟩⟩⟩
    · simp [encodeBlocks_one, encodeBlocks] at h
    · simp only [encodeBlocks_one, List.cons.injEq, and_true] at h
      have := byte_lt a; have := byte_lt a'
      have hv := group_eq_of_sextets (by omega) (by omega) (encodeChar_mod_inj h.1)
        (encodeChar_mod_inj h.2) (by omega) (by omega)
      rw [UInt8.toNat.inj (show a.toNat = a'.toNat by omega)]
    · simp [encodeBlocks_one, encodeBlocks_two] at h
    · simp [encodeBlocks_three, encodeBlocks_one] at h
  | case4 =>
    rcases l' with _ | ⟨a', _ | ⟨b', _ | ⟨c', rest'⟩⟩⟩
    · rfl
    all_goals simp [encodeBlocks_three, encodeBlocks_two, encodeBlocks_one, encodeBlocks] at h

theorem mem_encodeBlocks {l : List UInt8} {c : Char} (h : c ∈ encodeBlocks l) : c ∈ encodeURL := by
  rw [encodeBlocks_eq_base64URL, base64URL, List.mem_map] at h
  obtain ⟨g, -, rfl⟩ := h
  exact encodeChar_mem _

/-! ### The stream key -/

/-- Every draw's key is `sk_` and its base64url: 46 URL-safe characters, distinct per draw. -/
theorem generateStreamKey_format (b : RandomBytes) :
    generateStreamKey (some b) = .ok ("sk_" ++ encodeToString b.bytes) ∧
    (encodeToString b.bytes).data = base64URL b.bytes ∧
    (encodeToString b.bytes).length = 43 ∧
    matchesKeyPattern ("sk_" ++ encodeToString b.bytes) = true ∧
    ("sk_" ++ encodeToString b.bytes).length = 46 ∧
    '/' ∉ ("sk_" ++ encodeToString b.bytes).data ∧
    ∀ b' : RandomBytes, generateStreamKey (some b') = generateStreamKey (some b) → b' = b := by
  have hlen : (encodeBlocks b.bytes).length = 43 := by rw [length_encodeBlocks, b.length_eq]
  have hdata : ("sk_" ++ encodeToString b.bytes).data = "sk_".data ++ encodeBlocks b.bytes := rfl
  refine ⟨rfl, encodeBlocks_eq_base64URL _, hlen, ?_, ?_, ?_, fun b' h => ?_⟩
  · simp only [matchesKeyPattern, hdata]
    simpa [hlen] using fun c hc => isURLChar_of_mem c (mem_encodeBlocks hc)
  · show ("sk_".data ++ encodeBlocks b.bytes).length = 46
    rw [List.length_append, hlen]; rfl
  · rw [hdata]
    intro hs
    rcases List.mem_append.mp hs with hs | hs
    · exact absurd hs (by decide)
    · exact absurd (mem_encodeBlocks hs) (by decide)
  · have hk : "sk_".data ++ encodeBlocks b'.bytes = "sk_".data ++ encodeBlocks b.bytes :=
      congrArg String.data (Except.ok.inj h)
    obtain ⟨bytes, hb⟩ := b
    obtain ⟨bytes', hb'⟩ := b'
    obtain rfl : bytes' = bytes := encodeBlocks_inj (List.append_cancel_left hk)
    rfl

/-- Thirty-two zero bytes, the draw of the example runs. -/
def zeroDraw : RandomBytes := ⟨List.replicate 32 0, rfl⟩

def zeroKey : String := "sk_AAAAAAAAAAAAAAAAAAAAAAAAAAAAAAAAAAAAAAAAAAA"

example : generateStreamKey (some zeroDraw) = .ok zeroKey := by decide

end RescueStream
