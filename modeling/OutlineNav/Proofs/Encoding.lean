import OutlineNav.Text.Utf8

/-!
# Encoded texts

Decoding takes back what encoding has written, and nothing else is decoded: the bytes that are the
encoding of a text are exactly those that decode without an error, and each to its own text
(`decodeUtf8_eq_ok_iff`).
-/

namespace OutlineNav.Text

/-! ## Bytes of a sequence -/

theorem isContinuation_iff (b : UInt8) :
    isContinuation b = true ↔ 0x80 ≤ b.toNat ∧ b.toNat ≤ 0xBF := by
  simp [isContinuation, UInt8.le_iff_toNat_le]

theorem isSecondByte_iff (b c : UInt8) :
    isSecondByte b c = true ↔ 0x80 ≤ c.toNat ∧ c.toNat ≤ 0xBF ∧
      (b.toNat = 0xE0 → 0xA0 ≤ c.toNat) ∧ (b.toNat = 0xF0 → 0x90 ≤ c.toNat) ∧
      (b.toNat = 0xED → c.toNat ≤ 0x9F) ∧ (b.toNat = 0xF4 → c.toNat ≤ 0x8F) := by
  simp only [isSecondByte, Bool.and_eq_true, decide_eq_true_eq, ← UInt8.toNat_inj,
    UInt8.le_iff_toNat_le, apply_ite UInt8.toNat, UInt8.reduceToNat]
  grind

theorem sequenceLength?_eq_some (b : UInt8) (k : Nat) :
    sequenceLength? b = some k ↔ k = 1 ∧ b.toNat < 0x80 ∨
      k = 2 ∧ 0xC2 ≤ b.toNat ∧ b.toNat < 0xE0 ∨ k = 3 ∧ 0xE0 ≤ b.toNat ∧ b.toNat < 0xF0 ∨
      k = 4 ∧ 0xF0 ≤ b.toNat ∧ b.toNat < 0xF5 := by
  simp only [sequenceLength?, UInt8.lt_iff_toNat_lt, UInt8.reduceToNat]
  grind

/-! ## Sequences

A character takes one to four bytes. The first one tells how many there are, and the payloads of the
others are digits of base sixty-four. -/

/-- A byte by its lowest value and its payload. -/
def byte (low payload : Nat) : UInt8 := UInt8.ofNat (low + payload)

theorem toNat_byte {low payload : Nat} (h : low + payload < 256) :
    (byte low payload).toNat = low + payload := by
  rw [byte, UInt8.toNat_ofNat', Nat.mod_eq_of_lt h]

theorem exists_payload {b : UInt8} {low : Nat} (h : low ≤ b.toNat) :
    ∃ q, b = byte low q ∧ b.toNat = low + q :=
  ⟨b.toNat - low, by rw [byte, Nat.add_sub_cancel' h, UInt8.ofNat_toNat], by omega⟩

/-- The bytes encode the character, which is neither written longer than needed nor a surrogate nor
beyond the last code point. -/
inductive IsSequence : Char → List UInt8 → Prop
  | one {p : Nat} (hp : p < 0x80) : IsSequence (Char.ofNat p) [byte 0 p]
  | two {p q : Nat} (hp : 2 ≤ p ∧ p < 32) (hq : q < 64) :
      IsSequence (Char.ofNat (p * 64 + q)) [byte 0xC0 p, byte 0x80 q]
  | three {p q r : Nat} (hp : p < 16) (hq : q < 64) (hr : r < 64) (hlow : p = 0 → 32 ≤ q)
      (hhigh : p = 13 → q < 32) :
      IsSequence (Char.ofNat ((p * 64 + q) * 64 + r)) [byte 0xE0 p, byte 0x80 q, byte 0x80 r]
  | four {p q r s : Nat} (hp : p < 5) (hq : q < 64) (hr : r < 64) (hs : s < 64)
      (hlow : p = 0 → 16 ≤ q) (hhigh : p = 4 → q < 16) :
      IsSequence (Char.ofNat (((p * 64 + q) * 64 + r) * 64 + s))
        [byte 0xF0 p, byte 0x80 q, byte 0x80 r, byte 0x80 s]

theorem div_of_digit {n q : Nat} (h : q < 64) : (n * 64 + q) / 64 = n := by omega

theorem mod_of_digit {n q : Nat} (h : q < 64) : (n * 64 + q) % 64 = q := by omega

theorem div_4096 (n : Nat) : n / 4096 = n / 64 / 64 := (Nat.div_div_eq_div_mul n 64 64).symm

theorem div_262144 (n : Nat) : n / 262144 = n / 64 / 64 / 64 := by
  rw [Nat.div_div_eq_div_mul, Nat.div_div_eq_div_mul]

theorem toNat_ofNat {n : Nat} (h : n.isValidChar) : (Char.ofNat n).val.toNat = n := by
  rw [Char.ofNat, dif_pos h]
  rfl

theorem encode_ofNat {n : Nat} (h : n.isValidChar) : String.utf8EncodeChar (Char.ofNat n) =
    if n ≤ 0x7F then [byte 0 n]
    else if n ≤ 0x7FF then [byte 0xC0 (n / 64 % 32), byte 0x80 (n % 64)]
    else if n ≤ 0xFFFF then
      [byte 0xE0 (n / 64 / 64 % 16), byte 0x80 (n / 64 % 64), byte 0x80 (n % 64)]
    else
      [byte 0xF0 (n / 64 / 64 / 64 % 8), byte 0x80 (n / 64 / 64 % 64), byte 0x80 (n / 64 % 64),
        byte 0x80 (n % 64)] := by
  simp only [String.utf8EncodeChar, toNat_ofNat h, div_262144, div_4096, byte, Nat.add_zero,
    Nat.add_comm]

/-- A sequence is what encoding makes of its character. -/
theorem IsSequence.encode_eq {c : Char} {bytes : List UInt8} (h : IsSequence c bytes) :
    String.utf8EncodeChar c = bytes := by
  cases h with
  | one hp => rw [encode_ofNat (.inl (by omega)), if_pos (by omega)]
  | two hp hq =>
      rw [encode_ofNat (.inl (by omega)), if_neg (by omega), if_pos (by omega), div_of_digit hq,
        mod_of_digit hq, Nat.mod_eq_of_lt hp.2]
  | @three p q r hp hq hr hlow hhigh =>
      have hvalid : ((p * 64 + q) * 64 + r).isValidChar := by
        simp only [Nat.isValidChar]
        omega
      rw [encode_ofNat hvalid, if_neg (by omega), if_neg (by omega), if_pos (by omega),
        div_of_digit hr, mod_of_digit hr, div_of_digit hq, mod_of_digit hq, Nat.mod_eq_of_lt hp]
  | @four p q r s hp hq hr hs hlow hhigh =>
      have hvalid : (((p * 64 + q) * 64 + r) * 64 + s).isValidChar := by
        simp only [Nat.isValidChar]
        omega
      rw [encode_ofNat hvalid, if_neg (by omega), if_neg (by omega), if_neg (by omega),
        div_of_digit hs, mod_of_digit hs, div_of_digit hr, mod_of_digit hr, div_of_digit hq,
        mod_of_digit hq, Nat.mod_eq_of_lt (by omega : p < 8)]

/-- Encoding gives a sequence. -/
theorem isSequence_encode (c : Char) : IsSequence c (String.utf8EncodeChar c) := by
  obtain ⟨n, hn, rfl⟩ : ∃ n : Nat, n.isValidChar ∧ c = Char.ofNat n :=
    ⟨c.toNat, c.valid, (Char.ofNat_toNat c).symm⟩
  rw [encode_ofNat hn]
  have hlow : n / 64 * 64 + n % 64 = n := Nat.div_add_mod' n 64
  have hmiddle : n / 64 / 64 * 64 + n / 64 % 64 = n / 64 := Nat.div_add_mod' _ 64
  have hhigh : n / 64 / 64 / 64 * 64 + n / 64 / 64 % 64 = n / 64 / 64 := Nat.div_add_mod' _ 64
  simp only [Nat.isValidChar] at hn
  split
  · exact .one (by omega)
  · split
    · have h := @IsSequence.two (n / 64 % 32) (n % 64) (by omega) (by omega)
      rw [Nat.mod_eq_of_lt (by omega : n / 64 < 32)] at h ⊢
      rwa [hlow] at h
    · split
      · have h := @IsSequence.three (n / 64 / 64 % 16) (n / 64 % 64) (n % 64) (by omega) (by omega)
          (by omega) (by omega) (by omega)
        rw [Nat.mod_eq_of_lt (by omega : n / 64 / 64 < 16)] at h ⊢
        rwa [hmiddle, hlow] at h
      · have h := @IsSequence.four (n / 64 / 64 / 64 % 8) (n / 64 / 64 % 64) (n / 64 % 64) (n % 64)
          (by omega) (by omega) (by omega) (by omega) (by omega) (by omega)
        rw [Nat.mod_eq_of_lt (by omega : n / 64 / 64 / 64 < 8)] at h ⊢
        rwa [hhigh, hmiddle, hlow] at h

/-! ## Decoding -/

theorem isContinuation_byte {q : Nat} (h : q < 64) : isContinuation (byte 0x80 q) = true := by
  rw [isContinuation_iff, toNat_byte (by omega)]
  omega

theorem isSecondByte_byte {low p q : Nat} (hp : low + p < 256) (hq : q < 64)
    (h₀ : low + p = 0xE0 → 32 ≤ q) (h₁ : low + p = 0xF0 → 16 ≤ q) (h₂ : low + p = 0xED → q < 32)
    (h₃ : low + p = 0xF4 → q < 16) : isSecondByte (byte low p) (byte 0x80 q) = true := by
  rw [isSecondByte_iff, toNat_byte hp, toNat_byte (by omega)]
  omega

theorem codePoint_byte {payload q : Nat} (hq : q < 64) (rest : List UInt8) :
    codePoint payload (byte 0x80 q :: rest) = codePoint (payload * 64 + q) rest := by
  have hdigit : (0x80 + q) % 64 = q := by omega
  rw [codePoint, codePoint, List.foldl_cons, toNat_byte (by omega), hdigit]

/-- A sequence in front of other bytes is decoded to its character. -/
theorem IsSequence.decode {c : Char} {bytes : List UInt8} (h : IsSequence c bytes) (index : Nat)
    (rest : List UInt8) : decodeUtf8From index (bytes ++ rest) =
      (decodeUtf8From (index + bytes.length) rest).map (c :: ·) := by
  cases h with
  | @one p hp =>
      have hfirst : (byte 0 p).toNat = p := by rw [toNat_byte (by omega), Nat.zero_add]
      have hlength : sequenceLength? (byte 0 p) = some 1 := by
        rw [sequenceLength?_eq_some]
        omega
      rw [decodeUtf8From.eq_def]
      simp only [List.cons_append, List.nil_append, hlength, hfirst]
      rfl
  | @two p q hp hq =>
      have hfirst : (byte 0xC0 p).toNat = 0xC0 + p := toNat_byte (by omega)
      have hpayload : (0xC0 + p) % 32 = p := by omega
      have hlength : sequenceLength? (byte 0xC0 p) = some 2 := by
        rw [sequenceLength?_eq_some]
        omega
      have hsecond : isSecondByte (byte 0xC0 p) (byte 0x80 q) = true :=
        isSecondByte_byte (by omega) hq (by omega) (by omega) (by omega) (by omega)
      rw [decodeUtf8From.eq_def]
      simp only [List.cons_append, List.nil_append, hlength, hsecond, hfirst, hpayload,
        codePoint_byte hq]
      rfl
  | @three p q r hp hq hr hlow hhigh =>
      have hfirst : (byte 0xE0 p).toNat = 0xE0 + p := toNat_byte (by omega)
      have hpayload : (0xE0 + p) % 16 = p := by omega
      have hlength : sequenceLength? (byte 0xE0 p) = some 3 := by
        rw [sequenceLength?_eq_some]
        omega
      have hsecond : isSecondByte (byte 0xE0 p) (byte 0x80 q) = true :=
        isSecondByte_byte (by omega) hq (by omega) (by omega) (by omega) (by omega)
      rw [decodeUtf8From.eq_def]
      simp only [List.cons_append, List.nil_append, hlength, hsecond, isContinuation_byte hr,
        hfirst, hpayload, codePoint_byte hq, codePoint_byte hr]
      rfl
  | @four p q r s hp hq hr hs hlow hhigh =>
      have hfirst : (byte 0xF0 p).toNat = 0xF0 + p := toNat_byte (by omega)
      have hpayload : (0xF0 + p) % 8 = p := by omega
      have hlength : sequenceLength? (byte 0xF0 p) = some 4 := by
        rw [sequenceLength?_eq_some]
        omega
      have hsecond : isSecondByte (byte 0xF0 p) (byte 0x80 q) = true :=
        isSecondByte_byte (by omega) hq (by omega) (by omega) (by omega) (by omega)
      rw [decodeUtf8From.eq_def]
      simp only [List.cons_append, List.nil_append, hlength, hsecond, isContinuation_byte hr,
        isContinuation_byte hs, hfirst, hpayload, codePoint_byte hq, codePoint_byte hr,
        codePoint_byte hs]
      rfl

theorem decodeUtf8From_encodeUtf8 (index : Nat) (cs : List Char) :
    decodeUtf8From index (encodeUtf8 cs) = .ok cs := by
  induction cs generalizing index with
  | nil => rfl
  | cons c cs ih =>
      rw [encodeUtf8, List.flatMap_cons, (isSequence_encode c).decode, ← encodeUtf8, ih]
      rfl

theorem of_guard {α ε : Type} {check : Bool} {e : ε} {a : α} {r : Except ε α}
    (h : (if !check then .error e else r) = .ok a) : check = true ∧ r = .ok a := by
  cases check with
  | false => cases h
  | true => exact ⟨rfl, h⟩

/-- What decodes starts with a sequence. -/
theorem exists_sequence {index : Nat} {b : UInt8} {bytes : List UInt8} {cs : List Char}
    (h : decodeUtf8From index (b :: bytes) = .ok cs) :
    ∃ c seq rest, IsSequence c seq ∧ b :: bytes = seq ++ rest := by
  rw [decodeUtf8From.eq_def] at h
  cases hlength : sequenceLength? b with
  | none =>
      simp only [hlength] at h
      cases h
  | some k =>
      simp only [hlength] at h
      obtain ⟨rfl, hb⟩ | ⟨rfl, hb⟩ | ⟨rfl, hb⟩ | ⟨rfl, hb⟩ :=
        (sequenceLength?_eq_some b k).mp hlength
      · obtain ⟨p, rfl, hp⟩ := exists_payload (Nat.zero_le b.toNat)
        exact ⟨_, _, bytes, .one (by omega), rfl⟩
      · rcases bytes with _ | ⟨b₂, bytes⟩
        · cases h
        obtain ⟨hsecond, h⟩ := of_guard h
        rw [isSecondByte_iff] at hsecond
        obtain ⟨p, rfl, hp⟩ := exists_payload (by omega : 0xC0 ≤ b.toNat)
        obtain ⟨q, rfl, hq⟩ := exists_payload hsecond.1
        exact ⟨_, _, bytes, .two (by omega) (by omega), rfl⟩
      · rcases bytes with _ | ⟨b₂, bytes⟩
        · cases h
        obtain ⟨hsecond, h⟩ := of_guard h
        rcases bytes with _ | ⟨b₃, bytes⟩
        · cases h
        obtain ⟨hthird, h⟩ := of_guard h
        rw [isSecondByte_iff] at hsecond
        rw [isContinuation_iff] at hthird
        obtain ⟨p, rfl, hp⟩ := exists_payload hb.1
        obtain ⟨q, rfl, hq⟩ := exists_payload hsecond.1
        obtain ⟨r, rfl, hr⟩ := exists_payload hthird.1
        exact ⟨_, _, bytes, .three (by omega) (by omega) (by omega) (by omega) (by omega), rfl⟩
      · rcases bytes with _ | ⟨b₂, bytes⟩
        · cases h
        obtain ⟨hsecond, h⟩ := of_guard h
        rcases bytes with _ | ⟨b₃, bytes⟩
        · cases h
        obtain ⟨hthird, h⟩ := of_guard h
        rcases bytes with _ | ⟨b₄, bytes⟩
        · cases h
        obtain ⟨hfourth, h⟩ := of_guard h
        rw [isSecondByte_iff] at hsecond
        rw [isContinuation_iff] at hthird hfourth
        obtain ⟨p, rfl, hp⟩ := exists_payload hb.1
        obtain ⟨q, rfl, hq⟩ := exists_payload hsecond.1
        obtain ⟨r, rfl, hr⟩ := exists_payload hthird.1
        obtain ⟨s, rfl, hs⟩ := exists_payload hfourth.1
        exact ⟨_, _, bytes, .four (by omega) (by omega) (by omega) (by omega) (by omega)
          (by omega), rfl⟩

/-- By induction on the number of bytes: the first sequence is the encoding of the first
character. -/
theorem eq_encodeUtf8_of_decode {index : Nat} {bytes : List UInt8} {cs : List Char}
    (h : decodeUtf8From index bytes = .ok cs) : bytes = encodeUtf8 cs := by
  induction hn : bytes.length using Nat.strongRecOn generalizing index bytes cs with
  | _ n ih => ?_
  cases bytes with
  | nil => cases h; rfl
  | cons b bytes =>
      obtain ⟨c, seq, rest, hseq, hbytes⟩ := exists_sequence h
      rw [hbytes, hseq.decode] at h
      cases hrest : decodeUtf8From (index + seq.length) rest with
      | error e => simp [hrest, Except.map] at h
      | ok cs' =>
          obtain rfl : c :: cs' = cs := by simpa [hrest, Except.map] using h
          have hlt : rest.length < n := by
            rw [← hn, hbytes, List.length_append, ← hseq.encode_eq]
            have := String.length_utf8EncodeChar c
            have := c.utf8Size_pos
            omega
          rw [hbytes, ih _ hlt hrest rfl, encodeUtf8, encodeUtf8, List.flatMap_cons, hseq.encode_eq]

/-- The encodings of texts are what decodes, each to its own text. -/
theorem decodeUtf8_eq_ok_iff (bytes : List UInt8) (cs : List Char) :
    decodeUtf8 bytes = .ok cs ↔ bytes = encodeUtf8 cs :=
  ⟨eq_encodeUtf8_of_decode, fun h => h ▸ decodeUtf8From_encodeUtf8 0 cs⟩

theorem decodeUtf8_encodeUtf8 (cs : List Char) : decodeUtf8 (encodeUtf8 cs) = .ok cs :=
  decodeUtf8From_encodeUtf8 0 cs

/-! ## Single bytes -/

theorem encodeUtf8_append (cs ds : List Char) :
    encodeUtf8 (cs ++ ds) = encodeUtf8 cs ++ encodeUtf8 ds := List.flatMap_append

theorem length_encodeUtf8_le (cs : List Char) : (encodeUtf8 cs).length ≤ 4 * cs.length := by
  induction cs with
  | nil => exact Nat.le_refl 0
  | cons c cs ih =>
      have hc := c.utf8Size_le_four
      rw [encodeUtf8] at ih
      rw [encodeUtf8, List.flatMap_cons, List.length_append, String.length_utf8EncodeChar,
        List.length_cons]
      omega

/-- A byte below the continuation bytes encodes a character by itself, and stands in the encoding
of no other. -/
theorem eq_of_mem_encode {c : Char} {b : UInt8} (hb : b.toNat < 0x80)
    (h : b ∈ String.utf8EncodeChar c) : c.toNat = b.toNat := by
  have hseq := isSequence_encode c
  generalize String.utf8EncodeChar c = bytes at h hseq
  cases hseq with
  | one hp =>
      obtain rfl : b = byte 0 _ := by simpa using h
      rw [toNat_byte (by omega), Nat.zero_add]
      exact toNat_ofNat (.inl (by omega))
  | two hp hq =>
      simp only [List.mem_cons, List.not_mem_nil, or_false] at h
      rcases h with rfl | rfl <;> rw [toNat_byte (by omega)] at hb <;> omega
  | three hp hq hr =>
      simp only [List.mem_cons, List.not_mem_nil, or_false] at h
      rcases h with rfl | rfl | rfl <;> rw [toNat_byte (by omega)] at hb <;> omega
  | four hp hq hr hs =>
      simp only [List.mem_cons, List.not_mem_nil, or_false] at h
      rcases h with rfl | rfl | rfl | rfl <;> rw [toNat_byte (by omega)] at hb <;> omega

end OutlineNav.Text
