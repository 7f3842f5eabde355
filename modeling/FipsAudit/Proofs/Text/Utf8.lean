import FipsAudit.Proofs.Bytes
import FipsAudit.Text.Utf8

/-!
# `FipsAudit.Proofs.Text.Utf8` — the decoder reads what was encoded

The decoder is a machine that takes one byte a step, and the encoder writes one to four bytes a character. The
machine stands at a boundary before the bytes of a character and again after them, and on the way it puts out just
that character. So whole texts are read back, and no part of them is taken for malformed.

* `foldl_feed_encodeChar` — the bytes of one character, from boundary to boundary.
* `outputs_encodeChars` — the bytes of a text.
* `decodeLossy_encode`, `decode?_encode` — the lossy and the strict reader undo the encoder.
* `not_mem_encodeChars` — a byte below 128 stands for its character and for nothing else.
* `size_append`, `size_decodeLossyChars_le` — how many bytes a text takes.
-/

namespace FipsAudit.Text.Utf8

/-! ## One byte -/

/-- One byte, with the outputs so far, the latest first. -/
def feed (s : Decoder × List Output) (b : UInt8) : Decoder × List Output :=
  ((s.1.step b).1, (s.1.step b).2 ++ s.2)

theorem outputs_of_foldl {bytes : List UInt8} {out : List Output} (h : bytes.foldl feed (none, []) = (none, out)) :
    outputs bytes = out.reverse := by
  unfold outputs
  -- The function that is folded there is `feed`, but for the way it takes the pair apart.
  erw [h]

theorem feed_start {b : UInt8} {p : Partial} (h : Lead.ofByte b = .opens p) (out : List Output) :
    feed (none, out) b = (some p, out) := by
  simp only [feed, Decoder.step, Decoder.start, h, List.nil_append]

/-- A byte within the bounds of an open sequence goes on with it. -/
theorem feed_continue {value missing low high : Nat} {b : UInt8} (hlow : low ≤ b.toNat) (hhigh : b.toNat ≤ high)
    (out : List Output) :
    feed (some ⟨value, missing + 2, low, high⟩, out) b =
      (some { value := value * 64 + (b.toNat - 0x80), missing := missing + 1 }, out) := by
  have hmore : ¬missing + 2 ≤ 1 := by omega
  simp only [feed, Decoder.step, hlow, hhigh, and_self, if_true, hmore, if_false]
  rfl

/-- The last byte closes it. -/
theorem feed_close {value low high : Nat} {b : UInt8} (hlow : low ≤ b.toNat) (hhigh : b.toNat ≤ high)
    (out : List Output) :
    feed (some ⟨value, 1, low, high⟩, out) b = (none, some (Char.ofNat (value * 64 + (b.toNat - 0x80))) :: out) := by
  simp only [feed, Decoder.step, hlow, hhigh, and_self, if_true, Nat.le_refl]
  rfl

/-! ## First bytes -/

theorem Lead.ofByte_single {b : UInt8} (h : b.toNat < 0x80) : Lead.ofByte b = .single (Char.ofNat b.toNat) := by
  simp only [Lead.ofByte, h, if_true]

theorem Lead.ofByte_two {b : UInt8} (h : 0xC2 ≤ b.toNat) (h' : b.toNat < 0xE0) :
    Lead.ofByte b = .opens { value := b.toNat - 0xC0, missing := 1 } := by
  have h₁ : ¬b.toNat < 0x80 := by omega
  have h₂ : ¬b.toNat < 0xC2 := by omega
  simp only [Lead.ofByte, h₁, h₂, h', if_true, if_false]

/-- The first of three bytes. After `E0` the next byte has to make the form long enough, after `ED` it has to stay
    below the surrogates. -/
theorem Lead.ofByte_three {b : UInt8} (h : 0xE0 ≤ b.toNat) (h' : b.toNat < 0xF0) :
    Lead.ofByte b = .opens
      { value := b.toNat - 0xE0, missing := 2, low := if b.toNat = 0xE0 then 0xA0 else 0x80,
        high := if b.toNat = 0xED then 0x9F else 0xBF } := by
  have h₁ : ¬b.toNat < 0x80 := by omega
  have h₂ : ¬b.toNat < 0xC2 := by omega
  have h₃ : ¬b.toNat < 0xE0 := by omega
  simp only [Lead.ofByte, h₁, h₂, h₃, h', if_true, if_false]
  by_cases h₄ : b.toNat = 0xE0
  · simp [h₄]
  · by_cases h₅ : b.toNat = 0xED <;> simp [h₄, h₅]

/-- The first of four bytes. After `F0` the next byte has to make the form long enough, after `F4` it has to stay
    within the last plane. -/
theorem Lead.ofByte_four {b : UInt8} (h : 0xF0 ≤ b.toNat) (h' : b.toNat < 0xF5) :
    Lead.ofByte b = .opens
      { value := b.toNat - 0xF0, missing := 3, low := if b.toNat = 0xF0 then 0x90 else 0x80,
        high := if b.toNat = 0xF4 then 0x8F else 0xBF } := by
  have h₁ : ¬b.toNat < 0x80 := by omega
  have h₂ : ¬b.toNat < 0xC2 := by omega
  have h₃ : ¬b.toNat < 0xE0 := by omega
  have h₄ : ¬b.toNat = 0xE0 := by omega
  have h₅ : ¬b.toNat = 0xED := by omega
  have h₆ : ¬b.toNat < 0xF0 := by omega
  simp only [Lead.ofByte, h₁, h₂, h₃, h₄, h₅, h₆, if_false]
  by_cases h₇ : b.toNat = 0xF0
  · simp [h₇]
  · by_cases h₈ : b.toNat = 0xF4
    · simp [h₈]
    · have h₉ : b.toNat < 0xF4 := by omega
      simp [h₇, h₈, h₉]

/-! ## One character -/

/-- A trailing byte holds six bits. -/
theorem toNat_trailing (v : Nat) : (UInt8.ofNat (v % 64 + 128)).toNat = v % 64 + 128 := toNat_ofNat_of_lt (by omega)

theorem foldl_feed_one {v : Nat} (h : v ≤ 0x7F) (out : List Output) :
    [UInt8.ofNat v].foldl feed (none, out) = (none, some (Char.ofNat v) :: out) := by
  have hb : (UInt8.ofNat v).toNat = v := toNat_ofNat_of_lt (by omega)
  have hlead := Lead.ofByte_single (b := UInt8.ofNat v) (by omega)
  rw [hb] at hlead
  simp only [List.foldl_cons, List.foldl_nil, feed, Decoder.step, Decoder.start, hlead, List.singleton_append]

theorem foldl_feed_two {v : Nat} (h : 0x7F < v) (h' : v ≤ 0x7FF) (out : List Output) :
    [UInt8.ofNat (v / 64 % 32 + 192), UInt8.ofNat (v % 64 + 128)].foldl feed (none, out) =
      (none, some (Char.ofNat v) :: out) := by
  have hb : (UInt8.ofNat (v / 64 % 32 + 192)).toNat = v / 64 + 192 := by
    rw [toNat_ofNat_of_lt (by omega)]
    omega
  have hvalue : (v / 64 + 192 - 0xC0) * 64 + (v % 64 + 128 - 0x80) = v := by omega
  rw [List.foldl_cons, feed_start (Lead.ofByte_two (by omega) (by omega)), List.foldl_cons,
    feed_close (by rw [toNat_trailing]; omega) (by rw [toNat_trailing]; omega)]
  simp only [hb, toNat_trailing, hvalue, List.foldl_nil]

theorem foldl_feed_three {v : Nat} (h : 0x7FF < v) (h' : v ≤ 0xFFFF) (hvalid : v < 0xD800 ∨ 0xDFFF < v)
    (out : List Output) :
    [UInt8.ofNat (v / 4096 % 16 + 224), UInt8.ofNat (v / 64 % 64 + 128), UInt8.ofNat (v % 64 + 128)].foldl feed
      (none, out) = (none, some (Char.ofNat v) :: out) := by
  have hb : (UInt8.ofNat (v / 4096 % 16 + 224)).toNat = v / 4096 + 224 := by
    rw [toNat_ofNat_of_lt (by omega)]
    omega
  have hvalue : ((v / 4096 + 224 - 0xE0) * 64 + (v / 64 % 64 + 128 - 0x80)) * 64 + (v % 64 + 128 - 0x80) = v := by omega
  rw [List.foldl_cons, feed_start (Lead.ofByte_three (by omega) (by omega)), List.foldl_cons,
    feed_continue (by rw [hb, toNat_trailing]; split <;> omega) (by rw [hb, toNat_trailing]; split <;> omega),
    List.foldl_cons,
    feed_close (by rw [toNat_trailing]; omega) (by rw [toNat_trailing]; omega)]
  simp only [hb, toNat_trailing, hvalue, List.foldl_nil]

theorem foldl_feed_four {v : Nat} (h : 0xFFFF < v) (h' : v < 0x110000) (out : List Output) :
    [UInt8.ofNat (v / 262144 % 8 + 240), UInt8.ofNat (v / 4096 % 64 + 128), UInt8.ofNat (v / 64 % 64 + 128),
      UInt8.ofNat (v % 64 + 128)].foldl feed (none, out) = (none, some (Char.ofNat v) :: out) := by
  have hb : (UInt8.ofNat (v / 262144 % 8 + 240)).toNat = v / 262144 + 240 := by
    rw [toNat_ofNat_of_lt (by omega)]
    omega
  have hvalue : (((v / 262144 + 240 - 0xF0) * 64 + (v / 4096 % 64 + 128 - 0x80)) * 64 + (v / 64 % 64 + 128 - 0x80)) * 64 +
      (v % 64 + 128 - 0x80) = v := by omega
  rw [List.foldl_cons, feed_start (Lead.ofByte_four (by omega) (by omega)), List.foldl_cons,
    feed_continue (by rw [hb, toNat_trailing]; split <;> omega) (by rw [hb, toNat_trailing]; split <;> omega),
    List.foldl_cons,
    feed_continue (by rw [toNat_trailing]; omega) (by rw [toNat_trailing]; omega), List.foldl_cons,
    feed_close (by rw [toNat_trailing]; omega) (by rw [toNat_trailing]; omega)]
  simp only [hb, toNat_trailing, hvalue, List.foldl_nil]

/-- **The bytes of a character lead from boundary to boundary** and put out that character. -/
theorem foldl_feed_encodeChar (c : Char) (out : List Output) :
    (String.utf8EncodeChar c).foldl feed (none, out) = (none, some c :: out) := by
  have hvalid : c.val.toNat < 0xD800 ∨ 0xDFFF < c.val.toNat ∧ c.val.toNat < 0x110000 := c.valid
  have hchar : Char.ofNat c.val.toNat = c := Char.ofNat_toNat c
  unfold String.utf8EncodeChar
  dsimp only
  split
  · rw [foldl_feed_one (by assumption), hchar]
  · split
    · rw [foldl_feed_two (by omega) (by assumption), hchar]
    · split
      · rw [foldl_feed_three (by omega) (by assumption) (by omega), hchar]
      · rw [foldl_feed_four (by omega) (by omega), hchar]

/-! ## Texts -/

/-- The bytes of a text put out its characters, one after the other. -/
theorem foldl_feed_encodeChars (s : List Char) (out : List Output) :
    (encodeChars s).foldl feed (none, out) = (none, (s.map some).reverse ++ out) := by
  induction s generalizing out with
  | nil => rfl
  | cons c s ih =>
      have hcons : encodeChars (c :: s) = String.utf8EncodeChar c ++ encodeChars s := rfl
      rw [hcons, List.foldl_append, foldl_feed_encodeChar, ih]
      simp

theorem outputs_encodeChars (s : List Char) : outputs (encodeChars s) = s.map some := by
  rw [outputs_of_foldl (foldl_feed_encodeChars s [])]
  simp

/-- **The strict reader undoes the encoder.** -/
theorem decodeChars?_encodeChars (s : List Char) : decodeChars? (encodeChars s) = some s := by
  simp [decodeChars?, outputs_encodeChars]

theorem decode?_encode (s : String) : decode? (encode s) = some s := by
  simp [decode?, encode, decodeChars?_encodeChars]

/-- **The lossy reader undoes the encoder.** -/
theorem decodeLossy_encode (s : String) : decodeLossy (encode s) = s := by
  simp [decodeLossy, decodeLossyChars, encode, outputs_encodeChars, Function.comp_def]

/-! ## Single bytes -/

/-- **A byte below 128 is the whole of its character**: the bytes of longer forms have their high bit set. -/
theorem eq_of_mem_utf8EncodeChar {c : Char} {b : UInt8} (hb : b.toNat < 0x80) (h : b ∈ String.utf8EncodeChar c) :
    c = Char.ofNat b.toNat := by
  have hbyte {n : Nat} (hn : n < 0x100) (heq : b = UInt8.ofNat n) : b.toNat = n := by
    rw [heq, toNat_ofNat_of_lt hn]
  have hvalid : c.val.toNat < 0xD800 ∨ 0xDFFF < c.val.toNat ∧ c.val.toNat < 0x110000 := c.valid
  unfold String.utf8EncodeChar at h
  dsimp only at h
  split at h
  · rw [List.mem_singleton] at h
    have hcode : b.toNat = c.val.toNat := hbyte (by omega) h
    rw [hcode]
    exact (Char.ofNat_toNat c).symm
  · split at h
    · simp only [List.mem_cons, List.not_mem_nil, or_false] at h
      rcases h with h | h <;> exact absurd (hbyte (by omega) h) (by omega)
    · split at h <;> simp only [List.mem_cons, List.not_mem_nil, or_false] at h
      · rcases h with h | h | h <;> exact absurd (hbyte (by omega) h) (by omega)
      · rcases h with h | h | h | h <;> exact absurd (hbyte (by omega) h) (by omega)

/-- A text without such a character does not have its byte. -/
theorem not_mem_encodeChars {b : UInt8} (hb : b.toNat < 0x80) {s : List Char} (h : Char.ofNat b.toNat ∉ s) :
    b ∉ encodeChars s := by
  intro hmem
  obtain ⟨c, hc, hbyte⟩ := List.mem_flatMap.mp hmem
  exact h (eq_of_mem_utf8EncodeChar hb hbyte ▸ hc)

/-- A text without the null character has no zero byte. -/
theorem zero_not_mem_encodeChars {s : List Char} (h : '\x00' ∉ s) : 0 ∉ encodeChars s :=
  not_mem_encodeChars (by decide) h

/-! ## Sizes -/

theorem size_cons (c : Char) (s : List Char) : size (c :: s) = c.utf8Size + size s := by
  have hstart (n : Nat) : s.foldl (fun n c => n + c.utf8Size) n = n + size s := by
    unfold size
    induction s generalizing n with
    | nil => rfl
    | cons c s ih =>
        rw [List.foldl_cons, List.foldl_cons, ih, ih (0 + c.utf8Size)]
        omega
  rw [size, List.foldl_cons, hstart, Nat.zero_add]

theorem size_append (s t : List Char) : size (s ++ t) = size s + size t := by
  induction s with
  | nil => simp [size]
  | cons c s ih => rw [List.cons_append, size_cons, size_cons, ih, Nat.add_assoc]

theorem size_reverse (s : List Char) : size s.reverse = size s := by
  induction s with
  | nil => rfl
  | cons c s ih =>
      have hone : size [c] = c.utf8Size := by simp [size]
      rw [List.reverse_cons, size_append, ih, hone, size_cons, Nat.add_comm]

/-- A part of a text takes no more bytes than the text. -/
theorem size_le_of_sublist {s t : List Char} (h : s.Sublist t) : size s ≤ size t := by
  induction h with
  | slnil => exact Nat.le_refl _
  | cons c _ ih =>
      rw [size_cons]
      omega
  | cons_cons c _ ih =>
      rw [size_cons, size_cons]
      omega

/-- A character takes four bytes at most. -/
theorem size_le_length (s : List Char) : size s ≤ 4 * s.length := by
  induction s with
  | nil => exact Nat.le_refl _
  | cons c s ih =>
      have hc := c.utf8Size_le_four
      rw [size_cons, List.length_cons]
      omega

/-- A byte completes one character at most, and ends one malformed part at most. -/
theorem length_foldl_feed (bytes : List UInt8) (state : Decoder × List Output) :
    (bytes.foldl feed state).2.length ≤ state.2.length + 2 * bytes.length := by
  have hstart (b : UInt8) : (Decoder.start b).2.length ≤ 1 := by
    unfold Decoder.start
    split <;> simp
  have hfeed (state : Decoder × List Output) (b : UInt8) : (feed state b).2.length ≤ state.2.length + 2 := by
    obtain ⟨d, out⟩ := state
    have hb := hstart b
    cases d with
    | none =>
        simp only [feed, Decoder.step, List.length_append]
        omega
    | some p =>
        simp only [feed, Decoder.step]
        split
        · split <;> simp
        · simp only [List.length_append, List.length_singleton]
          omega
  induction bytes generalizing state with
  | nil => simp
  | cons b bytes ih =>
      have h := ih (feed state b)
      have hb := hfeed state b
      rw [List.foldl_cons, List.length_cons]
      omega

/-- Text that is read from bytes takes not many more bytes. -/
theorem size_decodeLossyChars_le (bytes : List UInt8) : size (decodeLossyChars bytes) ≤ 8 * bytes.length + 4 := by
  have houtputs : (outputs bytes).length ≤ 2 * bytes.length + 1 := by
    have hlength := length_foldl_feed bytes (none, [])
    rcases hfold : bytes.foldl feed (none, []) with ⟨d, out⟩
    rw [hfold] at hlength
    simp only [List.length_nil, Nat.zero_add] at hlength
    unfold outputs
    erw [hfold]
    cases d with
    | none =>
        simp only [List.length_reverse]
        omega
    | some p =>
        simp only [List.length_reverse, List.length_cons]
        omega
  have hsize := size_le_length (decodeLossyChars bytes)
  rw [decodeLossyChars, List.length_map] at hsize
  rw [decodeLossyChars]
  omega

end FipsAudit.Text.Utf8
