import Reimport.Text.Utf8

/-!
# UTF-8 is read back

Reading what was written gives the text (`decode_encode`), and what can be read was
written that way (`encode_of_decode`): a content is UTF-8 iff it is the UTF-8 form
of a text, and of one text only (`decode_eq_ok_iff`).  Both directions go
character by character over the four lengths of a character's form.
-/
namespace Reimport.Utf8

/-- The number of a character is no surrogate and at most U+10FFFF. -/
theorem toNat_valid (c : Char) : c.toNat < 0xd800 ∨ 0xdfff < c.toNat ∧ c.toNat < 0x110000 :=
  c.valid

theorem toNat_ofNat_of_valid {n : Nat} (h : n < 0xd800 ∨ 0xdfff < n ∧ n < 0x110000) :
    (Char.ofNat n).toNat = n := by
  rw [Char.ofNat, dif_pos h]
  rfl

/-! ## The form of one character, by its length -/

theorem encodeChar_one {c : Char} (h : c.toNat < 0x80) :
    encodeChar c = [UInt8.ofNat c.toNat] := by
  simp [encodeChar, h]

theorem encodeChar_two {c : Char} (low : 0x80 ≤ c.toNat) (high : c.toNat < 0x800) :
    encodeChar c =
      [UInt8.ofNat (0xc0 + c.toNat / 64), UInt8.ofNat (0x80 + c.toNat % 64)] := by
  simp [encodeChar, Nat.not_lt.mpr low, high]

theorem encodeChar_three {c : Char} (low : 0x800 ≤ c.toNat) (high : c.toNat < 0x10000) :
    encodeChar c =
      [UInt8.ofNat (0xe0 + c.toNat / 4096), UInt8.ofNat (0x80 + c.toNat / 64 % 64),
        UInt8.ofNat (0x80 + c.toNat % 64)] := by
  simp [encodeChar, Nat.not_lt.mpr low, high, show ¬ c.toNat < 0x80 by omega]

theorem encodeChar_four {c : Char} (low : 0x10000 ≤ c.toNat) :
    encodeChar c =
      [UInt8.ofNat (0xf0 + c.toNat / 262144), UInt8.ofNat (0x80 + c.toNat / 4096 % 64),
        UInt8.ofNat (0x80 + c.toNat / 64 % 64), UInt8.ofNat (0x80 + c.toNat % 64)] := by
  simp [encodeChar, Nat.not_lt.mpr low, show ¬ c.toNat < 0x80 by omega,
    show ¬ c.toNat < 0x800 by omega]

/-! ## Reading one character -/

section Reading
variable {position : Nat} {b c d e : UInt8} {rest : Bytes}

theorem decodeFrom_one (hb : b < 0x80) :
    decodeFrom position (b :: rest) =
      (decodeFrom (position + 1) rest).map (Char.ofNat b.toNat :: ·) := by
  rw [decodeFrom.eq_def]
  simp only [hb, if_true]

theorem decodeFrom_two (low : ¬ b < 0xc2) (high : b < 0xe0) (hc : isContinuation c = true) :
    decodeFrom position (b :: c :: rest) =
      (decodeFrom (position + 2) rest).map
        (Char.ofNat ((b.toNat - 0xc0) * 64 + payload c) :: ·) := by
  have h1 : ¬ b < 0x80 := fun h => low (UInt8.lt_trans h (by decide))
  rw [decodeFrom.eq_def]
  simp only [h1, low, high, hc, if_true, if_false]

theorem decodeFrom_three (low : ¬ b < 0xe0) (high : b < 0xf0) (hc : isSecondOfThree b c = true)
    (hd : isContinuation d = true) :
    decodeFrom position (b :: c :: d :: rest) =
      (decodeFrom (position + 3) rest).map
        (Char.ofNat ((b.toNat - 0xe0) * 4096 + payload c * 64 + payload d) :: ·) := by
  have h1 : ¬ b < 0x80 := fun h => low (UInt8.lt_trans h (by decide))
  have h2 : ¬ b < 0xc2 := fun h => low (UInt8.lt_trans h (by decide))
  rw [decodeFrom.eq_def]
  simp only [h1, h2, low, high, hc, hd, if_true, if_false]

theorem decodeFrom_four (low : ¬ b < 0xf0) (high : b < 0xf5) (hc : isSecondOfFour b c = true)
    (hd : isContinuation d = true) (he : isContinuation e = true) :
    decodeFrom position (b :: c :: d :: e :: rest) =
      (decodeFrom (position + 4) rest).map
        (Char.ofNat ((b.toNat - 0xf0) * 262144 + payload c * 4096 + payload d * 64 + payload e) ::
          ·) := by
  have h1 : ¬ b < 0x80 := fun h => low (UInt8.lt_trans h (by decide))
  have h2 : ¬ b < 0xc2 := fun h => low (UInt8.lt_trans h (by decide))
  have h3 : ¬ b < 0xe0 := fun h => low (UInt8.lt_trans h (by decide))
  rw [decodeFrom.eq_def]
  simp only [h1, h2, h3, low, high, hc, hd, he, if_true, if_false]

end Reading

/-! ## The classes of bytes, by their numbers -/

theorem isContinuation_iff {b : UInt8} :
    isContinuation b = true ↔ 0x80 ≤ b.toNat ∧ b.toNat ≤ 0xbf := by
  simp only [isContinuation, Bool.and_eq_true, decide_eq_true_eq, UInt8.le_iff_toNat_le,
    UInt8.reduceToNat]

theorem isSecondOfThree_iff {b c : UInt8} :
    isSecondOfThree b c = true ↔ isContinuation c = true ∧
      (b.toNat = 0xe0 → 0xa0 ≤ c.toNat) ∧ (b.toNat = 0xed → c.toNat ≤ 0x9f) := by
  simp only [isSecondOfThree, Bool.and_eq_true, Bool.or_eq_true, decide_eq_true_eq,
    UInt8.le_iff_toNat_le, ← UInt8.toNat_inj, ne_eq, UInt8.reduceToNat, and_assoc,
    Decidable.imp_iff_not_or]

theorem isSecondOfFour_iff {b c : UInt8} :
    isSecondOfFour b c = true ↔ isContinuation c = true ∧
      (b.toNat = 0xf0 → 0x90 ≤ c.toNat) ∧ (b.toNat = 0xf4 → c.toNat ≤ 0x8f) := by
  simp only [isSecondOfFour, Bool.and_eq_true, Bool.or_eq_true, decide_eq_true_eq,
    UInt8.le_iff_toNat_le, ← UInt8.toNat_inj, ne_eq, UInt8.reduceToNat, and_assoc,
    Decidable.imp_iff_not_or]

theorem toNat_ofNat_of_lt {n : Nat} (h : n < 256) : (UInt8.ofNat n).toNat = n := by
  rw [UInt8.toNat_ofNat', Nat.mod_eq_of_lt h]

/-- The bytes after the first one of a character's form continue it, with the low bits
as their payload. -/
theorem continuation_ofNat {n : Nat} (h : n < 64) :
    isContinuation (UInt8.ofNat (0x80 + n)) = true ∧ payload (UInt8.ofNat (0x80 + n)) = n := by
  have hb : (UInt8.ofNat (0x80 + n)).toNat = 0x80 + n := toNat_ofNat_of_lt (by omega)
  refine ⟨?_, ?_⟩
  · rw [isContinuation_iff, hb]
    omega
  · show (UInt8.ofNat (0x80 + n)).toNat - 0x80 = n
    omega

section Forms
variable {c : Char} (position : Nat) (rest : Bytes)

/-! In each form the bytes after the first one carry the lower digits of the character's number
to the base 64, and the first byte carries what is left of it. -/

theorem decodeFrom_encodeChar_one (one : c.toNat < 0x80) :
    decodeFrom position (encodeChar c ++ rest) =
      (decodeFrom (position + 1) rest).map (c :: ·) := by
  have hb : (UInt8.ofNat c.toNat).toNat = c.toNat := toNat_ofNat_of_lt (by omega)
  rw [encodeChar_one one, List.singleton_append, decodeFrom_one, hb, Char.ofNat_toNat]
  rw [UInt8.lt_iff_toNat_lt, hb]
  exact one

theorem decodeFrom_encodeChar_two (low : 0x80 ≤ c.toNat) (two : c.toNat < 0x800) :
    decodeFrom position (encodeChar c ++ rest) =
      (decodeFrom (position + 2) rest).map (c :: ·) := by
  have h0 := continuation_ofNat (n := c.toNat % 64) (by omega)
  have hb : (UInt8.ofNat (0xc0 + c.toNat / 64)).toNat = 0xc0 + c.toNat / 64 :=
    toNat_ofNat_of_lt (by omega)
  have hn : (0xc0 + c.toNat / 64 - 0xc0) * 64 + c.toNat % 64 = c.toNat := by omega
  rw [encodeChar_two low two, List.cons_append, List.singleton_append, decodeFrom_two,
    hb, h0.2, hn, Char.ofNat_toNat]
  · simp only [UInt8.lt_iff_toNat_lt, hb, UInt8.reduceToNat]
    omega
  · simp only [UInt8.lt_iff_toNat_lt, hb, UInt8.reduceToNat]
    omega
  · exact h0.1

theorem decodeFrom_encodeChar_three (low : 0x800 ≤ c.toNat) (three : c.toNat < 0x10000) :
    decodeFrom position (encodeChar c ++ rest) =
      (decodeFrom (position + 3) rest).map (c :: ·) := by
  have valid := toNat_valid c
  have h0 := continuation_ofNat (n := c.toNat % 64) (by omega)
  have h1 := continuation_ofNat (n := c.toNat / 64 % 64) (by omega)
  have hb : (UInt8.ofNat (0xe0 + c.toNat / 4096)).toNat = 0xe0 + c.toNat / 4096 :=
    toNat_ofNat_of_lt (by omega)
  have hc : (UInt8.ofNat (0x80 + c.toNat / 64 % 64)).toNat = 0x80 + c.toNat / 64 % 64 :=
    toNat_ofNat_of_lt (by omega)
  have hn : (0xe0 + c.toNat / 4096 - 0xe0) * 4096 + c.toNat / 64 % 64 * 64 + c.toNat % 64 =
      c.toNat := by omega
  rw [encodeChar_three low three, List.cons_append, List.cons_append,
    List.singleton_append, decodeFrom_three, hb, h1.2, h0.2, hn, Char.ofNat_toNat]
  · simp only [UInt8.lt_iff_toNat_lt, hb, UInt8.reduceToNat]
    omega
  · simp only [UInt8.lt_iff_toNat_lt, hb, UInt8.reduceToNat]
    omega
  · -- no character has the number of a surrogate
    rw [isSecondOfThree_iff, hb, hc]
    exact ⟨h1.1, by omega, by omega⟩
  · exact h0.1

theorem decodeFrom_encodeChar_four (low : 0x10000 ≤ c.toNat) :
    decodeFrom position (encodeChar c ++ rest) =
      (decodeFrom (position + 4) rest).map (c :: ·) := by
  have valid := toNat_valid c
  have h0 := continuation_ofNat (n := c.toNat % 64) (by omega)
  have h1 := continuation_ofNat (n := c.toNat / 64 % 64) (by omega)
  have h2 := continuation_ofNat (n := c.toNat / 4096 % 64) (by omega)
  have hb : (UInt8.ofNat (0xf0 + c.toNat / 262144)).toNat = 0xf0 + c.toNat / 262144 :=
    toNat_ofNat_of_lt (by omega)
  have hc : (UInt8.ofNat (0x80 + c.toNat / 4096 % 64)).toNat = 0x80 + c.toNat / 4096 % 64 :=
    toNat_ofNat_of_lt (by omega)
  have hn : (0xf0 + c.toNat / 262144 - 0xf0) * 262144 + c.toNat / 4096 % 64 * 4096 +
      c.toNat / 64 % 64 * 64 + c.toNat % 64 = c.toNat := by omega
  rw [encodeChar_four low, List.cons_append, List.cons_append, List.cons_append,
    List.singleton_append, decodeFrom_four, hb, h2.2, h1.2, h0.2, hn, Char.ofNat_toNat]
  · simp only [UInt8.lt_iff_toNat_lt, hb, UInt8.reduceToNat]
    omega
  · simp only [UInt8.lt_iff_toNat_lt, hb, UInt8.reduceToNat]
    omega
  · rw [isSecondOfFour_iff, hb, hc]
    exact ⟨h2.1, by omega, by omega⟩
  · exact h1.1
  · exact h0.1

end Forms

/-- Reading goes on after the form of a character. -/
theorem decodeFrom_encodeChar (c : Char) (position : Nat) (rest : Bytes) :
    ∃ next, decodeFrom position (encodeChar c ++ rest) =
      (decodeFrom next rest).map (c :: ·) := by
  rcases Nat.lt_or_ge c.toNat 0x80 with one | low
  · exact ⟨_, decodeFrom_encodeChar_one position rest one⟩
  rcases Nat.lt_or_ge c.toNat 0x800 with two | low'
  · exact ⟨_, decodeFrom_encodeChar_two position rest low two⟩
  rcases Nat.lt_or_ge c.toNat 0x10000 with three | low''
  · exact ⟨_, decodeFrom_encodeChar_three position rest low' three⟩
  · exact ⟨_, decodeFrom_encodeChar_four position rest low''⟩

theorem decodeFrom_encode (text : Text) (position : Nat) :
    decodeFrom position (encode text) = .ok text := by
  induction text generalizing position with
  | nil => rfl
  | cons c rest ih =>
    obtain ⟨next, hn⟩ := decodeFrom_encodeChar c position (encode rest)
    rw [encode_cons, hn, ih]
    rfl

/-- **What is written is read back.** -/
theorem decode_encode (text : Text) : decode (encode text) = .ok text :=
  decodeFrom_encode text 0

/-! ## What is read was written -/

theorem ofNat_eq_of_toNat {n : Nat} {b : UInt8} (h : n = b.toNat) : UInt8.ofNat n = b := by
  rw [h, UInt8.ofNat_toNat]

section Writing
variable {b c d e : UInt8} {value : Nat}

theorem encodeChar_ofNat_one (hb : b < 0x80) : encodeChar (Char.ofNat b.toNat) = [b] := by
  simp only [UInt8.lt_iff_toNat_lt, UInt8.reduceToNat] at hb
  have hn : (Char.ofNat b.toNat).toNat = b.toNat := toNat_ofNat_of_valid (by omega)
  rw [encodeChar_one (by omega), hn, UInt8.ofNat_toNat]

theorem encodeChar_ofNat_two (low : ¬ b < 0xc2) (high : b < 0xe0) (hc : isContinuation c = true)
    (hv : value = (b.toNat - 0xc0) * 64 + payload c) :
    encodeChar (Char.ofNat value) = [b, c] := by
  simp only [UInt8.lt_iff_toNat_lt, UInt8.reduceToNat] at low high
  rw [isContinuation_iff] at hc
  unfold payload at hv
  have hn : (Char.ofNat value).toNat = value := toNat_ofNat_of_valid (by omega)
  rw [encodeChar_two (by omega) (by omega), hn, ofNat_eq_of_toNat (b := b) (by omega),
    ofNat_eq_of_toNat (b := c) (by omega)]

theorem encodeChar_ofNat_three (low : ¬ b < 0xe0) (high : b < 0xf0)
    (hc : isSecondOfThree b c = true) (hd : isContinuation d = true)
    (hv : value = (b.toNat - 0xe0) * 4096 + payload c * 64 + payload d) :
    encodeChar (Char.ofNat value) = [b, c, d] := by
  simp only [UInt8.lt_iff_toNat_lt, UInt8.reduceToNat] at low high
  rw [isSecondOfThree_iff, isContinuation_iff] at hc
  rw [isContinuation_iff] at hd
  obtain ⟨hc, above, below⟩ := hc
  unfold payload at hv
  have hn : (Char.ofNat value).toNat = value := toNat_ofNat_of_valid (by omega)
  rw [encodeChar_three (by omega) (by omega), hn, ofNat_eq_of_toNat (b := b) (by omega),
    ofNat_eq_of_toNat (b := c) (by omega), ofNat_eq_of_toNat (b := d) (by omega)]

theorem encodeChar_ofNat_four (low : ¬ b < 0xf0) (high : b < 0xf5)
    (hc : isSecondOfFour b c = true) (hd : isContinuation d = true)
    (he : isContinuation e = true)
    (hv : value =
      (b.toNat - 0xf0) * 262144 + payload c * 4096 + payload d * 64 + payload e) :
    encodeChar (Char.ofNat value) = [b, c, d, e] := by
  simp only [UInt8.lt_iff_toNat_lt, UInt8.reduceToNat] at low high
  rw [isSecondOfFour_iff, isContinuation_iff] at hc
  rw [isContinuation_iff] at hd he
  obtain ⟨hc, above, below⟩ := hc
  unfold payload at hv
  have hn : (Char.ofNat value).toNat = value := toNat_ofNat_of_valid (by omega)
  rw [encodeChar_four (by omega), hn, ofNat_eq_of_toNat (b := b) (by omega),
    ofNat_eq_of_toNat (b := c) (by omega), ofNat_eq_of_toNat (b := d) (by omega),
    ofNat_eq_of_toNat (b := e) (by omega)]

end Writing

theorem map_eq_ok {ε α β : Type} {f : α → β} {x : Except ε α} {b : β} (h : x.map f = .ok b) :
    ∃ a, x = .ok a ∧ f a = b := by
  cases x with
  | error e => exact nomatch h
  | ok a => exact ⟨a, rfl, Except.ok.inj h⟩

/-- Every reading that succeeds consumed the form of what it gives. -/
theorem encode_of_decodeFrom {position : Nat} {content : Bytes} {text : Text}
    (h : decodeFrom position content = .ok text) : encode text = content := by
  fun_induction decodeFrom position content generalizing text with
  | case1 =>
    rw [← Except.ok.inj h, encode_nil]
  | case2 position b rest hb ih =>
    obtain ⟨tail, ht, rfl⟩ := map_eq_ok h
    rw [encode_cons, encodeChar_ofNat_one hb, ih ht, List.singleton_append]
  | case5 position b h1 low high c rest hc ih =>
    obtain ⟨tail, ht, rfl⟩ := map_eq_ok h
    rw [encode_cons, encodeChar_ofNat_two low high hc rfl, ih ht]
    rfl
  | case10 position b h1 h2 low high c d rest hc hd ih =>
    obtain ⟨tail, ht, rfl⟩ := map_eq_ok h
    rw [encode_cons, encodeChar_ofNat_three low high hc hd rfl, ih ht]
    rfl
  | case19 position b h1 h2 h3 low high c d e rest hc hd he ih =>
    obtain ⟨tail, ht, rfl⟩ := map_eq_ok h
    rw [encode_cons, encodeChar_ofNat_four low high hc hd he rfl, ih ht]
    rfl
  | _ => exact nomatch h

/-- **What is read was written.**  A content is UTF-8 iff it is the form of the text that
is read from it. -/
theorem decode_eq_ok_iff {content : Bytes} {text : Text} :
    decode content = .ok text ↔ content = encode text := by
  refine ⟨fun h => (encode_of_decodeFrom h).symm, fun h => ?_⟩
  rw [h, decode_encode]

theorem encode_injective {first second : Text} (h : encode first = encode second) :
    first = second := by
  have read := decode_encode first
  rw [h, decode_encode] at read
  exact (Except.ok.inj read).symm

end Reimport.Utf8
