import JavaSurvey.Text.Utf8
import Mathlib.Data.List.Lex
import Mathlib.Data.String.Basic

/-!
# Texts as bytes

Every text is read back from its bytes: a character becomes one to four of them,
the first tells how many, and the decoder accepts every such row. It refuses long
forms of small characters and surrogates, which no character becomes. The bytes
of texts are in the order of the texts.

## Main results

* `decodeFrom_char`: a character is read back from its bytes.
* `decode_encode`: a text is read back from its bytes.
* `encode_lt_encode`: smaller texts have smaller bytes.
-/

namespace JavaSurvey.Text.Utf8

/-! ## Bytes as numbers -/

theorem toNat_ofNat {n : Nat} (hn : n < 256) : (UInt8.ofNat n).toNat = n := by
  rw [UInt8.toNat_ofNat', Nat.mod_eq_of_lt hn]

theorem width_eq (byte : UInt8) :
    width byte =
      if byte.toNat < 0x80 then 1
      else if byte.toNat < 0xC2 then 0
      else if byte.toNat < 0xE0 then 2
      else if byte.toNat < 0xF0 then 3
      else if byte.toNat < 0xF5 then 4
      else 0 := by
  simp only [width, UInt8.lt_iff_toNat_lt]
  rfl

theorem continues_iff (byte : UInt8) :
    continues byte = true ↔ 0x80 ≤ byte.toNat ∧ byte.toNat ≤ 0xBF := by
  simp [continues, UInt8.le_iff_toNat_le]

theorem continuesAfter_iff (first byte : UInt8) :
    continuesAfter first byte = true ↔
      0x80 ≤ byte.toNat ∧ byte.toNat ≤ 0xBF ∧
      (first.toNat = 0xE0 → 0xA0 ≤ byte.toNat) ∧
      (first.toNat = 0xED → byte.toNat ≤ 0x9F) ∧
      (first.toNat = 0xF0 → 0x90 ≤ byte.toNat) ∧
      (first.toNat = 0xF4 → byte.toNat ≤ 0x8F) := by
  simp only [continuesAfter, beq_iff_eq, ← UInt8.toNat_inj]
  simp only [UInt8.reduceToNat]
  split
  · simp [UInt8.le_iff_toNat_le]
    omega
  split
  · simp [UInt8.le_iff_toNat_le]
    omega
  split
  · simp [UInt8.le_iff_toNat_le]
    omega
  split
  · simp [UInt8.le_iff_toNat_le]
    omega
  · rw [continues_iff]
    omega

/-! A byte behind the first has six bits of the character. -/

section Following

variable (n : Nat)

theorem toNat_following : (UInt8.ofNat (n % 64 + 0x80)).toNat = n % 64 + 0x80 :=
  toNat_ofNat (by omega)

theorem continues_following : continues (UInt8.ofNat (n % 64 + 0x80)) = true := by
  rw [continues_iff, toNat_following]
  omega

theorem bits_following : bits (UInt8.ofNat (n % 64 + 0x80)) = n % 64 := by
  rw [bits, toNat_following]
  omega

end Following

/-! ## One character -/

section Rows

variable {a b c d : UInt8} (index : Nat) (done : List Char) (rest : List UInt8)

theorem decodeFrom_one (ha : a.toNat < 0x80) :
    decodeFrom index done (a :: rest) =
      decodeFrom (index + 1) (Char.ofNat a.toNat :: done) rest := by
  have hwidth : width a = 1 := by rw [width_eq, if_pos ha]
  simp only [decodeFrom, hwidth]

theorem decodeFrom_two (hwidth : width a = 2) (hb : continues b = true) :
    decodeFrom index done (a :: b :: rest) =
      decodeFrom (index + 2) (Char.ofNat (a.toNat % 32 * 64 + bits b) :: done) rest := by
  simp only [decodeFrom, hwidth, hb, if_true]

theorem decodeFrom_three (hwidth : width a = 3) (hb : continuesAfter a b = true)
    (hc : continues c = true) :
    decodeFrom index done (a :: b :: c :: rest) =
      decodeFrom (index + 3)
        (Char.ofNat ((a.toNat % 16 * 64 + bits b) * 64 + bits c) :: done) rest := by
  simp only [decodeFrom, hwidth, hb, hc, if_true]

theorem decodeFrom_four (hwidth : width a = 4) (hb : continuesAfter a b = true)
    (hc : continues c = true) (hd : continues d = true) :
    decodeFrom index done (a :: b :: c :: d :: rest) =
      decodeFrom (index + 4)
        (Char.ofNat (((a.toNat % 8 * 64 + bits b) * 64 + bits c) * 64 + bits d) :: done)
        rest := by
  simp only [decodeFrom, hwidth, hb, hc, hd, if_true]

end Rows

/-- A character is read back from its bytes, whatever follows them. -/
theorem decodeFrom_char (c : Char) (index : Nat) (done : List Char) (rest : List UInt8) :
    ∃ next, decodeFrom index done (String.utf8EncodeChar c ++ rest) =
      decodeFrom next (c :: done) rest := by
  have hchar : ∀ n, n = c.val.toNat → Char.ofNat n = c := by
    intro n hn
    rw [hn]
    exact Char.ofNat_toNat c
  -- No surrogates: the second byte behind 0xED stays below 0xA0.
  have hvalid : c.val.toNat < 0xD800 ∨ 0xDFFF < c.val.toNat ∧ c.val.toNat < 0x110000 :=
    c.valid
  simp only [String.utf8EncodeChar]
  generalize c.val.toNat = n at *
  split
  · have ha : (UInt8.ofNat n).toNat = n := toNat_ofNat (by omega)
    refine ⟨index + 1, ?_⟩
    rw [List.singleton_append, decodeFrom_one _ _ _ (by omega), ha, hchar _ rfl]
  split
  · have ha : (UInt8.ofNat (n / 64 % 32 + 0xc0)).toNat = n / 64 % 32 + 0xc0 :=
      toNat_ofNat (by omega)
    have hwidth : width (UInt8.ofNat (n / 64 % 32 + 0xc0)) = 2 := by
      rw [width_eq, ha, if_neg (by omega), if_neg (by omega), if_pos (by omega)]
    refine ⟨index + 2, ?_⟩
    rw [List.cons_append, List.singleton_append,
      decodeFrom_two _ _ _ hwidth (continues_following n), ha, bits_following,
      hchar _ (by omega)]
  split
  · have ha : (UInt8.ofNat (n / 4096 % 16 + 0xe0)).toNat = n / 4096 % 16 + 0xe0 :=
      toNat_ofNat (by omega)
    have hwidth : width (UInt8.ofNat (n / 4096 % 16 + 0xe0)) = 3 := by
      rw [width_eq, ha, if_neg (by omega), if_neg (by omega), if_neg (by omega),
        if_pos (by omega)]
    have hafter : continuesAfter (UInt8.ofNat (n / 4096 % 16 + 0xe0))
        (UInt8.ofNat (n / 64 % 64 + 0x80)) = true := by
      rw [continuesAfter_iff, ha, toNat_following]
      omega
    refine ⟨index + 3, ?_⟩
    rw [List.cons_append, List.cons_append, List.singleton_append,
      decodeFrom_three _ _ _ hwidth hafter (continues_following n), ha, bits_following,
      bits_following, hchar _ (by omega)]
  · have ha : (UInt8.ofNat (n / 262144 % 8 + 0xf0)).toNat = n / 262144 % 8 + 0xf0 :=
      toNat_ofNat (by omega)
    have hwidth : width (UInt8.ofNat (n / 262144 % 8 + 0xf0)) = 4 := by
      rw [width_eq, ha, if_neg (by omega), if_neg (by omega), if_neg (by omega),
        if_neg (by omega), if_pos (by omega)]
    have hafter : continuesAfter (UInt8.ofNat (n / 262144 % 8 + 0xf0))
        (UInt8.ofNat (n / 4096 % 64 + 0x80)) = true := by
      rw [continuesAfter_iff, ha, toNat_following]
      omega
    refine ⟨index + 4, ?_⟩
    rw [List.cons_append, List.cons_append, List.cons_append, List.singleton_append,
      decodeFrom_four _ _ _ hwidth hafter (continues_following _) (continues_following n),
      ha, bits_following, bits_following, bits_following, hchar _ (by omega)]

/-- A text is read back from its bytes. -/
theorem decode_encode (text : String) : decode (encode text) = .ok text := by
  have hdecode : ∀ (chars : List Char) (index : Nat) (done : List Char),
      decodeFrom index done (chars.flatMap String.utf8EncodeChar) =
        .ok (String.ofList (done.reverse ++ chars)) := by
    intro chars
    induction chars with
    | nil =>
        intro index done
        rw [List.append_nil]
        rfl
    | cons c chars ih =>
        intro index done
        obtain ⟨next, hnext⟩ := decodeFrom_char c index done (chars.flatMap String.utf8EncodeChar)
        rw [List.flatMap_cons, hnext, ih, List.reverse_cons, List.append_assoc]
        rfl
  rw [decode, encode, hdecode, List.reverse_nil, List.nil_append, String.ofList_toList]

/-! ## Order -/

/-- The first of two bytes that differ decides the order of rows. -/
theorem ofNat_cons_lt {a b : Nat} {first second : List UInt8} (hb : b < 256) (hle : a ≤ b)
    (h : a = b → first < second) : UInt8.ofNat a :: first < UInt8.ofNat b :: second := by
  rw [List.cons_lt_cons_iff, UInt8.lt_iff_toNat_lt, toNat_ofNat (by omega), toNat_ofNat hb]
  rcases Nat.lt_or_eq_of_le hle with hlt | rfl
  · exact .inl hlt
  · exact .inr ⟨rfl, h rfl⟩

/-- The bytes of a smaller character are smaller, whatever follows the two. -/
theorem utf8EncodeChar_append_lt {c d : Char} (h : c < d) (first second : List UInt8) :
    String.utf8EncodeChar c ++ first < String.utf8EncodeChar d ++ second := by
  have hlt : c.val.toNat < d.val.toNat := h
  have hbound : d.val.toNat < 0x110000 := by
    rcases d.valid with hsmall | hlarge
    · exact Nat.lt_trans hsmall (by decide)
    · exact hlarge.2
  simp only [String.utf8EncodeChar]
  generalize c.val.toNat = n at *
  generalize d.val.toNat = m at *
  -- A character with more bytes has the larger first byte; with as many bytes, the
  -- first digit to the base 64 that differs decides.
  split
  · split
    · exact ofNat_cons_lt (by omega) (by omega) fun _ => by omega
    split
    · exact ofNat_cons_lt (by omega) (by omega) fun _ => by omega
    split
    · exact ofNat_cons_lt (by omega) (by omega) fun _ => by omega
    · exact ofNat_cons_lt (by omega) (by omega) fun _ => by omega
  rw [if_neg (c := m ≤ 127) (by omega)]
  split
  · split
    · refine ofNat_cons_lt (by omega) (by omega) fun _ => ?_
      exact ofNat_cons_lt (by omega) (by omega) fun _ => by omega
    split
    · exact ofNat_cons_lt (by omega) (by omega) fun _ => by omega
    · exact ofNat_cons_lt (by omega) (by omega) fun _ => by omega
  rw [if_neg (c := m ≤ 2047) (by omega)]
  split
  · split
    · refine ofNat_cons_lt (by omega) (by omega) fun _ => ?_
      refine ofNat_cons_lt (by omega) (by omega) fun _ => ?_
      exact ofNat_cons_lt (by omega) (by omega) fun _ => by omega
    · exact ofNat_cons_lt (by omega) (by omega) fun _ => by omega
  · rw [if_neg (by omega)]
    refine ofNat_cons_lt (by omega) (by omega) fun _ => ?_
    refine ofNat_cons_lt (by omega) (by omega) fun _ => ?_
    refine ofNat_cons_lt (by omega) (by omega) fun _ => ?_
    exact ofNat_cons_lt (by omega) (by omega) fun _ => by omega

/-- The bytes of a smaller text are smaller. -/
theorem encode_lt_encode {first second : String} (h : first < second) :
    encode first < encode second := by
  have hchars : ∀ chars others : List Char, chars < others →
      chars.flatMap String.utf8EncodeChar < others.flatMap String.utf8EncodeChar := by
    intro chars
    induction chars with
    | nil =>
        intro others hlt
        cases others with
        | nil => exact absurd hlt (List.not_lt_nil [])
        | cons d others =>
            rw [List.flatMap_cons]
            obtain ⟨byte, rest, heq⟩ := List.exists_cons_of_ne_nil
              (List.append_ne_nil_of_left_ne_nil (String.utf8EncodeChar_ne_nil (c := d))
                (others.flatMap String.utf8EncodeChar))
            rw [heq]
            exact List.nil_lt_cons byte rest
    | cons c chars ih =>
        intro others hlt
        cases others with
        | nil => exact absurd hlt (List.not_lt_nil _)
        | cons d others =>
            rw [List.flatMap_cons, List.flatMap_cons]
            rcases List.cons_lt_cons_iff.1 hlt with hchar | ⟨rfl, hrest⟩
            · exact utf8EncodeChar_append_lt hchar _ _
            · exact List.append_left_lt (ih others hrest)
  exact hchars first.toList second.toList (String.lt_iff_toList_lt.1 h)

end JavaSurvey.Text.Utf8
