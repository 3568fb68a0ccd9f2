import CommandShell.Input

/-!
# Reading back the bytes of a text

The bytes of a character lie in ranges of their own (`Text.Encodes`), and in these they are
read as the character, whatever comes behind. So the bytes of a text are read as the text
(`Text.ofUtf8Lossy_toUtf8`).

Bytes that begin a character and do not finish it are read as one replacement character. So
wherever the bytes of a text are cut, what stands in front of the cut is read as the
characters that are complete there, with at most one replacement character behind them
(`Text.ofUtf8Lossy_take_toUtf8`).
-/

namespace CommandShell

namespace Text

/-- The bytes are read as the character, and only all of them are. -/
inductive Encodes : List UInt8 → Char → Prop
  | one {b : UInt8} (hb : b < 0x80) : Encodes [b] (Char.ofNat b.toNat)
  | two {b c : UInt8} (hleast : 0xC2 ≤ b) (hgreatest : b ≤ 0xDF)
      (hc : isContinuation c = true) : Encodes [b, c] (decodeTwo b c)
  | three {b c d : UInt8} (hleast : 0xE0 ≤ b) (hgreatest : b ≤ 0xEF)
      (hc : isSecondOfThree b c = true) (hd : isContinuation d = true) :
      Encodes [b, c, d] (decodeThree b c d)
  | four {b c d e : UInt8} (hleast : 0xF0 ≤ b) (hgreatest : b ≤ 0xF4)
      (hc : isSecondOfFour b c = true) (hd : isContinuation d = true)
      (he : isContinuation e = true) : Encodes [b, c, d, e] (decodeFour b c d e)

section

variable {b : UInt8}

/-- The leading bytes of one length are above those of shorter characters. -/
theorem above_of_two (h : 0xC2 ≤ b) : ¬ b < 0x80 :=
  UInt8.not_lt.2 (UInt8.le_trans (by decide) h)

theorem above_of_three (h : 0xE0 ≤ b) : ¬ b < 0x80 ∧ ¬ b ≤ 0xDF :=
  ⟨above_of_two (UInt8.le_trans (by decide) h),
    UInt8.not_le.2 (UInt8.lt_of_lt_of_le (by decide) h)⟩

theorem above_of_four (h : 0xF0 ≤ b) : ¬ b < 0x80 ∧ ¬ b ≤ 0xDF ∧ ¬ b ≤ 0xEF :=
  ⟨(above_of_three (UInt8.le_trans (by decide) h)).1,
    (above_of_three (UInt8.le_trans (by decide) h)).2,
    UInt8.not_le.2 (UInt8.lt_of_lt_of_le (by decide) h)⟩

end

namespace Encodes

variable {bytes : List UInt8} {c : Char}

theorem ofUtf8Lossy_append (h : Encodes bytes c) (rest : List UInt8) :
    ofUtf8Lossy (bytes ++ rest) = c :: ofUtf8Lossy rest := by
  cases h with
  | one hb =>
      rw [List.singleton_append, ofUtf8Lossy.eq_def]
      simp [hb]
  | two hleast hgreatest hc =>
      rw [List.cons_append, List.singleton_append, ofUtf8Lossy.eq_def]
      simp [above_of_two hleast, hleast, hgreatest, hc]
  | three hleast hgreatest hc hd =>
      rw [List.cons_append, List.cons_append, List.singleton_append, ofUtf8Lossy.eq_def]
      simp [above_of_three hleast, hleast, hgreatest, hc, hd]
  | four hleast hgreatest hc hd he =>
      rw [List.cons_append, List.cons_append, List.cons_append, List.singleton_append,
        ofUtf8Lossy.eq_def]
      simp [above_of_four hleast, hleast, hgreatest, hc, hd, he]

/-- Bytes that begin a character and do not finish it are read as one replacement
character. -/
theorem ofUtf8Lossy_take (h : Encodes bytes c) {n : Nat} (hpos : 0 < n)
    (hn : n < bytes.length) : ofUtf8Lossy (bytes.take n) = [replacement] := by
  cases h with
  | one hb =>
      rw [List.length_singleton] at hn
      omega
  | two hleast hgreatest hc =>
      obtain rfl : n = 1 := by simp at hn; omega
      rw [ofUtf8Lossy.eq_def]
      simp [above_of_two hleast, hleast, hgreatest]
  | three hleast hgreatest hc hd =>
      obtain rfl | rfl : n = 1 ∨ n = 2 := by simp at hn; omega
      all_goals
        rw [ofUtf8Lossy.eq_def]
        simp [above_of_three hleast, hleast, hgreatest, hc]
  | four hleast hgreatest hc hd he =>
      obtain rfl | rfl | rfl : n = 1 ∨ n = 2 ∨ n = 3 := by simp at hn; omega
      all_goals
        rw [ofUtf8Lossy.eq_def]
        simp [above_of_four hleast, hleast, hgreatest, hc, hd]

end Encodes

section

variable {b c : UInt8}

theorem isContinuation_iff : isContinuation b = true ↔ 0x80 ≤ b.toNat ∧ b.toNat ≤ 0xBF := by
  simp [isContinuation, UInt8.le_iff_toNat_le]

theorem isSecondOfThree_iff : isSecondOfThree b c = true ↔
    (0x80 ≤ c.toNat ∧ c.toNat ≤ 0xBF) ∧ (b.toNat = 0xE0 → 0xA0 ≤ c.toNat) ∧
      (b.toNat = 0xED → c.toNat ≤ 0x9F) := by
  have he0 : b = 0xE0 ↔ b.toNat = 0xE0 := UInt8.toNat_inj.symm
  have hed : b = 0xED ↔ b.toNat = 0xED := UInt8.toNat_inj.symm
  simp only [isSecondOfThree, Bool.and_eq_true, decide_eq_true_eq, beq_iff_eq, he0, hed,
    UInt8.le_iff_toNat_le]
  split
  all_goals
    split
    all_goals
      simp
      omega

theorem isSecondOfFour_iff : isSecondOfFour b c = true ↔
    (0x80 ≤ c.toNat ∧ c.toNat ≤ 0xBF) ∧ (b.toNat = 0xF0 → 0x90 ≤ c.toNat) ∧
      (b.toNat = 0xF4 → c.toNat ≤ 0x8F) := by
  have hf0 : b = 0xF0 ↔ b.toNat = 0xF0 := UInt8.toNat_inj.symm
  have hf4 : b = 0xF4 ↔ b.toNat = 0xF4 := UInt8.toNat_inj.symm
  simp only [isSecondOfFour, Bool.and_eq_true, decide_eq_true_eq, beq_iff_eq, hf0, hf4,
    UInt8.le_iff_toNat_le]
  split
  all_goals
    split
    all_goals
      simp
      omega

end

section

variable {v : Nat}

theorem le_ofNat {least : UInt8} (h : least.toNat ≤ v) (hv : v < 0x100) :
    least ≤ UInt8.ofNat v := by
  rw [UInt8.le_iff_toNat_le, UInt8.toNat_ofNat', Nat.mod_eq_of_lt hv]
  exact h

theorem ofNat_le {greatest : UInt8} (h : v ≤ greatest.toNat) : UInt8.ofNat v ≤ greatest := by
  have hgreatest := greatest.toNat_lt
  rw [UInt8.le_iff_toNat_le, UInt8.toNat_ofNat', Nat.mod_eq_of_lt (by omega)]
  exact h

theorem isContinuation_ofNat (v : Nat) : isContinuation (UInt8.ofNat (v % 64 + 128)) = true := by
  rw [isContinuation_iff, UInt8.toNat_ofNat']
  omega

/-- A code in the range of one byte. -/
theorem encodes_one (h : v ≤ 0x7F) : Encodes [UInt8.ofNat v] (Char.ofNat v) := by
  have hcode : (UInt8.ofNat v).toNat = v := by
    rw [UInt8.toNat_ofNat']
    omega
  have hb : UInt8.ofNat v < 0x80 := by
    rw [UInt8.lt_iff_toNat_lt, hcode]
    exact Nat.lt_succ_of_le h
  have hone := Encodes.one hb
  rwa [hcode] at hone

theorem encodes_two (hleast : 0x7F < v) (hgreatest : v ≤ 0x7FF) :
    Encodes [UInt8.ofNat (v / 64 % 32 + 192), UInt8.ofNat (v % 64 + 128)] (Char.ofNat v) := by
  have hcode : decodeTwo (UInt8.ofNat (v / 64 % 32 + 192)) (UInt8.ofNat (v % 64 + 128)) =
      Char.ofNat v := by
    simp only [decodeTwo, continuationBits, UInt8.toNat_ofNat']
    congr 1
    omega
  rw [← hcode]
  refine .two (le_ofNat ?_ ?_) (ofNat_le ?_) (isContinuation_ofNat v)
  · show 0xC2 ≤ v / 64 % 32 + 192
    omega
  · omega
  · show v / 64 % 32 + 192 ≤ 0xDF
    omega

theorem encodes_three (hleast : 0x7FF < v) (hgreatest : v ≤ 0xFFFF)
    (hvalid : v < 0xD800 ∨ 0xDFFF < v) :
    Encodes [UInt8.ofNat (v / 4096 % 16 + 224), UInt8.ofNat (v / 64 % 64 + 128),
      UInt8.ofNat (v % 64 + 128)] (Char.ofNat v) := by
  have hcode : decodeThree (UInt8.ofNat (v / 4096 % 16 + 224)) (UInt8.ofNat (v / 64 % 64 + 128))
      (UInt8.ofNat (v % 64 + 128)) = Char.ofNat v := by
    simp only [decodeThree, continuationBits, UInt8.toNat_ofNat']
    congr 1
    omega
  rw [← hcode]
  refine .three (le_ofNat ?_ ?_) (ofNat_le ?_) ?_ (isContinuation_ofNat v)
  · show 0xE0 ≤ v / 4096 % 16 + 224
    omega
  · omega
  · show v / 4096 % 16 + 224 ≤ 0xEF
    omega
  · rw [isSecondOfThree_iff, UInt8.toNat_ofNat', UInt8.toNat_ofNat']
    omega

theorem encodes_four (hleast : 0xFFFF < v) (hgreatest : v < 0x110000) :
    Encodes [UInt8.ofNat (v / 262144 % 8 + 240), UInt8.ofNat (v / 4096 % 64 + 128),
      UInt8.ofNat (v / 64 % 64 + 128), UInt8.ofNat (v % 64 + 128)] (Char.ofNat v) := by
  have hcode : decodeFour (UInt8.ofNat (v / 262144 % 8 + 240))
      (UInt8.ofNat (v / 4096 % 64 + 128)) (UInt8.ofNat (v / 64 % 64 + 128))
      (UInt8.ofNat (v % 64 + 128)) = Char.ofNat v := by
    simp only [decodeFour, continuationBits, UInt8.toNat_ofNat']
    congr 1
    omega
  rw [← hcode]
  refine .four (le_ofNat ?_ ?_) (ofNat_le ?_) ?_ (isContinuation_ofNat (v / 64))
    (isContinuation_ofNat v)
  · show 0xF0 ≤ v / 262144 % 8 + 240
    omega
  · omega
  · show v / 262144 % 8 + 240 ≤ 0xF4
    omega
  · rw [isSecondOfFour_iff, UInt8.toNat_ofNat', UInt8.toNat_ofNat']
    omega

end

/-- The bytes of a character are read as it. -/
theorem encodes_utf8EncodeChar (c : Char) : Encodes (String.utf8EncodeChar c) c := by
  have hvalid : c.val.toNat < 0xD800 ∨ 0xDFFF < c.val.toNat ∧ c.val.toNat < 0x110000 := c.valid
  have hc : Char.ofNat c.val.toNat = c := Char.ofNat_toNat c
  unfold String.utf8EncodeChar
  dsimp only
  generalize c.val.toNat = v at hvalid hc
  subst hc
  split
  case isTrue hone => exact encodes_one hone
  split
  case isTrue hone htwo => exact encodes_two (Nat.lt_of_not_le hone) htwo
  split
  case isTrue hone htwo hthree => exact encodes_three (Nat.lt_of_not_le htwo) hthree (by omega)
  case isFalse hone htwo hthree => exact encodes_four (Nat.lt_of_not_le hthree) (by omega)

/-- The bytes of a text are read as the text, whatever comes behind. -/
theorem ofUtf8Lossy_toUtf8_append (t : Text) (rest : List UInt8) :
    ofUtf8Lossy (toUtf8 t ++ rest) = t ++ ofUtf8Lossy rest := by
  induction t with
  | nil => rfl
  | cons c t ih =>
      rw [toUtf8_cons, List.append_assoc, (encodes_utf8EncodeChar c).ofUtf8Lossy_append, ih,
        List.cons_append]

theorem ofUtf8Lossy_toUtf8 (t : Text) : ofUtf8Lossy (toUtf8 t) = t := by
  have h := ofUtf8Lossy_toUtf8_append t []
  rwa [List.append_nil, ofUtf8Lossy, List.append_nil] at h

theorem length_toUtf8 (t : Text) : (toUtf8 t).length = utf8Size t := by
  induction t with
  | nil => rfl
  | cons c t ih =>
      rw [toUtf8_cons, List.length_append, String.length_utf8EncodeChar, ih, utf8Size_cons]

/-- In front of a cut the characters that fit are read, and if the cut is within a character,
one replacement character. -/
theorem ofUtf8Lossy_take_toUtf8 (n : Nat) (t : Text) :
    ofUtf8Lossy ((toUtf8 t).take n) = Input.fitting n t ++
      if utf8Size (Input.fitting n t) < min n (utf8Size t) then [replacement] else [] := by
  induction t generalizing n with
  | nil => simp [Input.fitting, ofUtf8Lossy]
  | cons c t ih =>
      have hencodes := encodes_utf8EncodeChar c
      have hsize := String.length_utf8EncodeChar c
      rw [toUtf8_cons, List.take_append, hsize, utf8Size_cons]
      by_cases hfits : c.utf8Size ≤ n
      · -- The cut is within a character of the rest if it is within one of the whole.
        have hcut : c.utf8Size + utf8Size (Input.fitting (n - c.utf8Size) t) <
              min n (c.utf8Size + utf8Size t) ↔
            utf8Size (Input.fitting (n - c.utf8Size) t) < min (n - c.utf8Size) (utf8Size t) := by
          omega
        rw [List.take_of_length_le (hsize ▸ hfits), hencodes.ofUtf8Lossy_append, ih,
          Input.fitting, if_pos hfits, utf8Size_cons, List.cons_append]
        simp only [hcut]
      · rw [Nat.sub_eq_zero_of_le (Nat.le_of_not_le hfits), List.take_zero, List.append_nil,
          Input.fitting, if_neg hfits, utf8Size_nil, List.nil_append]
        -- Nothing is left of the character, or a part that is not the whole.
        by_cases hn : n = 0
        · rw [hn, List.take_zero, if_neg (by omega), ofUtf8Lossy]
        · rw [hencodes.ofUtf8Lossy_take (Nat.pos_of_ne_zero hn) (by omega), if_pos (by omega)]

end Text

end CommandShell
