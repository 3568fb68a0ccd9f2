import CommandShell.Proofs.Command.WellFormed

/-!
# Writing tokens back as a line

The texts of tokens, joined by single spaces, make a line again (`Token.joined`). It is
read as the same tokens exactly if none of their words has a character that means
something outside quotes.

Such words can be written bare, so one direction is a rendering. For the other one the
quoting characters are counted: reading loses those that mark an escape or enclose a
segment, and joining puts none back. So a joined line that gives its tokens back was read
without any escape or segment (`Element.isMarked_eq_false_of_tokens_joined`), and each of
its words is made of plain characters.

The main statement is `Token.ofLine_joined_iff_and_exists`.
-/

namespace CommandShell

namespace Token

/-- The characters that quote others. -/
def isQuoting (c : Char) : Bool := c = '"' || c = '\'' || c = '\\'

/-- The characters that mean something outside quotes. -/
def reserved : List Char := [' ', '\t', '\'', '"', '\\', '>']

theorem isPlain_iff_not_mem_reserved {c : Char} : Element.IsPlain c ↔ c ∉ reserved := by
  simp only [Element.IsPlain, isBlank, reserved, List.mem_cons, List.not_mem_nil, or_false,
    Bool.or_eq_false_iff, decide_eq_false_iff_not, not_or]
  tauto

theorem countP_joined (ts : List Token) :
    (joined ts).countP isQuoting = (ts.flatMap text).countP isQuoting := by
  unfold joined
  induction ts with
  | nil => rfl
  | cons t ts ih =>
      cases ts with
      | nil => simp
      | cons u us =>
          have hspace : [' '].countP isQuoting = 0 := by decide
          have hflat : (t :: u :: us).flatMap text = t.text ++ (u :: us).flatMap text := rfl
          rw [List.map_cons, List.map_cons, Text.join_cons_cons, List.countP_append,
            List.countP_append, hspace, ← List.map_cons, ih, hflat, List.countP_append,
            Nat.add_zero]

end Token

namespace Element

open Token

/-- What an element leaves in the texts of the tokens. -/
def text : Element → Text
  | .operator o => o.text
  | e => e.value

theorem text_of_isPart {e : Element} (h : e.IsPart) : e.text = e.value := by
  cases e with
  | operator o => exact absurd rfl h.2
  | _ => rfl

theorem flatMap_text_afterWord (w : Text) (ts : List Token) :
    (afterWord w ts).flatMap Token.text = w ++ ts.flatMap Token.text := by
  unfold afterWord
  split
  case isTrue hw => rw [hw, List.nil_append]
  case isFalse => rfl

theorem flatMap_text_wordAndTokens (es : List Element) :
    (wordAndTokens es).1 ++ (wordAndTokens es).2.flatMap Token.text = es.flatMap text := by
  induction es with
  | nil => rfl
  | cons e es ih =>
      rcases e.isPart_or with ⟨c, rfl⟩ | ⟨o, rfl⟩ | hpart
      · rw [wordAndTokens_blank_cons, tokens, flatMap_text_afterWord, ih]
        rfl
      · rw [wordAndTokens_operator_cons, List.flatMap_cons, tokens, flatMap_text_afterWord, ih]
        rfl
      · rw [wordAndTokens_cons_of_isPart hpart, List.append_assoc, ih, List.flatMap_cons,
          text_of_isPart hpart]

theorem flatMap_text_tokens (es : List Element) :
    (tokens es).flatMap Token.text = es.flatMap text := by
  rw [tokens, flatMap_text_afterWord, flatMap_text_wordAndTokens]

/-- The element has quoting characters of its own. -/
def isMarked : Element → Bool
  | .escaped _ => true
  | .single _ => true
  | .double _ => true
  | _ => false

theorem countP_valueAll_le (b : List BodyItem) :
    (BodyItem.valueAll b).countP isQuoting ≤ (BodyItem.cutting.writtenAll b).countP isQuoting := by
  induction b with
  | nil => exact Nat.le_refl 0
  | cons x b ih =>
      have hitem : [x.value].countP isQuoting ≤ x.written.countP isQuoting := by
        cases x with
        | pair c => simp [BodyItem.value, BodyItem.written, List.countP_cons]
        | ordinary c => exact Nat.le_refl _
      have hvalue : BodyItem.valueAll (x :: b) = [x.value] ++ BodyItem.valueAll b := rfl
      have hwritten : BodyItem.cutting.writtenAll (x :: b) =
          x.written ++ BodyItem.cutting.writtenAll b := rfl
      rw [hvalue, hwritten, List.countP_append, List.countP_append]
      exact Nat.add_le_add hitem ih

/-- What marks an element is lost with it. -/
theorem countP_text_le (e : Element) :
    e.text.countP isQuoting + (if e.isMarked then 1 else 0) ≤ e.written.countP isQuoting := by
  cases e with
  | blank c => exact Nat.zero_le _
  | operator o => exact Nat.le_refl _
  | plain c => exact Nat.le_refl _
  | escaped c =>
      have hbackslash : isQuoting '\\' = true := by decide
      simp [text, value, written, isMarked, List.countP_cons, hbackslash]
  | single b =>
      have hquote : isQuoting '\'' = true := by decide
      simp [text, value, written, isMarked, hquote]
  | double b =>
      have hquote : isQuoting '"' = true := by decide
      have hbody := countP_valueAll_le b
      simp only [text, value, written, isMarked, List.cons_append, List.countP_cons,
        List.countP_append, List.countP_nil, hquote, if_true]
      omega

theorem countP_flatMap_text_le (es : List Element) :
    (es.flatMap text).countP isQuoting + es.countP isMarked ≤
      (cutting.writtenAll es).countP isQuoting := by
  induction es with
  | nil => exact Nat.le_refl 0
  | cons e es ih =>
      have he := countP_text_le e
      have hwritten : cutting.writtenAll (e :: es) = e.written ++ cutting.writtenAll es := rfl
      rw [hwritten, List.flatMap_cons, List.countP_append, List.countP_append, List.countP_cons]
      omega

/-- Where the tokens come back from their joined texts, nothing was quoted. -/
theorem isMarked_eq_false_of_tokens_joined {es : List Element}
    (h : cutting.writtenAll es = joined (tokens es)) {e : Element} (he : e ∈ es) :
    e.isMarked = false := by
  have hcount := countP_flatMap_text_le es
  rw [h, countP_joined, flatMap_text_tokens] at hcount
  have hnone : es.countP isMarked = 0 := by omega
  simpa using List.countP_eq_zero.1 hnone e he

theorem exists_mem_value_of_mem_wordAndTokens {es : List Element} {c : Char}
    (h : c ∈ (wordAndTokens es).1 ∨ ∃ w, .word w ∈ (wordAndTokens es).2 ∧ c ∈ w) :
    ∃ e ∈ es, c ∈ e.value := by
  induction es with
  | nil => simp [wordAndTokens] at h
  | cons e es ih =>
      have htokens : (∃ w, .word w ∈ tokens es ∧ c ∈ w) → ∃ e ∈ es, c ∈ e.value := by
        rintro ⟨w, hw, hc⟩
        obtain ⟨hw, -⟩ | hw := mem_afterWord hw
        · exact ih (.inl (Token.word.inj hw ▸ hc))
        · exact ih (.inr ⟨w, hw, hc⟩)
      have hbehind : (∃ e ∈ es, c ∈ e.value) → ∃ x ∈ e :: es, c ∈ x.value := by
        rintro ⟨x, hx, hc⟩
        exact ⟨x, List.mem_cons_of_mem e hx, hc⟩
      rcases e.isPart_or with ⟨d, rfl⟩ | ⟨o, rfl⟩ | hpart
      · rw [wordAndTokens_blank_cons] at h
        exact hbehind (htokens (by simpa using h))
      · rw [wordAndTokens_operator_cons] at h
        exact hbehind (htokens (by simpa using h))
      · rw [wordAndTokens_cons_of_isPart hpart] at h
        obtain hc | hw := h
        · obtain hc | hc := List.mem_append.1 hc
          · exact ⟨e, List.mem_cons_self, hc⟩
          · exact hbehind (ih (.inl hc))
        · exact hbehind (ih (.inr hw))

/-- The characters of a word come from the elements. -/
theorem exists_mem_value_of_mem_tokens {es : List Element} {w : Text} (h : .word w ∈ tokens es)
    {c : Char} (hc : c ∈ w) : ∃ e ∈ es, c ∈ e.value := by
  obtain ⟨hw, -⟩ | hw := mem_afterWord h
  · exact exists_mem_value_of_mem_wordAndTokens (.inl (Token.word.inj hw ▸ hc))
  · exact exists_mem_value_of_mem_wordAndTokens (.inr ⟨w, hw, hc⟩)

theorem isPlain_of_mem_value {e : Element} (hmarked : e.isMarked = false) {t : Text}
    (hfits : e.Fits t) {c : Char} (hc : c ∈ e.value) : IsPlain c := by
  cases e with
  | plain d =>
      obtain rfl := List.mem_singleton.1 hc
      exact hfits.1
  | blank d => cases hc
  | operator o => cases hc
  | escaped d => cases hmarked
  | single b => cases hmarked
  | double b => cases hmarked

theorem exists_fits_of_mem {es : List Element} {rest : Text} (h : cutting.FitsAll es rest)
    {e : Element} (he : e ∈ es) : ∃ t, e.Fits t := by
  obtain ⟨front, back, rfl⟩ := List.append_of_mem he
  exact ⟨_, ((cutting.fitsAll_append _ _ _).1 h).2.1⟩

end Element

namespace Token

/-- A bare word is written as it is. -/
theorem exists_map_written {ts : List Token} (hnil : ∀ w, .word w ∈ ts → w ≠ [])
    (h : ∀ w, .word w ∈ ts → ∀ c ∈ w, Element.IsPlain c) :
    ∃ us : List WrittenToken, us.map WrittenToken.token = ts ∧
      us.map WrittenToken.written = ts.map text := by
  induction ts with
  | nil => exact ⟨[], rfl, rfl⟩
  | cons t ts ih =>
      obtain ⟨us, htoken, hwritten⟩ := ih (fun w hw => hnil w (List.mem_cons_of_mem t hw))
        fun w hw => h w (List.mem_cons_of_mem t hw)
      have hfirst : ∃ u : WrittenToken, u.token = t ∧ u.written = t.text := by
        cases t with
        | operator o => exact ⟨.operator o, rfl, rfl⟩
        | word w =>
            have hw := hnil w List.mem_cons_self
            have hplain := h w List.mem_cons_self
            exact ⟨.word (.bare w hw hplain), congrArg word (WrittenWord.value_bare w hw hplain),
              WrittenWord.written_bare w hw hplain⟩
      obtain ⟨u, hu, hu'⟩ := hfirst
      refine ⟨u :: us, ?_, ?_⟩
      · rw [List.map_cons, hu, htoken]
      · rw [List.map_cons, hu', hwritten, List.map_cons]

theorem ofLine_joined {ts : List Token} (hnil : ∀ w, .word w ∈ ts → w ≠ [])
    (h : ∀ w, .word w ∈ ts → ∀ c ∈ w, Element.IsPlain c) : ofLine (joined ts) = .ok ts := by
  obtain ⟨us, htoken, hwritten⟩ := exists_map_written hnil h
  have hline := Command.ofLine_lineOf us
  rw [Command.lineOf, hwritten, htoken] at hline
  exact hline

theorem isPlain_of_ofLine_joined {ts : List Token} (h : ofLine (joined ts) = .ok ts) {w : Text}
    (hw : .word w ∈ ts) {c : Char} (hc : c ∈ w) : Element.IsPlain c := by
  obtain ⟨es, hcut, rfl⟩ := Element.exists_tokens_of_ofLine h
  have hwritten : Element.cutting.writtenAll es = joined (Element.tokens es) := by
    rw [hcut.eq_append, List.append_nil]
  obtain ⟨e, he, hce⟩ := Element.exists_mem_value_of_mem_tokens hw hc
  obtain ⟨t, hfits⟩ := Element.exists_fits_of_mem hcut.fits he
  exact Element.isPlain_of_mem_value (Element.isMarked_eq_false_of_tokens_joined hwritten he)
    hfits hce

/-- The tokens of a line come back from their texts with single spaces between them
exactly if no word has a character that means something outside quotes. That no word has
a space is not enough. -/
theorem ofLine_joined_iff_and_exists :
    (∀ line ts, ofLine line = .ok ts →
      (ofLine (joined ts) = .ok ts ↔ ∀ w, .word w ∈ ts → ∀ c ∈ w, c ∉ reserved)) ∧
    ∃ line ts, ofLine line = .ok ts ∧ (∀ w, .word w ∈ ts → ' ' ∉ w) ∧
      ofLine (joined ts) ≠ .ok ts := by
  constructor
  · intro line ts h
    constructor
    · intro hjoined w hw c hc
      exact isPlain_iff_not_mem_reserved.1 (isPlain_of_ofLine_joined hjoined hw hc)
    · intro hplain
      refine ofLine_joined (fun w hw => ne_nil_of_mem_ofLine h hw) ?_
      intro w hw c hc
      exact isPlain_iff_not_mem_reserved.2 (hplain w hw c hc)
  · -- An escaped angle bracket is a word, and an operator when it comes back.
    refine ⟨"\\>".toList, [.word ['>']], by decide +kernel, ?_, by decide +kernel⟩
    intro w hw
    obtain rfl := Token.word.inj (List.mem_singleton.1 hw)
    decide

/-- A quoted digit comes back without its quotes, since a space keeps it off the angle
bracket. -/
theorem ofLine_joined_digit :
    let ts : List Token :=
      [.word "echo".toList, .word ['1'], .operator ⟨none, .truncate⟩, .word ['f']]
    ofLine "echo '1'> f".toList = .ok ts ∧ ofLine (joined ts) = .ok ts := by
  intro ts
  have hline : ofLine "echo '1'> f".toList = .ok ts := by decide +kernel
  have hplain : ∀ w, .word w ∈ ts → ∀ c ∈ w, c ∉ reserved := by
    intro w hw
    simp only [ts, List.mem_cons, Token.word.injEq, reduceCtorEq, List.not_mem_nil, or_false,
      false_or] at hw
    rcases hw with rfl | rfl | rfl <;> simp [reserved]
  exact ⟨hline, (ofLine_joined_iff_and_exists.1 _ ts hline).2 hplain⟩

end Token

end CommandShell
