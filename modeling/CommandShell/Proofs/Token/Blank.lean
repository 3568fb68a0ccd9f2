import CommandShell.Proofs.Token.Rendering

/-!
# Blanks outside quotes

A blank outside quotes ends the word begun, and nothing in front of it looks at what is
behind it. So a text that gives tokens can be cut off there: its elements fit in front of
the blank as they fit at the end of a line (`Element.fitsAll_of_fitsAll_nil`), and the
tokens of what is behind come after its own (`Element.tokens_append_blank_cons`).

The main statement is `Token.ofLine_append_blanks`.
-/

namespace CommandShell

namespace Element

theorem afterWord_append (w : Text) (ts us : List Token) :
    afterWord w (ts ++ us) = afterWord w ts ++ us := by
  unfold afterWord
  split
  · rfl
  · rfl

/-- The word begun ends at the blank, so what is behind it only adds tokens. -/
theorem wordAndTokens_append_blank_cons (es : List Element) (c : Char) (fs : List Element) :
    wordAndTokens (es ++ .blank c :: fs) =
      ((wordAndTokens es).1, (wordAndTokens es).2 ++ tokens fs) := by
  induction es with
  | nil => rfl
  | cons e es ih =>
      have htokens : tokens (es ++ .blank c :: fs) = tokens es ++ tokens fs := by
        rw [tokens, ih, afterWord_append]
        rfl
      rw [List.cons_append]
      rcases e.isPart_or with ⟨d, rfl⟩ | ⟨o, rfl⟩ | hpart
      · rw [wordAndTokens_blank_cons, wordAndTokens_blank_cons, htokens]
      · rw [wordAndTokens_operator_cons, wordAndTokens_operator_cons, htokens, List.cons_append]
      · rw [wordAndTokens_cons_of_isPart hpart, wordAndTokens_cons_of_isPart hpart, ih]

theorem tokens_append_blank_cons (es : List Element) (c : Char) (fs : List Element) :
    tokens (es ++ .blank c :: fs) = tokens es ++ tokens fs := by
  rw [tokens, wordAndTokens_append_blank_cons, afterWord_append]
  rfl

/-- Elements that fit at the end of a line fit in front of everything but an angle bracket. -/
theorem fitsAll_of_fitsAll_nil {es : List Element} (h : cutting.FitsAll es []) {rest : Text}
    (hrest : rest.head? ≠ some '>') : cutting.FitsAll es rest := by
  induction es with
  | nil => trivial
  | cons e es ih =>
      refine ⟨fits_of_head? h.1 ?_, ih h.2⟩
      cases es with
      | nil =>
          intro hangle
          exact absurd hangle hrest
      | cons f fs =>
          intro hangle
          obtain ⟨c, t, hf⟩ := List.exists_cons_of_ne_nil (written_ne_nil f)
          have hwritten : cutting.writtenAll (f :: fs) = c :: (t ++ cutting.writtenAll fs) := by
            rw [Cutting.writtenAll_cons, ← List.cons_append, ← hf]
            rfl
          rw [hwritten] at hangle ⊢
          exact hangle

/-- Blanks go between the elements of a text that is cut to its end and those of what is
behind. -/
theorem isCut_append_blanks {a s b rest : Text} {es fs : List Element}
    (h : cutting.IsCut a es []) (hne : s ≠ []) (hblank : ∀ c ∈ s, Token.isBlank c = true)
    (h' : cutting.IsCut b fs rest) :
    cutting.IsCut (a ++ s ++ b) (es ++ (s.map .blank ++ fs)) rest := by
  have hbehind : cutting.writtenAll (s.map .blank ++ fs) ++ rest = s ++ b := by
    rw [Cutting.writtenAll_append, Rendering.writtenAll_map_blank, List.append_assoc,
      ← h'.eq_append]
  have hhead : (s ++ b).head? ≠ some '>' := by
    obtain ⟨c, g, rfl⟩ := List.exists_cons_of_ne_nil hne
    intro hangle
    obtain rfl : c = '>' := Option.some.inj hangle
    exact absurd (hblank '>' List.mem_cons_self) (by decide)
  refine ⟨?_, ?_, h'.stops⟩
  · rw [Cutting.writtenAll_append, List.append_assoc, List.append_assoc, hbehind, h.eq_append,
      List.append_nil]
  · refine (cutting.fitsAll_append _ _ _).2 ⟨?_, ?_⟩
    · rw [hbehind]
      exact fitsAll_of_fitsAll_nil h.fits hhead
    · exact (cutting.fitsAll_append _ _ _).2 ⟨fitsAll_map_blank hblank _, h'.fits⟩

theorem tokens_append_blanks (es : List Element) {s : Text} (hne : s ≠ []) (fs : List Element) :
    tokens (es ++ (s.map .blank ++ fs)) = tokens es ++ tokens fs := by
  obtain ⟨c, g, rfl⟩ := List.exists_cons_of_ne_nil hne
  rw [List.map_cons, List.cons_append, tokens_append_blank_cons, tokens_map_blank_append]

end Element

/-- The tokens of a text and of what is behind it, with blanks between them, are those of
the text and then the others. What is behind is read as on a line of its own, and if it is
refused, then for the same reason. -/
theorem Token.ofLine_append_blanks {a : Text} {ts : List Token} (h : ofLine a = .ok ts)
    {s : Text} (hne : s ≠ []) (hblank : ∀ c ∈ s, isBlank c = true) (b : Text) :
    ofLine (a ++ s ++ b) = (ofLine b).map (ts ++ ·) := by
  obtain ⟨es, hcut, rfl⟩ := Element.exists_tokens_of_ofLine h
  obtain ⟨fs, rest, hcut'⟩ := Element.cutting.exists_isCut b
  have hboth := Element.isCut_append_blanks hcut hne hblank hcut'
  rw [Element.ofLine_of_isCut hboth, Element.ofLine_of_isCut hcut',
    Element.tokens_append_blanks es hne]
  cases Element.ending rest with
  | error e => rfl
  | ok u => rfl

/-- A digit in front of the blanks is none of an operator's, and a backslash behind them
is refused there. -/
theorem Token.ofLine_append_blanks_digit :
    ofLine "a1".toList = .ok [.word "a1".toList] ∧
      ofLine ("a1".toList ++ " \t".toList ++ ">> f".toList) =
        .ok [.word "a1".toList, .operator ⟨none, .append⟩, .word "f".toList] ∧
      ofLine ("a1".toList ++ " \t".toList ++ ">> \\".toList) = .error .trailingBackslash := by
  have hword : ofLine "a1".toList = .ok [.word "a1".toList] := by decide +kernel
  have hblank : ∀ c ∈ " \t".toList, isBlank c = true := List.all_eq_true.1 (by decide)
  refine ⟨hword, ?_, ?_⟩
  · rw [ofLine_append_blanks hword (by decide) hblank]
    decide +kernel
  · rw [ofLine_append_blanks hword (by decide) hblank]
    decide +kernel

end CommandShell
