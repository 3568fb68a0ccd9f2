import CommandShell.Proofs.Token.Assembly

/-!
# Scanning along the elements of a line

The scan reads one element after the other: a part of a word is added to the word
begun, and a blank or an operator ends it. So the tokens of a line are those of its
elements, and the remainder of the cut tells why a line has none.

The main statement is `exists_elements_ofLine_iff`, which gives each line its one cut
and each of the three outcomes the remainder that it belongs to.
-/

namespace CommandShell

namespace Token

-- Only the lemmas of this section take a step of the scan apart.
attribute [local simp] scan

theorem endWord_reverse (w : Text) (ts : List Token) :
    endWord w.reverse ts = Element.afterWord w ts := by
  rcases List.eq_nil_or_concat w with rfl | ⟨v, c, rfl⟩
  · rfl
  · simp [Element.afterWord]

theorem endWord_eq_afterWord (w : Text) (ts : List Token) :
    endWord w ts = Element.afterWord w.reverse ts := by
  rw [← endWord_reverse, List.reverse_reverse]

/-! ## Quoted segments -/

theorem scan_single_append {b : Text} (h : '\'' ∉ b) (w t : Text) :
    scan .single w (b ++ t) = scan .single (b.reverse ++ w) t := by
  induction b generalizing w with
  | nil => rfl
  | cons c b ih =>
      have hc : c ≠ '\'' := fun hc => h (hc ▸ List.mem_cons_self)
      rw [List.cons_append, scan, if_neg hc, ih (List.not_mem_of_not_mem_cons h)]
      simp

theorem scan_double_written_append {x : BodyItem} {u : Text} (h : x.Fits u) (w : Text) :
    scan .double w (x.written ++ u) = scan .double (x.value :: w) u := by
  cases x with
  | pair c =>
      have hc : c = '"' ∨ c = '\\' := h
      change scan .double w ('\\' :: c :: u) = _
      rw [scan, if_neg (by decide), if_pos rfl, if_pos hc]
      rfl
  | ordinary c =>
      obtain ⟨hquote, hpair⟩ := h
      cases u with
      | nil => by_cases hc : c = '\\' <;> simp [BodyItem.written, hquote, hc]
      | cons d u =>
          change scan .double w (c :: d :: u) = _
          rw [scan, if_neg hquote]
          by_cases hc : c = '\\'
          · obtain ⟨hd, hd'⟩ := hpair hc d rfl
            rw [if_pos hc, if_neg (not_or.2 ⟨hd, hd'⟩), hc]
            rfl
          · rw [if_neg hc]
            rfl

theorem scan_double_writtenAll_append {b : List BodyItem} {t : Text}
    (h : BodyItem.cutting.FitsAll b t) (w : Text) :
    scan .double w (BodyItem.cutting.writtenAll b ++ t) =
      scan .double ((BodyItem.valueAll b).reverse ++ w) t := by
  induction b generalizing w with
  | nil => rfl
  | cons x b ih =>
      have hx : x.Fits (BodyItem.cutting.writtenAll b ++ t) := h.1
      have hwritten : BodyItem.cutting.writtenAll (x :: b) ++ t =
          x.written ++ (BodyItem.cutting.writtenAll b ++ t) := by
        rw [Cutting.writtenAll_cons, List.append_assoc]
        rfl
      rw [hwritten, scan_double_written_append hx, ih h.2]
      simp [BodyItem.valueAll]

/-! ## One element -/

theorem scan_single_quote_cons (w t : Text) :
    scan .bare w ('\'' :: t) = scan .single w t := by
  cases t <;> simp

theorem scan_double_quote_cons (w t : Text) :
    scan .bare w ('"' :: t) = scan .double w t := by
  cases t <;> simp

theorem scan_single_close (w t : Text) : scan .single w ('\'' :: t) = scan .bare w t := by
  simp

theorem scan_double_close (w t : Text) : scan .double w ('"' :: t) = scan .bare w t := by
  cases t <;> simp

theorem scan_nil (w : Text) : scan .bare w [] = .ok (Element.afterWord w.reverse []) := by
  rw [scan, endWord_eq_afterWord]

theorem scan_escape_cons (w : Text) (c : Char) (t : Text) :
    scan .bare w ('\\' :: c :: t) = scan .bare (c :: w) t := by
  simp

theorem scan_blank_cons {c : Char} (h : isBlank c = true) (w t : Text) :
    scan .bare w (c :: t) = (scan .bare [] t).map (endWord w) := by
  have hc : c = ' ' ∨ c = '\t' := by simpa [isBlank] using h
  rcases hc with rfl | rfl <;> cases t <;> simp [isBlank]

theorem scan_operator_append {o : Operator} {t : Text}
    (h : o.mode = .truncate → t.head? ≠ some '>') (w : Text) :
    scan .bare w (o.text ++ t) =
      (scan .bare [] t).map fun ts => endWord w (operator o :: ts) := by
  rcases o with ⟨s, m⟩
  cases m with
  | append => rcases s with _ | ⟨_ | _⟩ <;> rfl
  | truncate =>
      cases t with
      | nil => rcases s with _ | ⟨_ | _⟩ <;> rfl
      | cons d t =>
          have hd : d ≠ '>' := fun hd => h rfl (congrArg some hd)
          rcases s with _ | ⟨_ | _⟩ <;>
            simp [Operator.text, Stream.digit, WriteMode.angles, isBlank, scan.selector?, hd]

theorem isDigit_of_selector? {c : Char} {s : Stream} (h : scan.selector? c = some s) :
    Element.IsDigit c := by
  unfold scan.selector? at h
  split at h
  · exact Or.inl ‹c = '1'›
  · split at h
    · exact Or.inr ‹c = '2'›
    · exact absurd h (by simp)

theorem scan_plain_cons {c : Char} {t : Text} (hc : Element.IsPlain c)
    (hdigit : Element.IsDigit c → t.head? ≠ some '>') (w : Text) :
    scan .bare w (c :: t) = scan .bare (c :: w) t := by
  obtain ⟨hblank, hdouble, hsingle, hescape, hangle⟩ := hc
  cases t with
  | nil => cases hs : scan.selector? c <;> simp [hblank, hdouble, hsingle, hescape, hangle, hs]
  | cons d t =>
      rw [scan, if_neg hdouble, if_neg hsingle, if_neg hescape, if_neg (by simp [hblank]),
        if_neg hangle]
      cases hs : scan.selector? c with
      | none => rfl
      | some s =>
          have hd : d ≠ '>' := fun hd => hdigit (isDigit_of_selector? hs) (congrArg some hd)
          split <;> simp_all

end Token

namespace Element

open Token

/-- A part of a word goes behind the word begun. -/
theorem scan_written_append {e : Element} {t : Text} (h : e.Fits t) (hpart : e.IsPart)
    (w : Text) : scan .bare w (e.written ++ t) = scan .bare (e.value.reverse ++ w) t := by
  cases e with
  | blank c => exact absurd rfl hpart.1
  | operator o => exact absurd rfl hpart.2
  | escaped c => exact scan_escape_cons w c t
  | single b =>
      have hwritten : (single b).written ++ t = '\'' :: (b ++ '\'' :: t) := by
        simp [written]
      rw [hwritten, scan_single_quote_cons, scan_single_append h, scan_single_close]
      rfl
  | double b =>
      have hwritten : (double b).written ++ t =
          '"' :: (BodyItem.cutting.writtenAll b ++ '"' :: t) := by
        simp [written]
      rw [hwritten, scan_double_quote_cons, scan_double_writtenAll_append h, scan_double_close]
      rfl
  | plain c => exact scan_plain_cons h.1 h.2 w

/-- What a remainder says about its line. -/
def ending : Text → Except LexError Unit
  | [] => .ok ()
  | ['\\'] => .error .trailingBackslash
  | _ => .error .unfinishedQuote

theorem ending_of_unclosed {t : Text} (h : Unclosed t) :
    ending t = .error .unfinishedQuote := by
  rcases h with ⟨b, rfl, -⟩ | ⟨b, rfl, -⟩ <;> rfl

theorem scan_unclosed {t : Text} (h : Unclosed t) (w : Text) :
    scan .bare w t = .error .unfinishedQuote := by
  rcases h with ⟨b, rfl, hb⟩ | ⟨b, rfl, hb⟩
  · have hscan := scan_single_append hb w []
    rw [List.append_nil] at hscan
    rw [scan_single_quote_cons, hscan]
    rfl
  · have hscan := scan_double_writtenAll_append hb w
    rw [List.append_nil] at hscan
    rw [scan_double_quote_cons, hscan]
    rfl

theorem scan_of_stops {t : Text} (h : Stops t) (w : Text) :
    scan .bare w t = (ending t).map fun _ => afterWord w.reverse [] := by
  rcases h with rfl | rfl | hquote
  · exact scan_nil w
  · rfl
  · rw [scan_unclosed hquote, ending_of_unclosed hquote]
    rfl

/-- The scan of a line whose cut is known. The word begun goes in front of the one
that the elements begin with. -/
theorem scan_writtenAll_append {es : List Element} {rest : Text} (h : cutting.FitsAll es rest)
    (hstop : Stops rest) (w : Text) :
    scan .bare w (cutting.writtenAll es ++ rest) =
      (ending rest).map fun _ =>
        afterWord (w.reverse ++ (wordAndTokens es).1) (wordAndTokens es).2 := by
  induction es generalizing w with
  | nil =>
      rw [Cutting.writtenAll_nil, List.nil_append, scan_of_stops hstop]
      simp [wordAndTokens]
  | cons e es ih =>
      have hfits : e.Fits (cutting.writtenAll es ++ rest) := h.1
      have hwritten : cutting.writtenAll (e :: es) ++ rest =
          e.written ++ (cutting.writtenAll es ++ rest) := by
        rw [Cutting.writtenAll_cons, List.append_assoc]
        rfl
      -- Behind a blank or an operator no word is begun.
      have htokens : scan .bare [] (cutting.writtenAll es ++ rest) =
          (ending rest).map fun _ => tokens es := ih h.2 []
      rw [hwritten]
      rcases e.isPart_or with ⟨c, rfl⟩ | ⟨o, rfl⟩ | hpart
      · change scan .bare w (c :: (cutting.writtenAll es ++ rest)) = _
        rw [scan_blank_cons hfits, htokens, wordAndTokens_blank_cons]
        cases ending rest <;> simp [Except.map, endWord_eq_afterWord]
      · change scan .bare w (o.text ++ (cutting.writtenAll es ++ rest)) = _
        rw [scan_operator_append hfits, htokens, wordAndTokens_operator_cons]
        cases ending rest <;> simp [Except.map, endWord_eq_afterWord]
      · rw [scan_written_append hfits hpart, ih h.2, wordAndTokens_cons_of_isPart hpart]
        simp

theorem ofLine_of_isCut {line : Text} {es : List Element} {rest : Text}
    (h : cutting.IsCut line es rest) :
    Token.ofLine line = (ending rest).map fun _ => tokens es := by
  rw [h.eq_append]
  exact scan_writtenAll_append h.fits h.stops []

theorem ending_eq_ok_iff {t : Text} : ending t = .ok () ↔ t = [] := by
  unfold ending
  split <;> simp_all

theorem ending_eq_trailingBackslash_iff {t : Text} :
    ending t = .error .trailingBackslash ↔ t = ['\\'] := by
  unfold ending
  split <;> simp_all

theorem ending_eq_unfinishedQuote_iff {t : Text} (h : Stops t) :
    ending t = .error .unfinishedQuote ↔ Unclosed t := by
  constructor
  · intro hending
    rcases h with rfl | rfl | hquote
    · exact absurd hending (by simp [ending])
    · exact absurd hending (by simp [ending])
    · exact hquote
  · exact ending_of_unclosed

theorem exists_tokens_of_ofLine {line : Text} {ts : List Token} (h : Token.ofLine line = .ok ts) :
    ∃ es, cutting.IsCut line es [] ∧ ts = tokens es := by
  obtain ⟨es, rest, hcut⟩ := cutting.exists_isCut line
  rw [ofLine_of_isCut hcut] at h
  cases hending : ending rest with
  | error e => rw [hending] at h; cases h
  | ok u =>
      rw [hending] at h
      obtain rfl := ending_eq_ok_iff.1 hending
      exact ⟨es, hcut, (Except.ok.inj h).symm⟩

end Element

theorem Token.ne_nil_of_mem_ofLine {line : Text} {ts : List Token} (h : ofLine line = .ok ts)
    {w : Text} (hw : .word w ∈ ts) : w ≠ [] := by
  obtain ⟨es, -, rfl⟩ := Element.exists_tokens_of_ofLine h
  exact Element.ne_nil_of_mem_tokens hw

/-- A line has exactly one list of elements with a remainder, and what it gives is
told by them: the tokens of the elements if nothing remains, and otherwise the
failure that the remainder shows. -/
theorem Token.exists_elements_ofLine_iff (line : Text) :
    ∃ (es : List Element) (rest : Text),
      (∀ es' rest', Element.cutting.IsCut line es' rest' ↔ es' = es ∧ rest' = rest) ∧
        (∀ ts, ofLine line = .ok ts ↔ rest = [] ∧ ts = Element.tokens es) ∧
        (ofLine line = .error .trailingBackslash ↔ rest = ['\\']) ∧
        (ofLine line = .error .unfinishedQuote ↔ Element.Unclosed rest) := by
  obtain ⟨es, rest, hcut⟩ := Element.cutting.exists_isCut_iff line
  have h : Element.cutting.IsCut line es rest := (hcut es rest).2 ⟨rfl, rfl⟩
  have hline := Element.ofLine_of_isCut h
  refine ⟨es, rest, hcut, ?_, ?_, ?_⟩
  · intro ts
    rw [hline, ← Element.ending_eq_ok_iff]
    cases Element.ending rest <;> simp [Except.map, eq_comm]
  · rw [hline, ← Element.ending_eq_trailingBackslash_iff]
    cases Element.ending rest <;> simp [Except.map]
  · rw [hline, ← Element.ending_eq_unfinishedQuote_iff h.stops]
    cases Element.ending rest <;> simp [Except.map]

/-- A backslash at the end of a line belongs to the quotes that are open there. -/
example : Token.ofLine "\"a\\".toList = .error .unfinishedQuote := by rfl

end CommandShell
