import CommandShell.Proofs.Token.Segment
import Mathlib.Data.List.Chain

/-!
# Writing tokens on a line

A word is written as segments, in any of the quoting styles. A rendering writes tokens
one behind the other with blanks between them, where a word and an operator may also
touch, unless the operator would take the last digit of the word with it.

The main statement is `exists_tokens_eq_iff_and_ofLine_written`: every rendering is
read back as the tokens that it writes, and the token lists with a rendering are those
without empty words.
-/

namespace CommandShell

/-- A word, as it is written. -/
structure WrittenWord where
  segments : List Segment
  legal : ∀ s ∈ segments, s.Legal
  value_ne_nil : segments.flatMap Segment.value ≠ []

namespace WrittenWord

def written (w : WrittenWord) : Text := w.segments.flatMap Segment.written

def value (w : WrittenWord) : Text := w.segments.flatMap Segment.value

def elements (w : WrittenWord) : List Element := w.segments.flatMap Segment.elements

/-- The last character that is written is a bare `1` or `2`. -/
def EndsInBareDigit (w : WrittenWord) : Prop :=
  ∃ front t c back, w.segments = front ++ .bare (t ++ [c]) :: back ∧
    Element.IsDigit c ∧ ∀ s ∈ back, s.written = []

theorem writtenAll_elements (w : WrittenWord) :
    Element.cutting.writtenAll w.elements = w.written := by
  unfold elements written
  induction w.segments with
  | nil => rfl
  | cons s ss ih =>
      rw [List.flatMap_cons, Cutting.writtenAll_append, ih, s.writtenAll_elements,
        List.flatMap_cons]

theorem flatMap_value_elements (w : WrittenWord) :
    w.elements.flatMap Element.value = w.value := by
  unfold elements value
  induction w.segments with
  | nil => rfl
  | cons s ss ih =>
      rw [List.flatMap_cons, List.flatMap_append, ih, s.flatMap_value_elements,
        List.flatMap_cons]

theorem isPart_of_mem_elements {w : WrittenWord} {e : Element} (h : e ∈ w.elements) :
    e.IsPart := by
  obtain ⟨s, -, hs⟩ := List.mem_flatMap.1 h
  exact Segment.isPart_of_mem_elements hs

theorem fits_nil_of_mem_elements {w : WrittenWord} {e : Element} (h : e ∈ w.elements) :
    e.Fits [] := by
  obtain ⟨s, hs, he⟩ := List.mem_flatMap.1 h
  exact Segment.fits_nil_of_mem_elements (w.legal s hs) he

/-- A word that ends with a plain digit is written so. -/
theorem endsInBareDigit_of_getLast? {w : WrittenWord} {c : Char}
    (h : w.elements.getLast? = some (.plain c)) (hc : Element.IsDigit c) :
    w.EndsInBareDigit := by
  unfold elements at h
  rw [List.getLast?_flatMap] at h
  obtain ⟨back, s, front, hsplit, hs, hback⟩ := List.findSome?_eq_some_iff.1 h
  have hsegments : w.segments = front.reverse ++ s :: back.reverse := by
    rw [List.reverse_eq_iff.1 hsplit]
    simp
  cases s with
  | bare t =>
      obtain ⟨u, hu⟩ := List.getLast?_eq_some_iff.1 hs
      obtain ⟨v, x, rfl, -, hx⟩ := List.map_eq_append_iff.1 hu
      obtain ⟨d, rfl, hd⟩ := List.map_eq_singleton_iff.1 hx
      obtain rfl : d = c := by simpa using hd
      refine ⟨front.reverse, v, d, back.reverse, hsegments, hc, ?_⟩
      intro s hs
      have hnil := List.getLast?_eq_none_iff.1 (hback s (List.mem_reverse.1 hs))
      rw [← s.writtenAll_elements, hnil]
      rfl
  | _ => simp [Segment.elements] at hs

/-- A word fits in front of anything but an angle bracket that takes its last digit. -/
theorem fitsAll_elements (w : WrittenWord) {rest : Text}
    (h : rest.head? = some '>' → ¬ w.EndsInBareDigit) :
    Element.cutting.FitsAll w.elements rest := by
  apply Element.fitsAll_of_isPart
  · intro e he
    exact isPart_of_mem_elements he
  · intro e he
    exact fits_nil_of_mem_elements he
  · intro hrest c hlast hc
    exact h hrest (endsInBareDigit_of_getLast? hlast hc)

theorem head?_written_append_ne (w : WrittenWord) (t : Text) :
    (w.written ++ t).head? ≠ some '>' := by
  rw [← w.writtenAll_elements]
  have hvalue : w.elements.flatMap Element.value ≠ [] := by
    rw [w.flatMap_value_elements]
    exact w.value_ne_nil
  cases hw : w.elements with
  | nil => exact absurd (by rw [hw]; rfl) hvalue
  | cons e es =>
      have he : e ∈ w.elements := hw ▸ List.mem_cons_self
      rw [Cutting.writtenAll_cons, List.append_assoc]
      exact Element.head?_written_append_ne (isPart_of_mem_elements he)
        (fits_nil_of_mem_elements he) _

/-- The word with a backslash in front of each of its characters. -/
def ofText (w : Text) (h : w ≠ []) : WrittenWord where
  segments := w.map .escaped
  legal := by
    intro s hs
    obtain ⟨c, -, rfl⟩ := List.mem_map.1 hs
    exact trivial
  value_ne_nil := by
    cases w with
    | nil => exact absurd rfl h
    | cons c w => simp [Segment.value]

theorem value_ofText (w : Text) (h : w ≠ []) : (ofText w h).value = w := by
  simp only [value, ofText, List.flatMap_map, Segment.value]
  exact List.flatMap_singleton' w

/-- A word that means nothing but itself, as it is. -/
def bare (w : Text) (h : w ≠ []) (hplain : ∀ c ∈ w, Element.IsPlain c) : WrittenWord where
  segments := [.bare w]
  legal := by
    intro s hs
    obtain rfl := List.mem_singleton.1 hs
    exact hplain
  value_ne_nil := by
    rw [List.flatMap_cons, List.flatMap_nil, List.append_nil]
    exact h

theorem value_bare (w : Text) (h : w ≠ []) (hplain : ∀ c ∈ w, Element.IsPlain c) :
    (bare w h hplain).value = w := List.append_nil w

theorem written_bare (w : Text) (h : w ≠ []) (hplain : ∀ c ∈ w, Element.IsPlain c) :
    (bare w h hplain).written = w := List.append_nil w

end WrittenWord

/-- A token, as it is written. -/
inductive WrittenToken where
  | word (w : WrittenWord)
  | operator (o : Operator)

namespace WrittenToken

def written : WrittenToken → Text
  | .word w => w.written
  | .operator o => o.text

def token : WrittenToken → Token
  | .word w => .word w.value
  | .operator o => .operator o

def elements : WrittenToken → List Element
  | .word w => w.elements
  | .operator o => [.operator o]

/-- No blank is needed between the tokens. -/
def MayTouch : WrittenToken → WrittenToken → Prop
  | .word w, .operator o => o.selector = none → ¬ w.EndsInBareDigit
  | .operator _, .word _ => True
  | .word _, .word _ => False
  | .operator _, .operator _ => False

theorem writtenAll_elements (t : WrittenToken) :
    Element.cutting.writtenAll t.elements = t.written := by
  cases t with
  | word w => exact w.writtenAll_elements
  | operator o => exact List.append_nil _

/-- Only an operator without a digit begins with an angle bracket. -/
theorem selector_eq_none_of_head? {t : WrittenToken} {u : Text}
    (h : (t.written ++ u).head? = some '>') : ∃ o, t = .operator o ∧ o.selector = none := by
  cases t with
  | word w => exact absurd h (w.head?_written_append_ne u)
  | operator o =>
      refine ⟨o, rfl, ?_⟩
      rcases o with ⟨_ | ⟨_ | _⟩, m⟩
      · rfl
      · exact absurd h (by simp [written, Operator.text, Stream.digit])
      · exact absurd h (by simp [written, Operator.text, Stream.digit])

end WrittenToken

/-- Tokens on a line, each with the blanks behind it. -/
structure Rendering where
  lead : Text
  items : List (WrittenToken × Text)
  isBlank_lead : ∀ c ∈ lead, Token.isBlank c = true
  isBlank_items : ∀ i ∈ items, ∀ c ∈ i.2, Token.isBlank c = true
  separated : items.IsChain fun i j => i.2 ≠ [] ∨ i.1.MayTouch j.1

namespace Rendering

def itemWritten (i : WrittenToken × Text) : Text := i.1.written ++ i.2

def itemElements (i : WrittenToken × Text) : List Element := i.1.elements ++ i.2.map .blank

def written (r : Rendering) : Text := r.lead ++ r.items.flatMap itemWritten

def tokens (r : Rendering) : List Token := r.items.map fun i => i.1.token

def elements (r : Rendering) : List Element :=
  r.lead.map .blank ++ r.items.flatMap itemElements

theorem writtenAll_map_blank (g : Text) : Element.cutting.writtenAll (g.map .blank) = g := by
  induction g with
  | nil => rfl
  | cons c g ih => exact congrArg (c :: ·) ih

theorem writtenAll_flatMap_itemElements (is : List (WrittenToken × Text)) :
    Element.cutting.writtenAll (is.flatMap itemElements) = is.flatMap itemWritten := by
  induction is with
  | nil => rfl
  | cons i is ih =>
      rw [List.flatMap_cons, Cutting.writtenAll_append, ih, itemElements,
        Cutting.writtenAll_append, WrittenToken.writtenAll_elements, writtenAll_map_blank]
      rfl

theorem writtenAll_elements (r : Rendering) :
    Element.cutting.writtenAll r.elements = r.written := by
  rw [elements, Cutting.writtenAll_append, writtenAll_map_blank,
    writtenAll_flatMap_itemElements]
  rfl

/-- An angle bracket behind an item is that of an operator which touches a word. -/
theorem exists_word_of_head? {i : WrittenToken × Text} {is : List (WrittenToken × Text)}
    (hblank : ∀ c ∈ i.2, Token.isBlank c = true)
    (hsep : (i :: is).IsChain fun i j => i.2 ≠ [] ∨ i.1.MayTouch j.1)
    (h : (i.2 ++ is.flatMap itemWritten).head? = some '>') :
    ∃ w, i.1 = .word w ∧ ¬ w.EndsInBareDigit := by
  rcases i with ⟨t, _ | ⟨c, g⟩⟩
  · cases is with
    | nil => exact absurd h (by simp)
    | cons j is =>
        rw [List.nil_append, List.flatMap_cons, itemWritten, List.append_assoc] at h
        obtain ⟨o, hj, ho⟩ := WrittenToken.selector_eq_none_of_head? h
        have htouch : t.MayTouch j.1 := by
          simpa using (List.isChain_cons_cons.1 hsep).1
        rw [hj] at htouch
        cases t with
        | word w => exact ⟨w, rfl, htouch ho⟩
        | operator o' => exact htouch.elim
  · obtain rfl : c = '>' := by simpa using h
    exact absurd (hblank '>' List.mem_cons_self) (by decide)

theorem fitsAll_flatMap_itemElements {is : List (WrittenToken × Text)}
    (hblank : ∀ i ∈ is, ∀ c ∈ i.2, Token.isBlank c = true)
    (hsep : is.IsChain fun i j => i.2 ≠ [] ∨ i.1.MayTouch j.1) :
    Element.cutting.FitsAll (is.flatMap itemElements) [] := by
  induction is with
  | nil => trivial
  | cons i is ih =>
      have hi := hblank i List.mem_cons_self
      have hword := exists_word_of_head? hi hsep
      have hbehind : Element.cutting.writtenAll (i.2.map .blank) ++
          (Element.cutting.writtenAll (is.flatMap itemElements) ++ []) =
            i.2 ++ is.flatMap itemWritten := by
        rw [writtenAll_map_blank, writtenAll_flatMap_itemElements, List.append_nil]
      rw [List.flatMap_cons, Cutting.fitsAll_append, itemElements, Cutting.fitsAll_append,
        hbehind]
      refine ⟨⟨?_, Element.fitsAll_map_blank hi _⟩,
        ih (fun j hj => hblank j (List.mem_cons_of_mem i hj)) hsep.tail⟩
      rcases i with ⟨w | o, g⟩
      · apply w.fitsAll_elements
        intro h
        obtain ⟨w', hw, hdigit⟩ := hword h
        cases hw
        exact hdigit
      · refine ⟨?_, trivial⟩
        intro _ h
        obtain ⟨w', hw, -⟩ := hword h
        cases hw

theorem fitsAll_elements (r : Rendering) : Element.cutting.FitsAll r.elements [] := by
  rw [elements, Cutting.fitsAll_append]
  exact ⟨Element.fitsAll_map_blank r.isBlank_lead _,
    fitsAll_flatMap_itemElements r.isBlank_items r.separated⟩

/-- No part of a word is behind a word. -/
theorem wordAndTokens_behind_word {w : WrittenWord} {g : Text}
    {is : List (WrittenToken × Text)}
    (hsep : ((.word w, g) :: is).IsChain fun i j => i.2 ≠ [] ∨ i.1.MayTouch j.1) :
    (Element.wordAndTokens (g.map .blank ++ is.flatMap itemElements)).1 = [] := by
  cases g with
  | cons c g => rfl
  | nil =>
      cases is with
      | nil => rfl
      | cons j is =>
          have htouch : (WrittenToken.word w).MayTouch j.1 := by
            simpa using (List.isChain_cons_cons.1 hsep).1
          rcases j with ⟨w' | o, g'⟩
          · exact htouch.elim
          · rfl

theorem tokens_flatMap_itemElements {is : List (WrittenToken × Text)}
    (hsep : is.IsChain fun i j => i.2 ≠ [] ∨ i.1.MayTouch j.1) :
    Element.tokens (is.flatMap itemElements) = is.map fun i => i.1.token := by
  induction is with
  | nil => rfl
  | cons i is ih =>
      have his := ih hsep.tail
      rcases i with ⟨w | o, g⟩
      · have hvalue : w.elements.flatMap Element.value ≠ [] := by
          rw [w.flatMap_value_elements]
          exact w.value_ne_nil
        rw [List.flatMap_cons, itemElements, List.append_assoc]
        change Element.tokens (w.elements ++ (g.map .blank ++ is.flatMap itemElements)) = _
        rw [Element.tokens_append_of_isPart (fun e he => WrittenWord.isPart_of_mem_elements he)
          hvalue (wordAndTokens_behind_word hsep), w.flatMap_value_elements,
          Element.tokens_map_blank_append, his]
        rfl
      · rw [List.flatMap_cons, itemElements, List.append_assoc]
        change Element.tokens (.operator o :: (g.map .blank ++ is.flatMap itemElements)) = _
        rw [Element.tokens_operator_cons, Element.tokens_map_blank_append, his]
        rfl

theorem tokens_elements (r : Rendering) : Element.tokens r.elements = r.tokens := by
  rw [elements, Element.tokens_map_blank_append, tokens_flatMap_itemElements r.separated]
  rfl

/-- A rendering is read back. -/
theorem ofLine_written (r : Rendering) : Token.ofLine r.written = .ok r.tokens := by
  have hcut : Element.cutting.IsCut r.written r.elements [] := by
    constructor
    · rw [r.writtenAll_elements, List.append_nil]
    · exact r.fitsAll_elements
    · exact Element.stops_nil
  rw [Element.ofLine_of_isCut hcut, r.tokens_elements]
  rfl

/-- Written tokens with one space behind each but the last. -/
def spacedItems : List WrittenToken → List (WrittenToken × Text)
  | [] => []
  | [t] => [(t, [])]
  | t :: u :: ts => (t, [' ']) :: spacedItems (u :: ts)

theorem isBlank_of_mem_spacedItems (ts : List WrittenToken) :
    ∀ i ∈ spacedItems ts, ∀ c ∈ i.2, Token.isBlank c = true := by
  induction ts with
  | nil => simp [spacedItems]
  | cons t ts ih =>
      cases ts with
      | nil => simp [spacedItems]
      | cons u ts =>
          intro i hi
          rcases List.mem_cons.1 hi with rfl | hi
          · intro c hc
            obtain rfl := List.mem_singleton.1 hc
            rfl
          · exact ih i hi

theorem isChain_spacedItems (ts : List WrittenToken) :
    (spacedItems ts).IsChain fun i j => i.2 ≠ [] ∨ i.1.MayTouch j.1 := by
  induction ts with
  | nil => exact .nil
  | cons t ts ih =>
      cases ts with
      | nil => exact .singleton _
      | cons u ts =>
          cases ts with
          | nil => exact .cons_cons (Or.inl (List.cons_ne_nil _ _)) ih
          | cons v ts => exact .cons_cons (Or.inl (List.cons_ne_nil _ _)) ih

/-- Tokens joined by single spaces. -/
def spaced (ts : List WrittenToken) : Rendering where
  lead := []
  items := spacedItems ts
  isBlank_lead := by simp
  isBlank_items := isBlank_of_mem_spacedItems ts
  separated := isChain_spacedItems ts

theorem written_spaced (ts : List WrittenToken) :
    (spaced ts).written = Text.join [' '] (ts.map WrittenToken.written) := by
  change (spacedItems ts).flatMap itemWritten = _
  induction ts with
  | nil => rfl
  | cons t ts ih =>
      cases ts with
      | nil => simp [spacedItems, itemWritten]
      | cons u ts =>
          rw [spacedItems, List.flatMap_cons, ih]
          rfl

theorem tokens_spaced (ts : List WrittenToken) :
    (spaced ts).tokens = ts.map WrittenToken.token := by
  change (spacedItems ts).map (fun i => i.1.token) = _
  induction ts with
  | nil => rfl
  | cons t ts ih =>
      cases ts with
      | nil => rfl
      | cons u ts =>
          rw [spacedItems, List.map_cons, ih]
          rfl

theorem ne_nil_of_mem_tokens {r : Rendering} {w : Text} (h : .word w ∈ r.tokens) : w ≠ [] := by
  obtain ⟨⟨t, g⟩, -, ht⟩ := List.mem_map.1 h
  cases t with
  | word v =>
      obtain rfl : v.value = w := Token.word.inj ht
      exact v.value_ne_nil
  | operator o => cases ht

theorem exists_map_token {ts : List Token} (h : ∀ w, .word w ∈ ts → w ≠ []) :
    ∃ us : List WrittenToken, us.map WrittenToken.token = ts := by
  induction ts with
  | nil => exact ⟨[], rfl⟩
  | cons t ts ih =>
      obtain ⟨us, hus⟩ := ih fun w hw => h w (List.mem_cons_of_mem t hw)
      cases t with
      | operator o => exact ⟨.operator o :: us, congrArg (Token.operator o :: ·) hus⟩
      | word w =>
          have hw : w ≠ [] := h w List.mem_cons_self
          refine ⟨.word (WrittenWord.ofText w hw) :: us, ?_⟩
          rw [List.map_cons, hus, WrittenToken.token, WrittenWord.value_ofText]

/-- Tokens can be written on a line if none of them is an empty word, and however they
are written, reading the line gives them back. -/
theorem exists_tokens_eq_iff_and_ofLine_written :
    (∀ ts : List Token, (∃ r : Rendering, r.tokens = ts) ↔ ∀ w, .word w ∈ ts → w ≠ []) ∧
      ∀ r : Rendering, Token.ofLine r.written = .ok r.tokens := by
  refine ⟨?_, ofLine_written⟩
  intro ts
  constructor
  · rintro ⟨r, rfl⟩ w hw
    exact ne_nil_of_mem_tokens hw
  · intro h
    obtain ⟨us, rfl⟩ := exists_map_token h
    exact ⟨spaced us, tokens_spaced us⟩

end Rendering

end CommandShell
