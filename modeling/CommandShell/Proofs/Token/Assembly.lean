import CommandShell.Proofs.Token.Element

/-!
# The tokens that elements make

Parts of a word that touch make one word, and a blank or an operator ends it; an empty
word is no token. `Element.tokens` reads the tokens off the elements, from the right.
Parts fit one behind the other whatever they are, and only a digit at the end looks at
what is behind it (`fitsAll_of_isPart`).
-/

namespace CommandShell

namespace Element

/-- What an element adds to the word that it belongs to. -/
def value : Element → Text
  | .escaped c => [c]
  | .single b => b
  | .double b => BodyItem.valueAll b
  | .plain c => [c]
  | .blank _ => []
  | .operator _ => []

/-- The element belongs to a word. -/
def IsPart (e : Element) : Prop := e.kind ≠ .blank ∧ e.kind ≠ .operator

theorem isPart_or (e : Element) : (∃ c, e = .blank c) ∨ (∃ o, e = .operator o) ∨ e.IsPart := by
  cases e with
  | blank c => exact Or.inl ⟨c, rfl⟩
  | operator o => exact Or.inr (Or.inl ⟨o, rfl⟩)
  | _ => exact Or.inr (Or.inr ⟨nofun, nofun⟩)

/-- The tokens behind a word, which is no token if it is empty. -/
def afterWord (w : Text) (ts : List Token) : List Token :=
  if w = [] then ts else .word w :: ts

/-- The word that elements begin with, and the tokens behind it. -/
def wordAndTokens : List Element → Text × List Token
  | [] => ([], [])
  | .blank _ :: es => ([], afterWord (wordAndTokens es).1 (wordAndTokens es).2)
  | .operator o :: es =>
    ([], .operator o :: afterWord (wordAndTokens es).1 (wordAndTokens es).2)
  | e :: es => (e.value ++ (wordAndTokens es).1, (wordAndTokens es).2)

/-- The tokens that elements make. -/
def tokens (es : List Element) : List Token :=
  afterWord (wordAndTokens es).1 (wordAndTokens es).2

theorem wordAndTokens_cons_of_isPart {e : Element} (h : e.IsPart) (es : List Element) :
    wordAndTokens (e :: es) = (e.value ++ (wordAndTokens es).1, (wordAndTokens es).2) := by
  cases e with
  | blank c => exact absurd rfl h.1
  | operator o => exact absurd rfl h.2
  | _ => rfl

theorem wordAndTokens_blank_cons (c : Char) (es : List Element) :
    wordAndTokens (.blank c :: es) = ([], tokens es) := rfl

theorem wordAndTokens_operator_cons (o : Operator) (es : List Element) :
    wordAndTokens (.operator o :: es) = ([], .operator o :: tokens es) := rfl

theorem wordAndTokens_append_of_isPart {es : List Element} (h : ∀ e ∈ es, e.IsPart)
    (fs : List Element) :
    wordAndTokens (es ++ fs) =
      (es.flatMap value ++ (wordAndTokens fs).1, (wordAndTokens fs).2) := by
  induction es with
  | nil => rfl
  | cons e es ih =>
      have hes := ih fun x hx => h x (List.mem_cons_of_mem e hx)
      rw [List.cons_append, wordAndTokens_cons_of_isPart (h e List.mem_cons_self), hes,
        List.flatMap_cons, List.append_assoc]

theorem tokens_blank_cons (c : Char) (es : List Element) :
    tokens (.blank c :: es) = tokens es := rfl

theorem tokens_operator_cons (o : Operator) (es : List Element) :
    tokens (.operator o :: es) = .operator o :: tokens es := rfl

theorem tokens_map_blank_append (g : Text) (es : List Element) :
    tokens (g.map .blank ++ es) = tokens es := by
  induction g with
  | nil => rfl
  | cons c g ih => rw [List.map_cons, List.cons_append, tokens_blank_cons, ih]

/-- A word ends where no part of it follows. -/
theorem tokens_append_of_isPart {es fs : List Element} (h : ∀ e ∈ es, e.IsPart)
    (hvalue : es.flatMap value ≠ []) (hfs : (wordAndTokens fs).1 = []) :
    tokens (es ++ fs) = .word (es.flatMap value) :: tokens fs := by
  rw [tokens, tokens, wordAndTokens_append_of_isPart h, hfs, List.append_nil, afterWord,
    if_neg hvalue, afterWord, if_pos rfl]

theorem mem_afterWord {t : Token} {w : Text} {ts : List Token} (h : t ∈ afterWord w ts) :
    (t = .word w ∧ w ≠ []) ∨ t ∈ ts := by
  unfold afterWord at h
  split at h
  · exact Or.inr h
  · rename_i hw
    rcases List.mem_cons.1 h with rfl | h
    · exact Or.inl ⟨rfl, hw⟩
    · exact Or.inr h

theorem ne_nil_of_mem_wordAndTokens {es : List Element} {w : Text}
    (h : .word w ∈ (wordAndTokens es).2) : w ≠ [] := by
  induction es with
  | nil => simp [wordAndTokens] at h
  | cons e es ih =>
      have htokens : Token.word w ∈ tokens es → w ≠ [] := by
        intro hw
        rcases mem_afterWord hw with ⟨heq, hne⟩ | hw
        · exact Token.word.inj heq ▸ hne
        · exact ih hw
      rcases e.isPart_or with ⟨c, rfl⟩ | ⟨o, rfl⟩ | hpart
      · exact htokens h
      · rw [wordAndTokens_operator_cons] at h
        exact htokens (by simpa using h)
      · rw [wordAndTokens_cons_of_isPart hpart] at h
        exact ih h

/-- No token is an empty word. -/
theorem ne_nil_of_mem_tokens {es : List Element} {w : Text} (h : .word w ∈ tokens es) :
    w ≠ [] :=
  @ne_nil_of_mem_wordAndTokens (.blank ' ' :: es) w h

/-- An element at the front of a word does not begin with an angle bracket. -/
theorem head?_written_append_ne {e : Element} (h : e.IsPart) {t : Text} (hfits : e.Fits t)
    (u : Text) : (e.written ++ u).head? ≠ some '>' := by
  cases e with
  | blank c => exact absurd rfl h.1
  | operator o => exact absurd rfl h.2
  | plain c =>
      intro hc
      obtain ⟨⟨-, -, -, -, hangle⟩, -⟩ := hfits
      exact hangle (Option.some.inj hc)
  | _ => simp [written]

/-- Parts of a word fit one behind the other, unless the last of them is a digit that
an operator takes. -/
theorem fitsAll_of_isPart {es : List Element} {rest : Text} (h : ∀ e ∈ es, e.IsPart)
    (hfits : ∀ e ∈ es, e.Fits [])
    (hlast : rest.head? = some '>' → ∀ c, es.getLast? = some (.plain c) → ¬ IsDigit c) :
    cutting.FitsAll es rest := by
  induction es with
  | nil => trivial
  | cons e es ih =>
      have he := hfits e List.mem_cons_self
      cases es with
      | nil =>
          refine ⟨?_, trivial⟩
          by_cases hrest : rest.head? = some '>'
          · have hdigit := hlast hrest
            cases e with
            | blank c => exact he
            | operator o => exact absurd rfl (h _ List.mem_cons_self).2
            | escaped c => exact trivial
            | single b => exact he
            | double b => exact BodyItem.fitsAll_quote_cons he rest
            | plain c => exact ⟨he.1, fun hc => absurd hc (hdigit c rfl)⟩
          · exact fits_of_head?_ne he hrest
      | cons f fs =>
          have hnext : (cutting.writtenAll (f :: fs) ++ rest).head? ≠ some '>' := by
            rw [Cutting.writtenAll_cons, List.append_assoc]
            have hf : f ∈ e :: f :: fs := List.mem_cons_of_mem e List.mem_cons_self
            exact head?_written_append_ne (h f hf) (hfits f hf) _
          refine ⟨fits_of_head?_ne he hnext, ih ?_ ?_ ?_⟩
          · intro x hx
            exact h x (List.mem_cons_of_mem e hx)
          · intro x hx
            exact hfits x (List.mem_cons_of_mem e hx)
          · intro hrest c hc
            exact hlast hrest c (by rw [List.getLast?_cons_cons, hc])

theorem fitsAll_map_blank {g : Text} (h : ∀ c ∈ g, Token.isBlank c = true) (rest : Text) :
    cutting.FitsAll (g.map .blank) rest := by
  induction g with
  | nil => trivial
  | cons c g ih =>
      exact ⟨h c List.mem_cons_self, ih fun x hx => h x (List.mem_cons_of_mem c hx)⟩

end Element

end CommandShell
