import CommandShell.Proofs.Token.QuotedBody
import CommandShell.Token.Lexer

/-!
# The lexical elements of a line

A line is cut into blanks, operators, escape pairs, quoted segments and plain
characters. An operator takes the longest form that is written, with a digit in
front of it, so a plain `1` or `2` has no angle bracket behind it and a truncating
operator has none either.

`Element.cutting` has the laws of a cutting, so a line has exactly one list of
elements. It stops at the end, at a lone backslash, and at a quote that is not
closed.
-/

namespace CommandShell

inductive Element where
  | blank (c : Char)
  | operator (o : Operator)
  /-- A backslash with the character that it quotes. -/
  | escaped (c : Char)
  | single (body : Text)
  | double (body : List BodyItem)
  | plain (c : Char)
  deriving DecidableEq, Repr

namespace Element

/-- The character has no meaning of its own outside quotes. -/
def IsPlain (c : Char) : Prop :=
  Token.isBlank c = false ∧ c ≠ '"' ∧ c ≠ '\'' ∧ c ≠ '\\' ∧ c ≠ '>'

/-- The character selects a stream if an angle bracket is behind it. -/
def IsDigit (c : Char) : Prop := c = '1' ∨ c = '2'

instance (c : Char) : Decidable (IsDigit c) := inferInstanceAs (Decidable (_ ∨ _))

def written : Element → Text
  | .blank c => [c]
  | .operator o => o.text
  | .escaped c => ['\\', c]
  | .single b => '\'' :: b ++ ['\'']
  | .double b => '"' :: BodyItem.cutting.writtenAll b ++ ['"']
  | .plain c => [c]

def Fits : Element → Text → Prop
  | .blank c, _ => Token.isBlank c = true
  | .operator o, t => o.mode = .truncate → t.head? ≠ some '>'
  | .escaped _, _ => True
  | .single b, _ => '\'' ∉ b
  | .double b, t => BodyItem.cutting.FitsAll b ('"' :: t)
  | .plain c, t => IsPlain c ∧ (IsDigit c → t.head? ≠ some '>')

/-- Only an angle bracket behind it can keep an element from fitting. -/
theorem fits_of_head? {e : Element} {t u : Text} (h : e.Fits t)
    (hu : u.head? = some '>' → t.head? = some '>') : e.Fits u := by
  cases e with
  | blank c => exact h
  | operator o => exact fun hmode hangle => h hmode (hu hangle)
  | escaped c => exact trivial
  | single b => exact h
  | double b => exact BodyItem.fitsAll_quote_cons h u
  | plain c => exact ⟨h.1, fun hdigit hangle => h.2 hdigit (hu hangle)⟩

theorem fits_of_head?_ne {e : Element} {t u : Text} (h : e.Fits t)
    (hu : u.head? ≠ some '>') : e.Fits u :=
  fits_of_head? h fun hangle => absurd hangle hu

/-- A quote is opened at the start and not closed up to the end. -/
def Unclosed (t : Text) : Prop :=
  (∃ b, t = '\'' :: b ∧ '\'' ∉ b) ∨
    ∃ b, t = '"' :: BodyItem.cutting.writtenAll b ∧ BodyItem.cutting.FitsAll b []

def Stops (t : Text) : Prop := t = [] ∨ t = ['\\'] ∨ Unclosed t

theorem stops_nil : Stops [] := .inl rfl

theorem stops_of_unclosed {t : Text} (h : Unclosed t) : Stops t := .inr (.inr h)

/-- The kinds of elements. -/
inductive Kind where
  | blank
  | operator
  | escaped
  | single
  | double
  | plain
  deriving DecidableEq, Repr

def kind : Element → Kind
  | .blank _ => .blank
  | .operator _ => .operator
  | .escaped _ => .escaped
  | .single _ => .single
  | .double _ => .double
  | .plain _ => .plain

/-- The kind of the element that a text starts with, told by two characters. -/
def kindAt : Text → Kind
  | [] => .plain
  | c :: t =>
    if Token.isBlank c then .blank
    else if c = '\\' then .escaped
    else if c = '\'' then .single
    else if c = '"' then .double
    else if c = '>' ∨ (IsDigit c ∧ t.head? = some '>') then .operator
    else .plain

theorem kindAt_written_append {x : Element} {t : Text} (h : x.Fits t) :
    kindAt (x.written ++ t) = x.kind := by
  cases x with
  | blank c => exact if_pos h
  | operator o => rcases o with ⟨_ | ⟨_ | _⟩, _ | _⟩ <;> rfl
  | escaped c => rfl
  | single b => rfl
  | double b => rfl
  | plain c =>
      obtain ⟨⟨hblank, hdouble, hsingle, hescape, hangle⟩, hdigit⟩ := h
      have hoperator : ¬ (c = '>' ∨ (IsDigit c ∧ t.head? = some '>')) := by
        rintro (hc | ⟨hc, ht⟩)
        · exact hangle hc
        · exact hdigit hc ht
      simp [written, kindAt, kind, hblank, hdouble, hsingle, hescape, hoperator]

/-- The longest form is the only one that fits. -/
theorem mode_eq_of_angles_append {m n : WriteMode} {t u : Text}
    (hm : m = .truncate → t.head? ≠ some '>') (hn : n = .truncate → u.head? ≠ some '>')
    (h : m.angles ++ t = n.angles ++ u) : m = n := by
  cases m <;> cases n <;> simp only [WriteMode.angles, List.cons_append, List.nil_append,
    List.cons.injEq, true_and] at h
  · rfl
  · exact absurd (by rw [h]; rfl) (hm rfl)
  · exact absurd (by rw [← h]; rfl) (hn rfl)
  · rfl

theorem operator_eq_of_text_append {o p : Operator} {t u : Text}
    (ho : o.mode = .truncate → t.head? ≠ some '>')
    (hp : p.mode = .truncate → u.head? ≠ some '>')
    (h : o.text ++ t = p.text ++ u) : o = p := by
  rcases o with ⟨s, m⟩
  rcases p with ⟨r, n⟩
  have hselector : s = r := by
    have hhead := congrArg List.head? h
    rcases s with _ | ⟨_ | _⟩ <;> rcases r with _ | ⟨_ | _⟩ <;> cases m <;> cases n <;>
      simp_all [Operator.text, Stream.digit, WriteMode.angles]
  subst hselector
  simp only [Operator.text, List.append_assoc] at h
  exact congrArg (Operator.mk s) (mode_eq_of_angles_append ho hp (List.append_cancel_left h))

theorem single_eq_of_append {b b' t u : Text} (hb : '\'' ∉ b) (hb' : '\'' ∉ b')
    (h : b ++ '\'' :: t = b' ++ '\'' :: u) : b = b' := by
  induction b generalizing b' with
  | nil =>
      cases b' with
      | nil => rfl
      | cons c b' =>
          simp only [List.nil_append, List.cons_append, List.cons.injEq] at h
          exact absurd (h.1 ▸ List.mem_cons_self) hb'
  | cons c b ih =>
      cases b' with
      | nil =>
          simp only [List.nil_append, List.cons_append, List.cons.injEq] at h
          exact absurd (h.1 ▸ List.mem_cons_self) hb
      | cons d b' =>
          simp only [List.cons_append, List.cons.injEq] at h
          rw [h.1, ih (List.not_mem_of_not_mem_cons hb) (List.not_mem_of_not_mem_cons hb') h.2]

theorem eq_of_fits {x y : Element} {t u : Text} (hx : x.Fits t) (hy : y.Fits u)
    (h : x.written ++ t = y.written ++ u) : x = y := by
  have hkind : x.kind = y.kind := by
    rw [← kindAt_written_append hx, h, kindAt_written_append hy]
  -- Two characters tell the kind, so only elements of one kind are left.
  cases x <;> cases y <;> simp only [kind, reduceCtorEq] at hkind
  case blank.blank c d => exact congrArg blank (List.cons.inj h).1
  case operator.operator o p => exact congrArg operator (operator_eq_of_text_append hx hy h)
  case escaped.escaped c d => exact congrArg escaped (List.cons.inj (List.cons.inj h).2).1
  case single.single b b' =>
      simp only [written, List.cons_append, List.append_assoc, List.nil_append,
        List.cons.injEq, true_and] at h
      exact congrArg single (single_eq_of_append hx hy h)
  case double.double b b' =>
      simp only [written, List.cons_append, List.append_assoc, List.nil_append,
        List.cons.injEq, true_and] at h
      have hstop (v : Text) : BodyItem.Stops ('"' :: v) := by simp [BodyItem.Stops]
      exact congrArg double
        (BodyItem.cutting.eq_of_fitsAll hx hy (hstop t) (hstop u) h).1
  case plain.plain c d => exact congrArg plain (List.cons.inj h).1

theorem written_ne_nil (x : Element) : x.written ≠ [] := by
  cases x with
  | operator o => exact o.text_ne_nil
  | _ => simp [written]

/-- An angle bracket always begins an operator, here behind a selector or none. -/
theorem exists_mode (t : Text) :
    ∃ m u, '>' :: t = WriteMode.angles m ++ u ∧ (m = .truncate → u.head? ≠ some '>') := by
  by_cases h : t.head? = some '>'
  · obtain ⟨u, rfl⟩ := List.head?_eq_some_iff.1 h
    exact ⟨.append, u, rfl, nofun⟩
  · exact ⟨.truncate, t, rfl, fun _ => h⟩

theorem stops_or_fits_of_single (t : Text) :
    Stops ('\'' :: t) ∨ ∃ x u, '\'' :: t = written x ++ u ∧ x.Fits u := by
  by_cases h : '\'' ∈ t
  · obtain ⟨b, u, rfl, hb⟩ := List.eq_append_cons_of_mem h
    exact Or.inr ⟨.single b, u, by simp [written], hb⟩
  · have hopen : Unclosed ('\'' :: t) := .inl ⟨t, rfl, h⟩
    exact Or.inl (stops_of_unclosed hopen)

theorem stops_or_fits_of_double (t : Text) :
    Stops ('"' :: t) ∨ ∃ x u, '"' :: t = written x ++ u ∧ x.Fits u := by
  obtain ⟨b, rest, rfl, hfits, hstop⟩ := BodyItem.cutting.exists_isCut t
  cases rest with
  | nil =>
      have hopen : Unclosed ('"' :: (BodyItem.cutting.writtenAll b ++ [])) :=
        .inr ⟨b, by rw [List.append_nil], hfits⟩
      exact Or.inl (stops_of_unclosed hopen)
  | cons c u =>
      obtain rfl : c = '"' := hstop c rfl
      exact Or.inr ⟨.double b, u, by simp [written], hfits⟩

theorem stops_or_fits (t : Text) : Stops t ∨ ∃ x u, t = written x ++ u ∧ x.Fits u := by
  cases t with
  | nil => exact Or.inl stops_nil
  | cons c t =>
      by_cases hsingle : c = '\''
      · exact hsingle ▸ stops_or_fits_of_single t
      by_cases hdouble : c = '"'
      · exact hdouble ▸ stops_or_fits_of_double t
      by_cases hescape : c = '\\'
      · subst hescape
        cases t with
        | nil => exact Or.inl (Or.inr (Or.inl rfl))
        | cons d u => exact Or.inr ⟨.escaped d, u, rfl, trivial⟩
      right
      by_cases hblank : Token.isBlank c = true
      · exact ⟨.blank c, t, rfl, hblank⟩
      by_cases hangle : c = '>'
      · subst hangle
        obtain ⟨m, u, ht, hm⟩ := exists_mode t
        exact ⟨.operator ⟨none, m⟩, u, ht, hm⟩
      by_cases hdigit : IsDigit c ∧ t.head? = some '>'
      · obtain ⟨hc, ht⟩ := hdigit
        obtain ⟨t, rfl⟩ := List.head?_eq_some_iff.1 ht
        obtain ⟨m, u, ht, hm⟩ := exists_mode t
        rcases hc with rfl | rfl
        · exact ⟨.operator ⟨some .out, m⟩, u, congrArg ('1' :: ·) ht, hm⟩
        · exact ⟨.operator ⟨some .err, m⟩, u, congrArg ('2' :: ·) ht, hm⟩
      · have hplain : IsPlain c := ⟨by simpa using hblank, hdouble, hsingle, hescape, hangle⟩
        exact ⟨.plain c, t, rfl, hplain, fun hc ht => hdigit ⟨hc, ht⟩⟩

theorem not_unclosed_of_kindAt {t : Text} (hsingle : kindAt t ≠ .single)
    (hdouble : kindAt t ≠ .double) : ¬ Unclosed t := by
  rintro (⟨b, rfl, -⟩ | ⟨b, rfl, -⟩)
  · exact hsingle rfl
  · exact hdouble rfl

theorem not_unclosed_single (b u : Text) : ¬ Unclosed ((single b).written ++ u) := by
  rintro (⟨b', hb', hmem⟩ | ⟨b', hb', -⟩)
  · obtain ⟨-, rfl⟩ := List.cons.inj hb'
    exact hmem (by simp)
  · exact absurd (List.cons.inj hb').1 (by decide)

theorem not_unclosed_double {b : List BodyItem} {u : Text}
    (h : BodyItem.cutting.FitsAll b ('"' :: u)) : ¬ Unclosed ((double b).written ++ u) := by
  rintro (⟨b', hb', -⟩ | ⟨b', hb', hfits⟩)
  · exact absurd (List.cons.inj hb').1 (by decide)
  · have hwritten : BodyItem.cutting.writtenAll b ++ '"' :: u =
        BodyItem.cutting.writtenAll b' ++ [] := by
      simpa [written] using hb'
    -- The body would have two cuts, one up to a quote and one up to the end.
    have hquote : BodyItem.cutting.Stops ('"' :: u) := by
      simp [BodyItem.cutting, BodyItem.Stops]
    have hnil : BodyItem.cutting.Stops [] := by
      simp [BodyItem.cutting, BodyItem.Stops]
    obtain ⟨-, hu⟩ := BodyItem.cutting.eq_of_fitsAll h hfits hquote hnil hwritten
    exact List.cons_ne_nil _ _ hu

theorem not_unclosed {x : Element} {u : Text} (h : x.Fits u) : ¬ Unclosed (x.written ++ u) := by
  cases x with
  | single b => exact not_unclosed_single b u
  | double b => exact not_unclosed_double h
  | _ =>
      have hkind := kindAt_written_append h
      exact not_unclosed_of_kindAt (by simp [hkind, kind]) (by simp [hkind, kind])

theorem not_stops {x : Element} {u : Text} (h : x.Fits u) : ¬ Stops (x.written ++ u) := by
  rintro (hnil | hescape | hquote)
  · exact x.written_ne_nil (List.append_eq_nil_iff.1 hnil).1
  · have hkind : x.kind = .escaped := by
      rw [← kindAt_written_append h, hescape]
      rfl
    cases x <;> simp [kind, written] at hkind hescape
  · exact not_unclosed h hquote

def cutting : Cutting Element where
  written := written
  Fits := Fits
  Stops := Stops
  written_ne_nil := written_ne_nil
  stops_or_fits := stops_or_fits
  not_stops := not_stops
  eq_of_fits := eq_of_fits

end Element

end CommandShell
