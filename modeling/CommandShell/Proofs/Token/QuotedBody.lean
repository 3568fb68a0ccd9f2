import CommandShell.Proofs.Text.Cutting

/-!
# The body of a double-quoted segment

Between double quotes a backslash with a double quote or a backslash behind it is a
pair, and every other character stands for itself, a backslash included. So a body is
cut into pairs and ordinary characters, up to the closing quote or the end of the line.
-/

namespace CommandShell

/-- One item of the body of a double-quoted segment. -/
inductive BodyItem where
  /-- A backslash with the double quote or backslash that it quotes. -/
  | pair (c : Char)
  | ordinary (c : Char)
  deriving DecidableEq, Repr

namespace BodyItem

def written : BodyItem → Text
  | .pair c => ['\\', c]
  | .ordinary c => [c]

/-- The character that the item stands for. -/
def value : BodyItem → Char
  | .pair c => c
  | .ordinary c => c

def Fits : BodyItem → Text → Prop
  | .pair c, _ => c = '"' ∨ c = '\\'
  | .ordinary c, t => c ≠ '"' ∧ (c = '\\' → ∀ d ∈ t.head?, d ≠ '"' ∧ d ≠ '\\')

/-- A body stops at the closing quote or at the end of the line. -/
def Stops (t : Text) : Prop := ∀ c ∈ t.head?, c = '"'

theorem written_ne_nil (x : BodyItem) : x.written ≠ [] := by
  cases x <;> simp [written]

theorem stops_or_fits (t : Text) :
    Stops t ∨ ∃ x u, t = written x ++ u ∧ Fits x u := by
  cases t with
  | nil => exact Or.inl (by simp [Stops])
  | cons c u =>
      by_cases hquote : c = '"'
      · exact Or.inl (by simp [Stops, hquote])
      · right
        by_cases hpair : c = '\\' ∧ ∃ d v, u = d :: v ∧ (d = '"' ∨ d = '\\')
        · obtain ⟨rfl, d, v, rfl, hd⟩ := hpair
          exact ⟨.pair d, v, rfl, hd⟩
        · refine ⟨.ordinary c, u, rfl, hquote, ?_⟩
          intro hc d hd
          obtain ⟨v, rfl⟩ := List.head?_eq_some_iff.1 hd
          apply not_or.1
          intro h
          exact hpair ⟨hc, d, v, rfl, h⟩

theorem not_stops {x : BodyItem} {u : Text} (h : x.Fits u) : ¬ Stops (x.written ++ u) := by
  intro hstop
  cases x with
  | pair c => exact absurd (hstop '\\' rfl) (by decide)
  | ordinary c => exact h.1 (hstop c rfl)

theorem eq_of_fits {x y : BodyItem} {t u : Text} (hx : x.Fits t) (hy : y.Fits u)
    (h : x.written ++ t = y.written ++ u) : x = y := by
  cases x <;> cases y <;> simp only [written, List.cons_append, List.nil_append,
    List.cons.injEq] at h
  · rw [h.2.1]
  · obtain ⟨rfl, rfl⟩ := h
    have hne := hy.2 rfl _ rfl
    exact absurd hx (not_or.2 hne)
  · obtain ⟨rfl, rfl⟩ := h
    have hne := hx.2 rfl _ rfl
    exact absurd hy (not_or.2 hne)
  · rw [h.1]

theorem fits_congr {t u : Text} (h : t.head? = u.head?) (x : BodyItem) :
    x.Fits t ↔ x.Fits u := by
  cases x with
  | pair c => exact Iff.rfl
  | ordinary c => simp only [Fits, h]

def cutting : Cutting BodyItem where
  written := written
  Fits := Fits
  Stops := Stops
  written_ne_nil := written_ne_nil
  stops_or_fits := stops_or_fits
  not_stops := not_stops
  eq_of_fits := eq_of_fits

/-- What is behind the closing quote does not matter to a body. -/
theorem fitsAll_quote_cons {b : List BodyItem} {t : Text} (h : cutting.FitsAll b ('"' :: t))
    (u : Text) : cutting.FitsAll b ('"' :: u) := by
  induction b with
  | nil => trivial
  | cons x b ih =>
      have hhead : (cutting.writtenAll b ++ '"' :: t).head? =
          (cutting.writtenAll b ++ '"' :: u).head? := by
        simp [List.head?_append]
      exact ⟨(fits_congr hhead x).1 h.1, ih h.2⟩

/-- The text that a body stands for. -/
def valueAll (b : List BodyItem) : Text := b.map value

end BodyItem

end CommandShell
