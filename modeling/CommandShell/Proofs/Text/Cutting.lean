import CommandShell.Text

/-!
# Cutting a text into pieces

`Cutting α` says how pieces of type `α` are written one behind the other. Whether
a piece fits may depend on the text behind it, which is how a longest match and a
character of lookahead are expressed; no index into the text is needed. A text
without a piece at its front is one where the cutting stops.

The main statement is that a text can be cut in exactly one way
(`exists_isCut_iff`): the pieces are found from the left, and any two cuts agree.
-/

namespace CommandShell

/-- Pieces that a text is cut into. At every place either one piece fits or the
cutting stops, and never both. -/
structure Cutting (α : Type) where
  written : α → Text
  Fits : α → Text → Prop
  Stops : Text → Prop
  written_ne_nil : ∀ x, written x ≠ []
  stops_or_fits : ∀ t, Stops t ∨ ∃ x u, t = written x ++ u ∧ Fits x u
  not_stops : ∀ {x u}, Fits x u → ¬ Stops (written x ++ u)
  eq_of_fits : ∀ {x y t u}, Fits x t → Fits y u → written x ++ t = written y ++ u → x = y

namespace Cutting

variable {α : Type} (k : Cutting α)

def writtenAll (xs : List α) : Text := xs.flatMap k.written

/-- Each piece fits in front of what is behind it, where `rest` is behind the last. -/
def FitsAll : List α → Text → Prop
  | [], _ => True
  | x :: xs, rest => k.Fits x (k.writtenAll xs ++ rest) ∧ FitsAll xs rest

/-- The text consists of the pieces `xs` and of `rest`, where no piece is left. -/
structure IsCut (t : Text) (xs : List α) (rest : Text) : Prop where
  eq_append : t = k.writtenAll xs ++ rest
  fits : k.FitsAll xs rest
  stops : k.Stops rest

@[simp] theorem writtenAll_nil : k.writtenAll [] = [] := rfl

@[simp] theorem writtenAll_cons (x : α) (xs : List α) :
    k.writtenAll (x :: xs) = k.written x ++ k.writtenAll xs := rfl

theorem writtenAll_append (xs ys : List α) :
    k.writtenAll (xs ++ ys) = k.writtenAll xs ++ k.writtenAll ys := by
  simp [writtenAll]

@[simp] theorem fitsAll_nil (rest : Text) : k.FitsAll [] rest := trivial

theorem fitsAll_cons (x : α) (xs : List α) (rest : Text) :
    k.FitsAll (x :: xs) rest ↔
      k.Fits x (k.writtenAll xs ++ rest) ∧ k.FitsAll xs rest :=
  Iff.rfl

/-- The first of two lists of pieces has the second one behind it. -/
theorem fitsAll_append (xs ys : List α) (rest : Text) :
    k.FitsAll (xs ++ ys) rest ↔
      k.FitsAll xs (k.writtenAll ys ++ rest) ∧ k.FitsAll ys rest := by
  induction xs with
  | nil => simp
  | cons x xs ih =>
      rw [List.cons_append, fitsAll_cons, fitsAll_cons, ih, writtenAll_append,
        List.append_assoc, and_assoc]

/-- Cutting from the left ends, since no piece is empty. -/
theorem exists_isCut (t : Text) : ∃ xs rest, k.IsCut t xs rest := by
  induction h : t.length using Nat.strongRecOn generalizing t with
  | ind n ih =>
      rcases k.stops_or_fits t with hstop | ⟨x, u, rfl, hx⟩
      · exact ⟨[], t, rfl, trivial, hstop⟩
      · have hpos : 0 < (k.written x).length :=
          List.length_pos_iff.2 (k.written_ne_nil x)
        have hlt : u.length < n := by
          rw [← h, List.length_append]
          omega
        obtain ⟨xs, rest, hu, hfits, hstop⟩ := ih u.length hlt u rfl
        refine ⟨x :: xs, rest, ?_, ?_, hstop⟩
        · rw [writtenAll_cons, List.append_assoc, ← hu]
        · exact ⟨hu ▸ hx, hfits⟩

/-- Two cuts of one text agree piece by piece. -/
theorem eq_of_fitsAll {xs ys : List α} {r s : Text} (hxs : k.FitsAll xs r)
    (hys : k.FitsAll ys s) (hr : k.Stops r) (hs : k.Stops s)
    (h : k.writtenAll xs ++ r = k.writtenAll ys ++ s) : xs = ys ∧ r = s := by
  induction xs generalizing ys with
  | nil =>
      cases ys with
      | nil => exact ⟨rfl, h⟩
      | cons y ys =>
          have hnot := k.not_stops hys.1
          rw [writtenAll_nil, List.nil_append, writtenAll_cons, List.append_assoc] at h
          exact absurd (h ▸ hr) hnot
  | cons x xs ih =>
      rw [writtenAll_cons, List.append_assoc] at h
      cases ys with
      | nil =>
          have hnot := k.not_stops hxs.1
          rw [writtenAll_nil, List.nil_append] at h
          exact absurd (h ▸ hs) hnot
      | cons y ys =>
          rw [writtenAll_cons, List.append_assoc] at h
          obtain rfl : x = y := k.eq_of_fits hxs.1 hys.1 h
          obtain ⟨rfl, rfl⟩ := ih hxs.2 hys.2 (List.append_cancel_left h)
          exact ⟨rfl, rfl⟩

theorem IsCut.eq {t : Text} {xs ys : List α} {r s : Text} (hx : k.IsCut t xs r)
    (hy : k.IsCut t ys s) : xs = ys ∧ r = s :=
  k.eq_of_fitsAll hx.fits hy.fits hx.stops hy.stops (hx.eq_append ▸ hy.eq_append)

/-- A text has exactly one cut. -/
theorem exists_isCut_iff (t : Text) :
    ∃ xs rest, ∀ ys r, k.IsCut t ys r ↔ ys = xs ∧ r = rest := by
  obtain ⟨xs, rest, hcut⟩ := k.exists_isCut t
  refine ⟨xs, rest, ?_⟩
  intro ys r
  constructor
  · intro h
    exact IsCut.eq k h hcut
  · rintro ⟨rfl, rfl⟩
    exact hcut

end Cutting

end CommandShell
