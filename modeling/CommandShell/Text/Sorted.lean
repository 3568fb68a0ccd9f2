import CommandShell.Text

/-!
# Sorting by name

Lists in the order of a key text, by insertion, so that equal keys keep their order. Main
statements: nothing is lost (`perm_sortByKey`), and the first entry of a key stays the first
(`lookup_sortByKey`).
-/

namespace CommandShell

namespace Text

variable {α : Type}

/-- Puts a pair in front of the first one with a key that is not smaller. -/
def insertByKey (e : Text × α) : List (Text × α) → List (Text × α)
  | [] => [e]
  | f :: es => if f.1 < e.1 then f :: insertByKey e es else e :: f :: es

def sortByKey : List (Text × α) → List (Text × α)
  | [] => []
  | e :: es => insertByKey e (sortByKey es)

def sort (ts : List Text) : List Text := (sortByKey (ts.map fun t => (t, ()))).map Prod.fst

theorem perm_insertByKey (e : Text × α) (es : List (Text × α)) :
    List.Perm (insertByKey e es) (e :: es) := by
  induction es with
  | nil => exact List.Perm.refl _
  | cons f es ih =>
    unfold insertByKey
    split
    · exact (ih.cons f).trans (List.Perm.swap e f es)
    · exact List.Perm.refl _

theorem perm_sortByKey (es : List (Text × α)) : List.Perm (sortByKey es) es := by
  induction es with
  | nil => exact List.Perm.refl _
  | cons e es ih => exact (perm_insertByKey e _).trans (ih.cons e)

theorem lookup_insertByKey (e : Text × α) (es : List (Text × α)) (k : Text) :
    (insertByKey e es).lookup k = (e :: es).lookup k := by
  induction es with
  | nil => rfl
  | cons f es ih =>
    unfold insertByKey
    split
    · rename_i h
      have hne : f.1 ≠ e.1 := fun he => absurd h (by rw [he]; exact List.lt_irrefl e.1)
      rcases e with ⟨ke, ve⟩
      rcases f with ⟨kf, vf⟩
      by_cases hk : k = kf
      · subst hk
        simp [List.lookup_cons, beq_false_of_ne hne]
      · rw [List.lookup_cons, ih]
        simp [List.lookup_cons, beq_false_of_ne hk]
    · rfl

/-- The first entry of a key stays the first. -/
theorem lookup_sortByKey (es : List (Text × α)) (k : Text) :
    (sortByKey es).lookup k = es.lookup k := by
  induction es with
  | nil => rfl
  | cons e es ih =>
    rcases e with ⟨ke, ve⟩
    rw [sortByKey, lookup_insertByKey, List.lookup_cons, List.lookup_cons, ih]

end Text

end CommandShell
