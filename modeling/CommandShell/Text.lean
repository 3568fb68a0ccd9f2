/-!
# Text

Lines, words, paths and outputs are lists of characters, so that the recursions of the shell follow
the data. Besides the type this module holds cutting a text at a separator (`pieces`), its inverse
(`join`), and the decimal form of a number. Main statement: joining the pieces gives the text back
(`join_pieces`).
-/

namespace CommandShell

abbrev Text := List Char

namespace Text

/-- The texts between the separators, empty ones included: there is one more than there are
separators. -/
def pieces (sep : Char) : Text → List Text
  | [] => [[]]
  | c :: t =>
    if c = sep then [] :: pieces sep t
    else
      match pieces sep t with
      | [] => [[c]]
      | p :: ps => (c :: p) :: ps

/-- The texts one after the other, with the separator between neighbours. -/
def join (sep : Text) : List Text → Text
  | [] => []
  | [p] => p
  | p :: q :: ps => p ++ sep ++ join sep (q :: ps)

@[simp] theorem pieces_nil (sep : Char) : pieces sep [] = [[]] := rfl

theorem pieces_cons_self (sep : Char) (t : Text) : pieces sep (sep :: t) = [] :: pieces sep t := by
  simp [pieces]

theorem pieces_ne_nil (sep : Char) (t : Text) : pieces sep t ≠ [] := by
  cases t with
  | nil => simp [pieces]
  | cons c t =>
    simp only [pieces]
    split
    · simp
    · split <;> simp

theorem pieces_cons_of_ne {sep c : Char} (h : c ≠ sep) (t : Text) :
    ∃ p ps, pieces sep t = p :: ps ∧ pieces sep (c :: t) = (c :: p) :: ps := by
  cases hp : pieces sep t with
  | nil => exact absurd hp (pieces_ne_nil sep t)
  | cons p ps => exact ⟨p, ps, rfl, by simp [pieces, h, hp]⟩

@[simp] theorem join_nil (sep : Text) : join sep [] = [] := rfl

@[simp] theorem join_singleton (sep p : Text) : join sep [p] = p := rfl

theorem join_cons_cons (sep p q : Text) (ps : List Text) :
    join sep (p :: q :: ps) = p ++ sep ++ join sep (q :: ps) := rfl

theorem join_pieces (sep : Char) (t : Text) : join [sep] (pieces sep t) = t := by
  induction t with
  | nil => rfl
  | cons c t ih =>
    by_cases h : c = sep
    · subst h
      rw [pieces_cons_self]
      cases hp : pieces c t with
      | nil => exact absurd hp (pieces_ne_nil c t)
      | cons p ps => rw [join_cons_cons, ← hp, ih]; rfl
    · obtain ⟨p, ps, hp, hc⟩ := pieces_cons_of_ne h t
      rw [hc]
      rw [hp] at ih
      cases ps with
      | nil => simpa using ih
      | cons q ps => simp only [join_cons_cons] at ih ⊢; simp [← ih]

theorem not_mem_of_mem_pieces {sep : Char} {t p : Text} (h : p ∈ pieces sep t) : sep ∉ p := by
  induction t generalizing p with
  | nil => simp_all [pieces]
  | cons c t ih =>
    by_cases hc : c = sep
    · subst hc
      rw [pieces_cons_self] at h
      rcases List.mem_cons.1 h with rfl | h
      · simp
      · exact ih h
    · obtain ⟨q, qs, hq, hcq⟩ := pieces_cons_of_ne hc t
      rw [hcq] at h
      rcases List.mem_cons.1 h with rfl | h
      · simp only [List.mem_cons, not_or]
        exact ⟨fun e => hc e.symm, ih (by simp [hq])⟩
      · exact ih (by simp [hq, h])

def ofNat (n : Nat) : Text := Nat.toDigits 10 n

/-- The decimal form of an integer, with a sign only if it is negative. -/
def ofInt : Int → Text
  | .ofNat n => ofNat n
  | .negSucc n => '-' :: ofNat (n + 1)

def line (t : Text) : Text := t ++ ['\n']

def ofLines (ls : List String) : Text := ls.flatMap fun l => line l.toList

/-- What follows `start`, if the text starts with it. -/
def after? : Text → Text → Option Text
  | [], t => some t
  | _ :: _, [] => none
  | s :: start, c :: t => if s = c then after? start t else none

@[simp] theorem after?_nil (t : Text) : after? [] t = some t := rfl

theorem after?_eq_some_iff {start t rest : Text} :
    after? start t = some rest ↔ t = start ++ rest := by
  induction start generalizing t with
  | nil => simp [eq_comm]
  | cons s start ih =>
    cases t with
    | nil => simp [after?]
    | cons c t =>
      by_cases h : s = c
      · subst h; simp [after?, ih]
      · simp [after?, h, Ne.symm h]

end Text

end CommandShell
