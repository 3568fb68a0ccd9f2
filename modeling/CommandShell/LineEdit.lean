import CommandShell.Text.Grapheme
import CommandShell.Text.Utf8

/-!
# Lines as they are read

A line that is read from something other than a terminal loses its newline, with a carriage return
in front of it, and each backspace in it takes back the cluster before it. The width of a cluster is
kept in one byte. Main statement: a line without backspaces stays as it is
(`applyBackspaces_of_not_mem`).
-/

namespace CommandShell

namespace LineEdit

/-- The line without its newline, and without a carriage return in front of that. -/
def chomp (line : Text) : Text :=
  match line.reverse with
  | '\n' :: '\r' :: t => t.reverse
  | '\n' :: t => t.reverse
  | _ => line

def backspace : Char := '\x08'

/-- A reversed text without its first characters, as far as they fit into so many bytes. -/
def dropWidth : Nat → Text → Text
  | _, [] => []
  | n, c :: t => if n ≠ 0 ∧ c.utf8Size ≤ n then dropWidth (n - c.utf8Size) t else c :: t

/-- A line that is being put together: its text in reverse, and the widths of its clusters. -/
structure Draft where
  text : Text
  widths : List Nat
  deriving DecidableEq, Repr

namespace Draft

def empty : Draft := ⟨[], []⟩

/-- Takes in one cluster, or takes back the last one. -/
def step (d : Draft) (cluster : Text) : Draft :=
  if cluster = [backspace] then
    match d.widths with
    | [] => d
    | w :: ws => ⟨dropWidth w d.text, ws⟩
  else ⟨cluster.reverse ++ d.text, Text.utf8Size cluster % 256 :: d.widths⟩

end Draft

/-- The line after its backspaces have been applied. -/
def applyBackspaces (line : Text) : Text :=
  ((Text.clusters line).foldl Draft.step .empty).text.reverse

theorem text_foldl_step {cs : List Text} (h : [backspace] ∉ cs) (d : Draft) :
    (cs.foldl Draft.step d).text = cs.flatten.reverse ++ d.text := by
  induction cs generalizing d with
  | nil => simp
  | cons c cs ih =>
    simp only [List.mem_cons, not_or] at h
    rw [List.foldl_cons, ih h.2]
    simp [Draft.step, Ne.symm h.1]

/-- Without backspaces a line stays as it is. -/
theorem applyBackspaces_of_not_mem {line : Text} (h : backspace ∉ line) :
    applyBackspaces line = line := by
  have hc : [backspace] ∉ Text.clusters line := fun hm => h (by
    rw [← Text.flatten_clusters line]
    exact List.mem_flatten.2 ⟨_, hm, by simp⟩)
  simp [applyBackspaces, text_foldl_step hc, Draft.empty, Text.flatten_clusters]

theorem chomp_append_newline {line : Text} (h : line.getLast? ≠ some '\r') :
    chomp (line ++ ['\n']) = line := by
  unfold chomp
  rw [List.reverse_append]
  cases hr : line.reverse with
  | nil => simp_all
  | cons c t =>
    have hl : line = t.reverse ++ [c] := by simpa using congrArg List.reverse hr
    have hc : c ≠ '\r' := by
      rintro rfl
      exact h (by simp [hl])
    simp only [List.reverse_singleton, List.singleton_append]
    split
    · simp_all
    · rename_i heq
      simp only [List.cons.injEq, true_and] at heq
      rw [← heq, hl]
      simp
    · simp_all

end LineEdit

end CommandShell
