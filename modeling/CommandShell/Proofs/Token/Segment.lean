import CommandShell.Proofs.Token.Decomposition

/-!
# The segments of a written word

A word can be written in many ways: it is cut into segments, each of them bare,
escaped, or in quotes of either kind. A segment is made of elements that are parts of
a word, and they stand for the text that the segment stands for
(`writtenAll_elements`, `flatMap_value_elements`).
-/

namespace CommandShell

/-- A part of a written word. -/
inductive Segment where
  | bare (t : Text)
  | escaped (c : Char)
  | single (t : Text)
  | double (t : Text)
  deriving DecidableEq, Repr

namespace Segment

/-- A character as it is written between double quotes. -/
def quoted (c : Char) : Text := if c = '"' ∨ c = '\\' then ['\\', c] else [c]

def written : Segment → Text
  | .bare t => t
  | .escaped c => ['\\', c]
  | .single t => '\'' :: t ++ ['\'']
  | .double t => '"' :: t.flatMap quoted ++ ['"']

def value : Segment → Text
  | .bare t => t
  | .escaped c => [c]
  | .single t => t
  | .double t => t

def Legal : Segment → Prop
  | .bare t => ∀ c ∈ t, Element.IsPlain c
  | .single t => '\'' ∉ t
  | .escaped _ => True
  | .double _ => True

def quotedItem (c : Char) : BodyItem := if c = '"' ∨ c = '\\' then .pair c else .ordinary c

/-- The elements that a segment is made of. -/
def elements : Segment → List Element
  | .bare t => t.map .plain
  | .escaped c => [.escaped c]
  | .single t => [.single t]
  | .double t => [.double (t.map quotedItem)]

theorem written_quotedItem (c : Char) : (quotedItem c).written = quoted c := by
  unfold quotedItem quoted
  split <;> rfl

theorem value_quotedItem (c : Char) : (quotedItem c).value = c := by
  unfold quotedItem
  split <;> rfl

theorem fits_quotedItem (c : Char) (t : Text) : (quotedItem c).Fits t := by
  unfold quotedItem
  split
  · rename_i h
    exact h
  · rename_i h
    obtain ⟨hquote, hescape⟩ := not_or.1 h
    exact ⟨hquote, fun hc => absurd hc hescape⟩

theorem fitsAll_map_quotedItem (t rest : Text) :
    BodyItem.cutting.FitsAll (t.map quotedItem) rest := by
  induction t with
  | nil => trivial
  | cons c t ih => exact ⟨fits_quotedItem c _, ih⟩

theorem writtenAll_map_quotedItem (t : Text) :
    BodyItem.cutting.writtenAll (t.map quotedItem) = t.flatMap quoted := by
  induction t with
  | nil => rfl
  | cons c t ih =>
      rw [List.map_cons, Cutting.writtenAll_cons, List.flatMap_cons, ih]
      exact congrArg (· ++ t.flatMap quoted) (written_quotedItem c)

theorem valueAll_map_quotedItem (t : Text) : BodyItem.valueAll (t.map quotedItem) = t := by
  have h : BodyItem.value ∘ quotedItem = id := funext value_quotedItem
  rw [BodyItem.valueAll, List.map_map, h, List.map_id]

theorem writtenAll_map_plain (t : Text) : Element.cutting.writtenAll (t.map .plain) = t := by
  induction t with
  | nil => rfl
  | cons c t ih =>
      rw [List.map_cons, Cutting.writtenAll_cons, ih]
      rfl

theorem writtenAll_elements (s : Segment) :
    Element.cutting.writtenAll s.elements = s.written := by
  cases s with
  | bare t => exact writtenAll_map_plain t
  | escaped c => rfl
  | single t => exact List.append_nil _
  | double t =>
      have h : Element.cutting.writtenAll (elements (.double t)) =
          '"' :: BodyItem.cutting.writtenAll (t.map quotedItem) ++ ['"'] := List.append_nil _
      rw [h, writtenAll_map_quotedItem]
      rfl

theorem flatMap_value_elements (s : Segment) : s.elements.flatMap Element.value = s.value := by
  cases s with
  | bare t =>
      induction t with
      | nil => rfl
      | cons c t ih => exact congrArg (c :: ·) ih
  | escaped c => rfl
  | single t => exact List.append_nil _
  | double t =>
      have h : (elements (.double t)).flatMap Element.value =
          BodyItem.valueAll (t.map quotedItem) := List.append_nil _
      rw [h, valueAll_map_quotedItem]
      rfl

theorem isPart_of_mem_elements {s : Segment} {e : Element} (h : e ∈ s.elements) : e.IsPart := by
  cases s with
  | bare t =>
      obtain ⟨c, -, rfl⟩ := List.mem_map.1 h
      exact ⟨nofun, nofun⟩
  | _ =>
      obtain rfl := List.mem_singleton.1 h
      exact ⟨nofun, nofun⟩

/-- An element of a legal segment fits at the end of a line. -/
theorem fits_nil_of_mem_elements {s : Segment} (hs : s.Legal) {e : Element}
    (h : e ∈ s.elements) : e.Fits [] := by
  cases s with
  | bare t =>
      obtain ⟨c, hc, rfl⟩ := List.mem_map.1 h
      exact ⟨hs c hc, fun _ => by simp⟩
  | escaped c =>
      obtain rfl := List.mem_singleton.1 h
      exact trivial
  | single t =>
      obtain rfl := List.mem_singleton.1 h
      exact hs
  | double t =>
      obtain rfl := List.mem_singleton.1 h
      exact fitsAll_map_quotedItem t _

end Segment

end CommandShell
