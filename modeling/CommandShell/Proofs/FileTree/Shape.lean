import CommandShell.FileTree.Edit
import CommandShell.Lookup

/-!
# Trees that differ in what files hold

Writing to a file changes neither where a path leads nor what may be executed. So two
trees of the same shape, that is with the same nodes but for what the files hold, answer
alike when something is looked up in them: a walk lands at the same place
(`land_map_shape`), and a name stands for the same command
(`Lookup.command?_of_sameShape`).
-/

namespace CommandShell

/-- The node but for what a file holds. -/
def Node.shape : Node → Node
  | .file permissions _ => .file permissions .empty
  | node => node

/-- The landing but for what a file holds. -/
def Landing.shape : Landing → Landing
  | .directory p => .directory p
  | .occupied p n node => .occupied p n node.shape
  | .vacant p n => .vacant p n

namespace FileTree

/-- The trees have the same nodes but for what files hold. -/
def SameShape (t t' : FileTree) : Prop :=
  ∀ a, t'.node? a = t.node? a ∨
    ∃ permissions c c', t.node? a = some (.file permissions c) ∧
      t'.node? a = some (.file permissions c')

theorem SameShape.refl (t : FileTree) : t.SameShape t := fun _ => .inl rfl

theorem SameShape.symm {t t' : FileTree} (h : t.SameShape t') : t'.SameShape t := by
  intro a
  obtain heq | ⟨permissions, c, c', hfile, hfile'⟩ := h a
  · exact .inl heq.symm
  · exact .inr ⟨permissions, c', c, hfile', hfile⟩

theorem SameShape.trans {t t' t'' : FileTree} (h : t.SameShape t') (h' : t'.SameShape t'') :
    t.SameShape t'' := by
  intro a
  obtain heq' | ⟨permissions, c', c'', hfile', hfile''⟩ := h' a
  · rw [heq']
    exact h a
  · obtain heq | ⟨permissions', c, _, hfile, hmiddle⟩ := h a
    · exact .inr ⟨permissions, c', c'', heq ▸ hfile', hfile''⟩
    · rw [hfile'] at hmiddle
      cases hmiddle
      exact .inr ⟨permissions, c, c'', hfile, hfile''⟩

theorem sameShape_appendTo (t : FileTree) (a : Address) (s : Text) :
    t.SameShape (t.appendTo a s) := by
  intro b
  by_cases hb : b = a
  · subst hb
    rcases hnode : t.node? b with _ | ⟨⟩ | ⟨permissions, c⟩ | target | d
    case some.file =>
        exact .inr ⟨permissions, c, _, rfl, node?_appendTo_self hnode s⟩
    all_goals
        refine .inl ?_
        rw [appendTo, hnode]
        exact hnode
  · exact .inl (node?_appendTo_of_ne t s hb)

theorem map_mapError {ε δ α β : Type} (f : α → β) (g : ε → δ) (x : Except ε α) :
    (x.mapError g).map f = (x.map f).mapError g := by
  cases x with
  | error e => rfl
  | ok a => rfl

section

variable {t t' : FileTree} (h : t.SameShape t')
include h

theorem landFollowing_map_shape {u : Purpose}
    {follow follow' : Place → List Step → Except OsError Landing}
    (hfollow : ∀ p steps, (follow' p steps).map Landing.shape = (follow p steps).map Landing.shape)
    (p : Place) (steps : List Step) :
    (landFollowing t' u follow' p steps).map Landing.shape =
      (landFollowing t u follow p steps).map Landing.shape := by
  induction steps generalizing p with
  | nil => rfl
  | cons s rest ih =>
      cases s with
      | here => exact ih p
      | slash => exact ih p
      | up => exact ih p.parent
      | enter n =>
          rw [landFollowing, landFollowing]
          by_cases hslash : u = .create ∧ rest = [.slash]
          · rw [if_pos hslash, if_pos hslash]
          by_cases hlost : p.lost ≠ 0
          · rw [if_neg hslash, if_neg hslash, if_pos hlost, if_pos hlost]
          by_cases hlong : nameLimit < Text.utf8Size n
          · simp only [if_neg hslash, if_neg hlost, if_pos hlong]
          simp only [if_neg hslash, if_neg hlost, if_neg hlong]
          obtain heq | ⟨permissions, c, c', hfile, hfile'⟩ := h (n :: p.address)
          · rw [heq]
            rcases t.node? (n :: p.address) with _ | ⟨⟩ | ⟨permissions, c⟩ | target | d
            · rfl
            · exact ih _
            · rfl
            · dsimp only
              split
              · rfl
              · exact hfollow _ _
            · rfl
          · rw [hfile, hfile']
            dsimp only
            split
            · rfl
            · rfl

theorem land_map_shape (u : Purpose) (links : Nat) (p : Place) (steps : List Step) :
    (land t' u links p steps).map Landing.shape = (land t u links p steps).map Landing.shape := by
  induction links generalizing p steps with
  | zero => exact landFollowing_map_shape h (fun _ _ => rfl) p steps
  | succ links ih => exact landFollowing_map_shape h ih p steps

theorem locate_map_shape (u : Purpose) (start : Place) (p : Path) :
    (t'.locate u start p).map Landing.shape = (t.locate u start p).map Landing.shape := by
  have hland := land_map_shape h u linkLimit (origin start p) (Step.ofPath p)
  unfold locate
  split
  · rfl
  split
  · rfl
  split
  · rfl
  rw [map_mapError, map_mapError, hland]

theorem nodeAt?_map_shape (start : Place) (p : Path) :
    (t'.nodeAt? start p).map Node.shape = (t.nodeAt? start p).map Node.shape := by
  have hlocate := locate_map_shape h .find start p
  unfold nodeAt?
  revert hlocate
  rcases t.locate .find start p with e | ⟨q⟩ | ⟨q, n, node⟩ | ⟨q, n⟩ <;>
    rcases t'.locate .find start p with e' | ⟨q'⟩ | ⟨q', n', node'⟩ | ⟨q', n'⟩ <;>
    simp +contextual [Except.map, Landing.shape]

theorem leadsSomewhere_of_sameShape (start : Place) (p : Path) :
    t'.leadsSomewhere start p = t.leadsSomewhere start p := by
  have hnode := nodeAt?_map_shape h start p
  unfold leadsSomewhere
  revert hnode
  rcases t.nodeAt? start p with e | node <;> rcases t'.nodeAt? start p with e' | node' <;>
    simp [Except.map]

theorem leadsToDirectory_of_sameShape (start : Place) (p : Path) :
    t'.leadsToDirectory start p = t.leadsToDirectory start p := by
  have hnode := nodeAt?_map_shape h start p
  unfold leadsToDirectory
  revert hnode
  rcases t.nodeAt? start p with e | ⟨⟩ | ⟨permissions, c⟩ | target | d <;>
    rcases t'.nodeAt? start p with e' | ⟨⟩ | ⟨permissions', c'⟩ | target' | d' <;>
    simp [Except.map, Node.shape]

theorem leadsToExecutable_of_sameShape (start : Place) (p : Path) :
    t'.leadsToExecutable start p = t.leadsToExecutable start p := by
  have hnode := nodeAt?_map_shape h start p
  unfold leadsToExecutable
  revert hnode
  rcases t.nodeAt? start p with e | ⟨⟩ | ⟨permissions, c⟩ | target | d <;>
    rcases t'.nodeAt? start p with e' | ⟨⟩ | ⟨permissions', c'⟩ | target' | d' <;>
    simp +contextual [Except.map, Node.shape]

theorem resolve?_map_shape (start : Place) (p : Path) :
    (t'.resolve? start p).map Landing.shape = (t.resolve? start p).map Landing.shape := by
  have hland := land_map_shape h .find linkLimit (origin start p) (Step.ofPath p)
  unfold resolve?
  split
  · rfl
  revert hland
  rcases land t .find linkLimit (origin start p) (Step.ofPath p) with
      e | ⟨q⟩ | ⟨q, n, node⟩ | ⟨q, n⟩ <;>
    rcases land t' .find linkLimit (origin start p) (Step.ofPath p) with
      e' | ⟨q'⟩ | ⟨q', n', node'⟩ | ⟨q', n'⟩ <;>
    simp [Except.map, Landing.shape]

end

end FileTree

theorem Lookup.command?_of_sameShape {t t' : FileTree} (h : t.SameShape t') (process : Place)
    (searchPath : Text) (currentDir name : Path) :
    Lookup.command? t' process searchPath currentDir name =
      Lookup.command? t process searchPath currentDir name := by
  have hexecutable := funext (FileTree.leadsToExecutable_of_sameShape h process)
  have hsomewhere := funext (FileTree.leadsSomewhere_of_sameShape h process)
  unfold command? alongSearchPath atPath
  rw [hexecutable, hsomewhere]

end CommandShell
