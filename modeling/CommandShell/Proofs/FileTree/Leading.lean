import CommandShell.Proofs.FileTree.Directory

/-!
# Where a directory is on the way

A walk that lands in a directory passes through directories all the way. `FileTree.Leads`
follows it step by step and counts the links: from the directory that the first steps
lead to, the walk goes on as if it had started there, with as many links fewer
(`Leads.land_append`). Files do not stand in its way, so it stays as it is where all else
stays (`Leads.mono`).
-/

namespace CommandShell

/-- The steps begin with one that is more than a separator. -/
def Step.Goes (steps : List Step) : Prop := ∃ s rest, steps = s :: rest ∧ s ≠ .slash

/-- So no step in front of them is the last one. -/
theorem Step.Goes.isAtEnd_append {rest : List Step} (h : Goes rest) (front : List Step)
    (u : Purpose) : u.isAtEnd (front ++ rest) = false := by
  obtain ⟨s, tail, rfl, hs⟩ := h
  cases front with
  | nil => simp [Purpose.isAtEnd, hs]
  | cons s' front => simp [Purpose.isAtEnd]

theorem Step.Goes.append_ne {rest : List Step} (h : Goes rest) (front : List Step) :
    front ++ rest ≠ [.slash] := by
  intro heq
  have hend := h.isAtEnd_append front .entry
  rw [heq] at hend
  cases hend

namespace FileTree

/-- The system does not refuse the path as such. -/
structure Accepts (p : Path) : Prop where
  no_nul : '\x00' ∉ p
  ne_nil : p ≠ []
  length : Text.utf8Size p < pathLimit

theorem locate_eq_ok_iff {t : FileTree} {u : Purpose} {start : Place} {p : Path} {l : Landing} :
    t.locate u start p = .ok l ↔
      Accepts p ∧ land t u linkLimit (origin start p) (Step.ofPath p) = .ok l := by
  unfold locate
  constructor
  · intro h
    split at h
    · cases h
    case isFalse hnul =>
    split at h
    · cases h
    case isFalse hne =>
    split at h
    · cases h
    case isFalse hlength =>
    refine ⟨⟨hnul, hne, Nat.not_le.1 hlength⟩, ?_⟩
    cases hland : land t u linkLimit (origin start p) (Step.ofPath p) with
    | error e =>
        rw [hland] at h
        cases h
    | ok l' =>
        rw [hland] at h
        cases h
        rfl
  · rintro ⟨haccepts, hland⟩
    rw [if_neg haccepts.no_nul, if_neg haccepts.ne_nil, if_neg (Nat.not_le.2 haccepts.length),
      hland]
    rfl

/-- The steps lead from one directory to another through so many links. -/
inductive Leads (t : FileTree) : Nat → Place → List Step → Place → Prop
  | nil (p : Place) : Leads t 0 p [] p
  | here {k p rest d} (h : Leads t k p rest d) : Leads t k p (.here :: rest) d
  | slash {k p rest d} (h : Leads t k p rest d) : Leads t k p (.slash :: rest) d
  | up {k p rest d} (h : Leads t k p.parent rest d) : Leads t k p (.up :: rest) d
  | enter {k p n rest d} (hlost : p.lost = 0) (hfits : Text.utf8Size n ≤ nameLimit)
      (hnode : t.node? (n :: p.address) = some .directory)
      (h : Leads t k (.ofAddress (n :: p.address)) rest d) : Leads t k p (.enter n :: rest) d
  | link {k p n target rest d} (hlost : p.lost = 0) (hfits : Text.utf8Size n ≤ nameLimit)
      (hnode : t.node? (n :: p.address) = some (.link target))
      (h : Leads t k (origin p target) (Step.ofPath target ++ rest) d) :
      Leads t (k + 1) p (.enter n :: rest) d

section

variable (t : FileTree) (u : Purpose) (n : Nat) (p : Place) (rest : List Step)

theorem land_nil : land t u n p [] = .ok (.directory p) := by
  cases n with
  | zero => rfl
  | succ n => rfl

theorem land_here : land t u n p (.here :: rest) = land t u n p rest := by
  cases n with
  | zero => rfl
  | succ n => rfl

theorem land_slash : land t u n p (.slash :: rest) = land t u n p rest := by
  cases n with
  | zero => rfl
  | succ n => rfl

theorem land_up : land t u n p (.up :: rest) = land t u n p.parent rest := by
  cases n with
  | zero => rfl
  | succ n => rfl

end

section

variable {t : FileTree} {u : Purpose} {p : Place} {name : Name} {rest : List Step}
variable (hslash : ¬ (u = .create ∧ rest = [.slash])) (hlost : p.lost = 0)
  (hfits : Text.utf8Size name ≤ nameLimit)
include hslash hlost hfits

theorem land_enter_directory (hnode : t.node? (name :: p.address) = some .directory) (n : Nat) :
    land t u n p (.enter name :: rest) = land t u n (.ofAddress (name :: p.address)) rest := by
  have henter : ∀ follow, landFollowing t u follow p (.enter name :: rest) =
      landFollowing t u follow (.ofAddress (name :: p.address)) rest := by
    intro follow
    rw [landFollowing, if_neg hslash, if_neg (not_not_intro hlost), if_neg (Nat.not_lt.2 hfits),
      hnode]
  cases n with
  | zero => exact henter _
  | succ n => exact henter _

theorem land_enter_link {target : Path} (hnode : t.node? (name :: p.address) = some (.link target))
    (hgoes : u.isAtEnd rest = false ∨ u ≠ .entry) (n : Nat) :
    land t u (n + 1) p (.enter name :: rest) =
      land t u n (origin p target) (Step.ofPath target ++ rest) := by
  have hfollow : ¬ (u = .entry ∧ u.isAtEnd rest = true) := by
    rintro ⟨hu, hend⟩
    obtain hgoes | hgoes := hgoes
    · rw [hgoes] at hend
      cases hend
    · exact hgoes hu
  rw [land, landFollowing, if_neg hslash, if_neg (not_not_intro hlost),
    if_neg (Nat.not_lt.2 hfits), hnode]
  exact if_neg hfollow

end

/-- How a walk goes into an entry that it does not fail at. -/
inductive Enters (t : FileTree) (u : Purpose)
    (follow : Place → List Step → Except OsError Landing) (p : Place) (name : Name)
    (rest : List Step) : Landing → Prop
  | vacant (hnode : t.node? (name :: p.address) = none) (hend : u.isAtEnd rest = true) :
      Enters t u follow p name rest (.vacant p name)
  | directory {l} (hnode : t.node? (name :: p.address) = some .directory)
      (h : landFollowing t u follow (.ofAddress (name :: p.address)) rest = .ok l) :
      Enters t u follow p name rest l
  | link {l target} (hnode : t.node? (name :: p.address) = some (.link target))
      (h : follow (origin p target) (Step.ofPath target ++ rest) = .ok l) :
      Enters t u follow p name rest l
  | occupied {node} (hnode : t.node? (name :: p.address) = some node) (hne : node ≠ .directory)
      (hend : u.isAtEnd rest = true) : Enters t u follow p name rest (.occupied p name node)

theorem enters_of_landFollowing {t : FileTree} {u : Purpose}
    {follow : Place → List Step → Except OsError Landing} {p : Place} {name : Name}
    {rest : List Step} {l : Landing}
    (h : landFollowing t u follow p (.enter name :: rest) = .ok l) :
    ¬ (u = .create ∧ rest = [.slash]) ∧ p.lost = 0 ∧ Text.utf8Size name ≤ nameLimit ∧
      t.Enters u follow p name rest l := by
  rw [landFollowing] at h
  split at h
  · cases h
  case isFalse hslash =>
  split at h
  · cases h
  case isFalse hlost =>
  split at h
  · cases h
  case isFalse hfits =>
  refine ⟨hslash, Decidable.not_not.1 hlost, Nat.not_lt.1 hfits, ?_⟩
  split at h
  case h_1 hnode =>
      split at h
      case isTrue hend =>
          cases h
          exact .vacant hnode hend
      case isFalse => cases h
  case h_2 hnode => exact .directory hnode h
  case h_3 target hnode =>
      split at h
      case isTrue hend =>
          cases h
          exact .occupied hnode (by simp) hend.2
      case isFalse => exact .link hnode h
  case h_4 node hne _ hnode =>
      split at h
      case isTrue hend =>
          cases h
          exact .occupied hnode hne hend
      case isFalse => cases h

theorem fits_of_landFollowing {t : FileTree} {u : Purpose} {name : Name}
    {follow : Place → List Step → Except OsError Landing}
    (hfollow : ∀ p front l, follow p (front ++ [.enter name]) = .ok l →
      Text.utf8Size name ≤ nameLimit)
    {p : Place} {front : List Step} {l : Landing}
    (h : landFollowing t u follow p (front ++ [.enter name]) = .ok l) :
    Text.utf8Size name ≤ nameLimit := by
  -- An entry in front of the name is not the last one, so the walk goes on behind it.
  have hend : ∀ front, u.isAtEnd (front ++ [.enter name]) = false := by
    have hgoes : Step.Goes [.enter name] := ⟨.enter name, [], rfl, by simp⟩
    exact fun front => hgoes.isAtEnd_append front u
  induction front generalizing p with
  | nil => exact (enters_of_landFollowing h).2.2.1
  | cons s front ih =>
      cases s with
      | here => exact ih h
      | slash => exact ih h
      | up => exact ih h
      | enter other =>
          rw [List.cons_append] at h
          obtain ⟨-, -, -, henters⟩ := enters_of_landFollowing h
          cases henters with
          | vacant hnode hlast => simp [hend] at hlast
          | directory hnode h => exact ih h
          | link hnode h =>
              rw [← List.append_assoc] at h
              exact hfollow _ _ _ h
          | occupied hnode hne hlast => simp [hend] at hlast

/-- No walk ends with a name that is too long for a directory. -/
theorem fits_of_land {t : FileTree} {u : Purpose} {n : Nat} {p : Place} {front : List Step}
    {name : Name} {l : Landing} (h : land t u n p (front ++ [.enter name]) = .ok l) :
    Text.utf8Size name ≤ nameLimit := by
  induction n generalizing p front l with
  | zero =>
      refine fits_of_landFollowing ?_ h
      intro _ _ _ hfollow
      cases hfollow
  | succ n ih => exact fits_of_landFollowing (fun _ _ _ => ih) h

theorem leads_of_landFollowing {t : FileTree} {u : Purpose} {n : Nat}
    {follow : Place → List Step → Except OsError Landing}
    (hfollow : ∀ p steps d, follow p steps = .ok (.directory d) →
      ∃ k, k + 1 ≤ n ∧ t.Leads k p steps d)
    {p d : Place} {steps : List Step}
    (h : landFollowing t u follow p steps = .ok (.directory d)) :
    ∃ k, k ≤ n ∧ t.Leads k p steps d := by
  induction steps generalizing p with
  | nil =>
      cases h
      exact ⟨0, Nat.zero_le n, .nil _⟩
  | cons s rest ih =>
      cases s with
      | here =>
          obtain ⟨k, hk, hleads⟩ := ih h
          exact ⟨k, hk, .here hleads⟩
      | slash =>
          obtain ⟨k, hk, hleads⟩ := ih h
          exact ⟨k, hk, .slash hleads⟩
      | up =>
          obtain ⟨k, hk, hleads⟩ := ih h
          exact ⟨k, hk, .up hleads⟩
      | enter name =>
          obtain ⟨-, hlost, hfits, henters⟩ := enters_of_landFollowing h
          cases henters with
          | directory hnode h =>
              obtain ⟨k, hk, hleads⟩ := ih h
              exact ⟨k, hk, .enter hlost hfits hnode hleads⟩
          | link hnode h =>
              obtain ⟨k, hk, hleads⟩ := hfollow _ _ _ h
              exact ⟨k + 1, hk, .link hlost hfits hnode hleads⟩

/-- A walk that lands in a directory. -/
theorem exists_leads_of_land {t : FileTree} {u : Purpose} {n : Nat} {p d : Place}
    {steps : List Step} (h : land t u n p steps = .ok (.directory d)) :
    ∃ k, k ≤ n ∧ t.Leads k p steps d := by
  induction n generalizing p d steps with
  | zero =>
      refine leads_of_landFollowing ?_ h
      intro _ _ _ hfollow
      cases hfollow
  | succ n ih =>
      refine leads_of_landFollowing ?_ h
      intro _ _ _ hfollow
      obtain ⟨k, hk, hleads⟩ := ih hfollow
      exact ⟨k, Nat.succ_le_succ hk, hleads⟩

theorem landFollowing_eq_of_ne {t : FileTree} {u : Purpose}
    {follow follow' : Place → List Step → Except OsError Landing}
    (hfollow : ∀ p steps, follow p steps ≠ .error .linkLoop → follow' p steps = follow p steps)
    {p : Place} {steps : List Step} (h : landFollowing t u follow p steps ≠ .error .linkLoop) :
    landFollowing t u follow' p steps = landFollowing t u follow p steps := by
  induction steps generalizing p with
  | nil => rfl
  | cons s rest ih =>
      cases s with
      | here => exact ih h
      | slash => exact ih h
      | up => exact ih h
      | enter name =>
          rw [landFollowing] at h ⊢
          rw [landFollowing]
          split
          · rfl
          split
          · rfl
          split
          · rfl
          rw [if_neg ‹_›, if_neg ‹_›, if_neg ‹_›] at h
          split
          · rfl
          case h_2 hnode =>
              rw [hnode] at h
              exact ih h
          case h_3 target hnode =>
              rw [hnode] at h
              dsimp only at h
              split
              · rfl
              · rw [if_neg ‹_›] at h
                exact hfollow _ _ h
          · rfl

/-- A walk that does not fail for the number of links is the same if it may follow more. -/
theorem land_eq_of_le {t : FileTree} {u : Purpose} {m n : Nat} (hmn : m ≤ n) {p : Place}
    {steps : List Step} (h : land t u m p steps ≠ .error .linkLoop) :
    land t u n p steps = land t u m p steps := by
  induction m generalizing n p steps with
  | zero =>
      cases n with
      | zero => rfl
      | succ n => exact landFollowing_eq_of_ne (fun _ _ hloop => absurd rfl hloop) h
  | succ m ih =>
      cases n with
      | zero => exact absurd hmn (Nat.not_succ_le_zero m)
      | succ n =>
          exact landFollowing_eq_of_ne (fun _ _ hne => ih (Nat.le_of_succ_le_succ hmn) hne) h

/-- All that is no file stays, so that a walk goes the same way. -/
def KeepsWays (t t' : FileTree) : Prop :=
  ∀ ⦃a node⦄, t.node? a = some node → (∀ permissions c, node ≠ .file permissions c) →
    t'.node? a = some node

theorem AddsDirectories.keepsWays {t t' : FileTree} (h : t.AddsDirectories t') :
    t.KeepsWays t' := by
  intro a node ha _
  obtain heq | ⟨hnone, -⟩ := h a
  · rw [heq, ha]
  · rw [ha] at hnone
    cases hnone

theorem Opens.keepsWays {t t' : FileTree} {a : Address} {c : Contents} (h : t.Opens t' a c) :
    t.KeepsWays t' := by
  intro b node hb hnode
  have hne : b ≠ a := by
    rintro rfl
    obtain hnone | ⟨permissions, c', hfile⟩ := h.before
    · rw [hb] at hnone
      cases hnone
    · rw [hb] at hfile
      exact hnode permissions c' (Option.some.inj hfile)
  obtain heq | ⟨hnone, -⟩ := h.elsewhere b hne
  · rw [heq, hb]
  · rw [hb] at hnone
    cases hnone

namespace Leads

variable {t t' : FileTree} {k : Nat} {p d : Place} {steps : List Step}

theorem land_find (h : t.Leads k p steps d) (m : Nat) :
    land t .find (k + m) p steps = .ok (.directory d) := by
  induction h with
  | nil p => exact land_nil ..
  | here h ih => rwa [land_here]
  | slash h ih => rwa [land_slash]
  | up h ih => rwa [land_up]
  | enter hlost hfits hnode h ih => rwa [land_enter_directory (by simp) hlost hfits hnode]
  | link hlost hfits hnode h ih =>
      rwa [Nat.add_right_comm, land_enter_link (by simp) hlost hfits hnode (.inr (by simp))]

/-- From where the first steps lead the walk goes on, whatever it is for. -/
theorem land_append (h : t.Leads k p steps d) {rest : List Step} (hrest : Step.Goes rest)
    (u : Purpose) (m : Nat) : land t u (k + m) p (steps ++ rest) = land t u m d rest := by
  have hslash : ∀ front : List Step, ¬ (u = .create ∧ front ++ rest = [.slash]) :=
    fun front hcreate => hrest.append_ne front hcreate.2
  induction h with
  | nil p => rw [Nat.zero_add, List.nil_append]
  | here h ih => rw [List.cons_append, land_here, ih]
  | slash h ih => rw [List.cons_append, land_slash, ih]
  | up h ih => rw [List.cons_append, land_up, ih]
  | enter hlost hfits hnode h ih =>
      rw [List.cons_append, land_enter_directory (hslash _) hlost hfits hnode, ih]
  | link hlost hfits hnode h ih =>
      rw [List.cons_append, Nat.add_right_comm,
        land_enter_link (hslash _) hlost hfits hnode (.inl (hrest.isAtEnd_append _ u)),
        ← List.append_assoc, ih]

theorem append {i j : Nat} {q : Place} {front back : List Step} (h : t.Leads i p front q)
    (h' : t.Leads j q back d) : t.Leads (i + j) p (front ++ back) d := by
  induction h with
  | nil p => rwa [Nat.zero_add]
  | here h ih => exact .here (ih h')
  | slash h ih => exact .slash (ih h')
  | up h ih => exact .up (ih h')
  | enter hlost hfits hnode h ih => exact .enter hlost hfits hnode (ih h')
  | link hlost hfits hnode h ih =>
      have hrest := ih h'
      rw [List.append_assoc] at hrest
      rw [Nat.add_right_comm]
      exact .link hlost hfits hnode hrest

/-- The steps of two parts lead through the directory where the first part ends. -/
theorem exists_of_append {front back : List Step} (h : t.Leads k p (front ++ back) d) :
    ∃ i j q, i + j = k ∧ t.Leads i p front q ∧ t.Leads j q back d := by
  generalize hsteps : front ++ back = steps at h
  induction h generalizing front with
  | nil p =>
      obtain ⟨rfl, rfl⟩ := List.append_eq_nil_iff.1 hsteps
      exact ⟨0, 0, p, rfl, .nil p, .nil p⟩
  | here h ih =>
      obtain ⟨rfl, rfl⟩ | ⟨front, rfl, rfl⟩ := List.append_eq_cons_iff.1 hsteps
      · exact ⟨0, _, _, Nat.zero_add _, .nil _, .here h⟩
      · obtain ⟨i, j, q, hk, hfront, hback⟩ := ih rfl
        exact ⟨i, j, q, hk, .here hfront, hback⟩
  | slash h ih =>
      obtain ⟨rfl, rfl⟩ | ⟨front, rfl, rfl⟩ := List.append_eq_cons_iff.1 hsteps
      · exact ⟨0, _, _, Nat.zero_add _, .nil _, .slash h⟩
      · obtain ⟨i, j, q, hk, hfront, hback⟩ := ih rfl
        exact ⟨i, j, q, hk, .slash hfront, hback⟩
  | up h ih =>
      obtain ⟨rfl, rfl⟩ | ⟨front, rfl, rfl⟩ := List.append_eq_cons_iff.1 hsteps
      · exact ⟨0, _, _, Nat.zero_add _, .nil _, .up h⟩
      · obtain ⟨i, j, q, hk, hfront, hback⟩ := ih rfl
        exact ⟨i, j, q, hk, .up hfront, hback⟩
  | enter hlost hfits hnode h ih =>
      obtain ⟨rfl, rfl⟩ | ⟨front, rfl, rfl⟩ := List.append_eq_cons_iff.1 hsteps
      · exact ⟨0, _, _, Nat.zero_add _, .nil _, .enter hlost hfits hnode h⟩
      · obtain ⟨i, j, q, hk, hfront, hback⟩ := ih rfl
        exact ⟨i, j, q, hk, .enter hlost hfits hnode hfront, hback⟩
  | @link k p name target rest d hlost hfits hnode h ih =>
      obtain ⟨rfl, rfl⟩ | ⟨front, rfl, rfl⟩ := List.append_eq_cons_iff.1 hsteps
      · exact ⟨0, _, _, Nat.zero_add _, .nil _, .link hlost hfits hnode h⟩
      · obtain ⟨i, j, q, rfl, hfront, hback⟩ := ih (List.append_assoc _ _ _)
        exact ⟨i + 1, j, q, Nat.add_right_comm i 1 j, .link hlost hfits hnode hfront, hback⟩

theorem mono (h : t.Leads k p steps d) (hkeeps : t.KeepsWays t') : t'.Leads k p steps d := by
  induction h with
  | nil p => exact .nil p
  | here h ih => exact .here ih
  | slash h ih => exact .slash ih
  | up h ih => exact .up ih
  | enter hlost hfits hnode h ih => exact .enter hlost hfits (hkeeps hnode (by simp)) ih
  | link hlost hfits hnode h ih => exact .link hlost hfits (hkeeps hnode (by simp)) ih

/-- Steps that stay lead nowhere else. -/
theorem eq_of_forall_here (h : t.Leads k p steps d) (hsteps : ∀ s ∈ steps, s = .here) :
    k = 0 ∧ d = p := by
  induction steps with
  | nil =>
      cases h
      exact ⟨rfl, rfl⟩
  | cons s rest ih =>
      obtain rfl := hsteps s List.mem_cons_self
      cases h with
      | here h => exact ih h fun s hs => hsteps s (List.mem_cons_of_mem _ hs)

theorem of_forall_here (h : ∀ s ∈ steps, s = .here) : t.Leads 0 p steps p := by
  induction steps with
  | nil => exact .nil p
  | cons s rest ih =>
      obtain rfl := h s List.mem_cons_self
      exact .here (ih fun s hs => h s (List.mem_cons_of_mem _ hs))

/-- There is an entry at the end of the steps: the directory or a link to it. -/
theorem exists_land_entry (h : t.Leads k p steps d) (m : Nat) :
    ∃ l, land t .entry (k + m) p steps = .ok l ∧ ∀ q name, l ≠ .vacant q name := by
  induction h with
  | nil p => exact ⟨.directory p, land_nil .., by simp⟩
  | here h ih => rwa [land_here]
  | slash h ih => rwa [land_slash]
  | up h ih => rwa [land_up]
  | enter hlost hfits hnode h ih => rwa [land_enter_directory (by simp) hlost hfits hnode]
  | @link k p name target rest d hlost hfits hnode h ih =>
      by_cases hend : Purpose.entry.isAtEnd rest = true
      · refine ⟨.occupied p name (.link target), ?_, by simp⟩
        rw [Nat.add_right_comm, land, landFollowing, if_neg (by simp), if_neg (by simp [hlost]),
          if_neg (Nat.not_lt.2 hfits), hnode]
        exact if_pos ⟨rfl, hend⟩
      · rwa [Nat.add_right_comm,
          land_enter_link (by simp) hlost hfits hnode (.inl (by simpa using hend))]

end Leads

theorem leads_path {t : FileTree} {a : Address} (h : t.HasDirectory a) :
    t.Leads 0 .root (Step.ofPath a.path) (.ofAddress a) := by
  obtain ⟨k, hk, hleads⟩ := exists_leads_of_land (land_path h 0)
  obtain rfl : k = 0 := Nat.le_zero.1 hk
  exact hleads

end FileTree

end CommandShell
