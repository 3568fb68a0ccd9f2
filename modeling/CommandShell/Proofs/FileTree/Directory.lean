import CommandShell.Proofs.FileTree.Opening

/-!
# Directories and their paths

An address names a directory if there is one at it and one at each address above it. A
walk that starts in such a directory and lands in a directory lands in such a one again,
whatever links and steps upwards are on its way (`hasPlace_of_land`). And the path of the
address leads to it without any link (`land_path`): it is absolute, and its pieces are
the names of the directories (`pieces_path`).
-/

namespace CommandShell

/-- A name that can stand in a directory. -/
structure EntryName (n : Name) : Prop where
  ne_nil : n ≠ []
  ne_here : n ≠ ['.']
  ne_up : n ≠ ['.', '.']
  no_separator : '/' ∉ n

namespace Text

theorem pieces_append_of_not_mem {sep : Char} {s t p : Text} {ps : List Text} (h : sep ∉ s)
    (ht : pieces sep t = p :: ps) : pieces sep (s ++ t) = (s ++ p) :: ps := by
  induction s with
  | nil => exact ht
  | cons c s ih =>
      obtain ⟨hc, hs⟩ : sep ≠ c ∧ sep ∉ s := by simpa using h
      rw [List.cons_append, pieces, if_neg (Ne.symm hc), ih hs]
      rfl

theorem pieces_append_separator (sep : Char) (s t : Text) :
    pieces sep (s ++ sep :: t) = pieces sep s ++ pieces sep t := by
  induction s with
  | nil => exact pieces_cons_self sep t
  | cons c s ih =>
      by_cases hc : c = sep
      · subst hc
        rw [List.cons_append, pieces_cons_self, pieces_cons_self, ih]
        rfl
      · obtain ⟨p, ps, hps, hcons⟩ := pieces_cons_of_ne hc s
        obtain ⟨p', ps', hps', hcons'⟩ := pieces_cons_of_ne hc (s ++ sep :: t)
        rw [hps, hps'] at ih
        obtain ⟨rfl, rfl⟩ := List.cons.inj ih
        rw [List.cons_append, hcons, hcons']
        rfl

/-- Texts that each follow a separator are the pieces, behind an empty one. -/
theorem pieces_flatMap_cons {sep : Char} {ts : List Text} (h : ∀ t ∈ ts, sep ∉ t) :
    pieces sep (ts.flatMap (sep :: ·)) = [] :: ts := by
  induction ts with
  | nil => rfl
  | cons t ts ih =>
      have hrest := ih fun s hs => h s (List.mem_cons_of_mem _ hs)
      have hfirst := pieces_append_of_not_mem (h t List.mem_cons_self) hrest
      rw [List.flatMap_cons, List.cons_append, pieces_cons_self, hfirst, List.append_nil]

end Text

namespace Step

/-- A step into an entry has a name that an entry can have. -/
def IsProper : Step → Prop
  | .enter n => EntryName n
  | _ => True

theorem filterMap_ofPiece? {ns : List Name} (h : ∀ n ∈ ns, EntryName n) :
    ns.filterMap ofPiece? = ns.map .enter := by
  induction ns with
  | nil => rfl
  | cons n ns ih =>
      have hname := h n List.mem_cons_self
      have hstep : ofPiece? n = some (.enter n) := by
        simp [ofPiece?, hname.ne_nil, hname.ne_here, hname.ne_up]
      rw [List.filterMap_cons, hstep, ih fun m hm => h m (List.mem_cons_of_mem _ hm)]
      rfl

theorem isProper_of_mem_ofPath {p : Path} {s : Step} (h : s ∈ ofPath p) : s.IsProper := by
  obtain hpiece | hslash := List.mem_append.1 h
  · obtain ⟨piece, hmem, hs⟩ := List.mem_filterMap.1 hpiece
    unfold ofPiece? at hs
    split at hs
    · cases hs
    split at hs
    · cases hs
      exact trivial
    split at hs
    · cases hs
      exact trivial
    case isFalse hnil hhere hup =>
        cases hs
        exact ⟨hnil, hhere, hup, Text.not_mem_of_mem_pieces hmem⟩
  · split at hslash
    · obtain rfl := List.mem_singleton.1 hslash
      exact trivial
    · cases hslash

end Step

namespace FileTree

/-- There is a directory at the address, and one at each address above it. -/
def HasDirectory (t : FileTree) : Address → Prop
  | [] => True
  | n :: a => (EntryName n ∧ Text.utf8Size n ≤ nameLimit ∧ t.node? (n :: a) = some .directory) ∧
      t.HasDirectory a

namespace HasDirectory

variable {t t' : FileTree} {a b : Address}

theorem tail (h : t.HasDirectory a) : t.HasDirectory a.tail := by
  cases a with
  | nil => exact trivial
  | cons n a => exact h.2

theorem of_append (h : t.HasDirectory (a ++ b)) : t.HasDirectory b := by
  induction a with
  | nil => exact h
  | cons n a ih => exact ih h.2

theorem node?_eq (h : t.HasDirectory a) (hb : b <:+ a) : t.node? b = some .directory := by
  obtain ⟨c, rfl⟩ := hb
  have hdir := h.of_append
  cases b with
  | nil => rfl
  | cons n b => exact hdir.1.2.2

theorem entryName (h : t.HasDirectory a) {n : Name} (hn : n ∈ a) : EntryName n := by
  induction a with
  | nil => cases hn
  | cons m a ih =>
      obtain rfl | hn := List.mem_cons.1 hn
      · exact h.1.1
      · exact ih h.2 hn

theorem mono (h : t.HasDirectory a) (hkeeps : t.KeepsDirectories t') : t'.HasDirectory a := by
  induction a with
  | nil => exact trivial
  | cons n a ih =>
      obtain ⟨⟨hname, hfits, hnode⟩, habove⟩ := h
      exact ⟨⟨hname, hfits, hkeeps _ hnode⟩, ih habove⟩

/-- No name has a separator in it, so the pieces of the path are the names. -/
theorem pieces_path (h : t.HasDirectory a) (ha : a ≠ []) :
    Text.pieces '/' a.path = [] :: a.reverse := by
  cases a with
  | nil => exact absurd rfl ha
  | cons n a =>
      refine Text.pieces_flatMap_cons ?_
      intro m hm
      exact (h.entryName (List.mem_reverse.1 hm)).no_separator

theorem plain_of_mem_pieces (h : t.HasDirectory a) {piece : Text}
    (hpiece : piece ∈ Text.pieces '/' a.path) : piece ≠ ['.'] ∧ piece ≠ ['.', '.'] := by
  by_cases ha : a = []
  · subst ha
    obtain rfl : piece = [] := by simpa [Text.pieces] using hpiece
    exact ⟨by decide, by decide⟩
  · rw [h.pieces_path ha] at hpiece
    obtain rfl | hmem := List.mem_cons.1 hpiece
    · exact ⟨by decide, by decide⟩
    · have hname := h.entryName (List.mem_reverse.1 hmem)
      exact ⟨hname.ne_here, hname.ne_up⟩

theorem ofPath_path (h : t.HasDirectory a) (ha : a ≠ []) :
    Step.ofPath a.path = a.reverse.map .enter := by
  have hnames : ∀ n ∈ a.reverse, EntryName n := fun n hn => h.entryName (List.mem_reverse.1 hn)
  have hlast : a.path.getLast? ≠ some '/' := by
    cases a with
    | nil => exact absurd rfl ha
    | cons n a =>
        rw [Address.path_cons, List.getLast?_append, List.getLast?_cons]
        intro hslash
        have hend : n.getLast?.getD '/' = '/' := by simpa using hslash
        have hsome := List.getLast?_eq_some_getLast h.1.1.ne_nil
        rw [hsome] at hend
        exact h.1.1.no_separator (hend ▸ List.getLast_mem h.1.1.ne_nil)
  rw [Step.ofPath, h.pieces_path ha, if_neg hlast, List.append_nil, List.filterMap_cons]
  exact Step.filterMap_ofPiece? hnames

end HasDirectory

theorem isAbsolute_path (a : Address) : Path.isAbsolute a.path = true := by
  cases a with
  | nil => rfl
  | cons n a =>
      rw [Address.path_cons]
      cases a.reverse with
      | nil => rfl
      | cons m names => rfl

/-- A walk from a directory through names of directories below it meets no link. -/
theorem landFollowing_enter {t : FileTree} {names : List Name} {a : Address}
    (h : t.HasDirectory (names.reverse ++ a))
    (follow : Place → List Step → Except OsError Landing) :
    landFollowing t .find follow (.ofAddress a) (names.map .enter) =
      .ok (.directory (.ofAddress (names.reverse ++ a))) := by
  induction names generalizing a with
  | nil => rfl
  | cons n names ih =>
      rw [List.reverse_cons, List.append_assoc, List.singleton_append] at h ⊢
      obtain ⟨⟨-, hfits, hnode⟩, -⟩ := h.of_append
      rw [List.map_cons, landFollowing, if_neg (by simp), if_neg (by simp),
        if_neg (Nat.not_lt.2 hfits), Place.address_ofAddress, hnode]
      exact ih h

theorem land_path {t : FileTree} {a : Address} (h : t.HasDirectory a) (links : Nat) :
    land t .find links .root (Step.ofPath a.path) = .ok (.directory (.ofAddress a)) := by
  by_cases ha : a = []
  · subst ha
    cases links with
    | zero => rfl
    | succ links => rfl
  · have hwalk : ∀ follow, landFollowing t .find follow .root (a.reverse.map .enter) =
        .ok (.directory (.ofAddress a)) := by
      intro follow
      have hall : t.HasDirectory (a.reverse.reverse ++ []) := by simpa using h
      have henter := landFollowing_enter hall follow
      rw [List.reverse_reverse, List.append_nil] at henter
      exact henter
    rw [h.ofPath_path ha]
    cases links with
    | zero => exact hwalk _
    | succ links => exact hwalk _

/-- The place is a directory of the tree. -/
structure HasPlace (t : FileTree) (p : Place) : Prop where
  lost : p.lost = 0
  directory : t.HasDirectory p.address

theorem hasPlace_root (t : FileTree) : t.HasPlace .root := ⟨rfl, trivial⟩

theorem HasPlace.eq_ofAddress {t : FileTree} {p : Place} (h : t.HasPlace p) :
    p = .ofAddress p.address := by
  obtain ⟨a, lost⟩ := p
  obtain rfl : lost = 0 := h.lost
  rfl

theorem HasPlace.parent {t : FileTree} {p : Place} (h : t.HasPlace p) : t.HasPlace p.parent := by
  rw [h.eq_ofAddress]
  exact ⟨rfl, h.directory.tail⟩

theorem HasPlace.origin {t : FileTree} {start : Place} (h : t.HasPlace start) (p : Path) :
    t.HasPlace (origin start p) := by
  unfold FileTree.origin
  split
  · exact hasPlace_root t
  · exact h

theorem hasPlace_of_landFollowing {t : FileTree} {u : Purpose}
    {follow : Place → List Step → Except OsError Landing}
    (hfollow : ∀ p steps q, t.HasPlace p → (∀ s ∈ steps, s.IsProper) →
      follow p steps = .ok (.directory q) → t.HasPlace q)
    {p q : Place} {steps : List Step} (hp : t.HasPlace p) (hsteps : ∀ s ∈ steps, s.IsProper)
    (h : landFollowing t u follow p steps = .ok (.directory q)) : t.HasPlace q := by
  induction steps generalizing p with
  | nil =>
      cases h
      exact hp
  | cons s rest ih =>
      have hrest : ∀ s ∈ rest, s.IsProper := fun s hs => hsteps s (List.mem_cons_of_mem _ hs)
      cases s with
      | here => exact ih hp hrest h
      | slash => exact ih hp hrest h
      | up => exact ih hp.parent hrest h
      | enter n =>
          have hname : EntryName n := hsteps _ List.mem_cons_self
          rw [landFollowing] at h
          split at h
          · cases h
          split at h
          · cases h
          split at h
          · cases h
          case isFalse hfits =>
          split at h
          · split at h
            · cases h
            · cases h
          case h_2 hnode =>
              have hdir : t.HasDirectory (n :: p.address) :=
                ⟨⟨hname, Nat.not_lt.1 hfits, hnode⟩, hp.directory⟩
              exact ih ⟨rfl, hdir⟩ hrest h
          case h_3 target hnode =>
              split at h
              · cases h
              · refine hfollow _ _ _ (hp.origin target) ?_ h
                intro s hs
                obtain hs | hs := List.mem_append.1 hs
                · exact Step.isProper_of_mem_ofPath hs
                · exact hrest s hs
          case h_4 =>
              split at h
              · cases h
              · cases h

theorem hasPlace_of_land {t : FileTree} {u : Purpose} {links : Nat} {p q : Place}
    {steps : List Step} (hp : t.HasPlace p) (hsteps : ∀ s ∈ steps, s.IsProper)
    (h : land t u links p steps = .ok (.directory q)) : t.HasPlace q := by
  induction links generalizing p q steps with
  | zero =>
      refine hasPlace_of_landFollowing ?_ hp hsteps h
      intro _ _ _ _ _ hfollow
      cases hfollow
  | succ links ih =>
      refine hasPlace_of_landFollowing ?_ hp hsteps h
      intro _ _ _ hp' hsteps' hfollow
      exact ih hp' hsteps' hfollow

theorem hasPlace_of_resolve? {t : FileTree} {start q : Place} (hstart : t.HasPlace start) {p : Path}
    (h : t.resolve? start p = some (.directory q)) : t.HasPlace q := by
  unfold resolve? at h
  split at h
  · cases h
  split at h
  · cases h
  · cases h
  case h_3 hland =>
      cases h
      exact hasPlace_of_land (hstart.origin p) (fun _ hs => Step.isProper_of_mem_ofPath hs) hland

end FileTree

end CommandShell
