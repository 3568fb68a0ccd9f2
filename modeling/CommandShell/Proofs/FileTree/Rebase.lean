import CommandShell.Proofs.FileTree.AbsolutePath
import CommandShell.Proofs.FileTree.Opening

/-!
# One directory under two paths

A path that goes on behind the path of a directory is looked up from this directory, and
it makes no difference which of its paths stands in front (`IsBase.locate_ofPieces`). So
it makes none to the directories that are made on the way, one after the other
(`makeDirectories_congr`), nor to the target that is opened at the end
(`Redirection.openTarget_rebase`).

The limits of the system do make a difference: a path that leads through links reaches
them earlier than one without. `WithinLimits` says that a path does not come near them.
-/

namespace CommandShell

/-- Pieces that can go on behind a directory. -/
structure Path.Continues (qs : List Text) : Prop where
  head : ∃ piece rest, qs = piece :: rest ∧ piece ≠ []
  separators : ∀ piece ∈ qs, '/' ∉ piece

theorem Path.Continues.ne_nil {qs : List Text} (h : Continues qs) : qs ≠ [] := by
  obtain ⟨piece, rest, rfl, -⟩ := h.head
  exact List.cons_ne_nil _ _

theorem Path.Continues.of_isPrefix {qs ys : List Text} (h : Continues qs) (hne : ys ≠ [])
    (hys : ys <+: qs) : Continues ys := by
  obtain ⟨piece, rest, rfl, hpiece⟩ := h.head
  obtain ⟨y, ys, rfl⟩ := List.exists_cons_of_ne_nil hne
  obtain ⟨rfl, -⟩ := List.cons_prefix_cons.1 hys
  exact ⟨⟨y, ys, rfl, hpiece⟩, fun p hp => h.separators p (hys.subset hp)⟩

theorem Path.Continues.goes {qs : List Text} (h : Continues qs) : Step.Goes (Step.ofPieces qs) := by
  obtain ⟨piece, rest, rfl, hpiece⟩ := h.head
  exact Step.goes_ofPieces hpiece rest

namespace FileTree

/-- The pieces of an absolute path that leads to a directory, through so many links. -/
structure IsBase (t : FileTree) (k : Nat) (ps : List Text) (d : Place) : Prop where
  separators : ∀ piece ∈ ps, '/' ∉ piece
  nuls : '\x00' ∉ Path.ofPieces ps
  leads : t.Leads k .root (ps.filterMap Step.ofPiece?) d

theorem IsBase.mono {t t' : FileTree} {k : Nat} {ps : List Text} {d : Place} (h : t.IsBase k ps d)
    (hadds : t.AddsDirectories t') : t'.IsBase k ps d :=
  { h with leads := h.leads.mono hadds.keepsWays }

/-- A path is not refused for its length. And however many links may be followed, it leads
to the same, also while the directories above it are being made, and so do the paths of
these. -/
structure WithinLimits (t : FileTree) (start : Place) (p : Path) : Prop where
  length : Text.utf8Size p < pathLimit
  links : ∀ ps, ps <:+ Path.ancestors p → ∀ p' ∈ Path.ancestors p, ∀ u n, linkLimit ≤ n →
    land (t.makeDirectories start ps).1 u n (origin start p') (Step.ofPath p') =
      land (t.makeDirectories start ps).1 u linkLimit (origin start p') (Step.ofPath p')

theorem WithinLimits.of_ne_linkLoop {t : FileTree} {start : Place} {p : Path}
    (hlength : Text.utf8Size p < pathLimit)
    (h : ∀ ps, ps <:+ Path.ancestors p → ∀ p' ∈ Path.ancestors p, ∀ u,
      land (t.makeDirectories start ps).1 u linkLimit (origin start p') (Step.ofPath p') ≠
        .error .linkLoop) : t.WithinLimits start p :=
  ⟨hlength, fun ps hps p' hp' u _ hn => land_eq_of_le hn (h ps hps p' hp' u)⟩

/-- What pieces lead to from a directory. -/
def locateFrom (t : FileTree) (u : Purpose) (d : Place) (qs : List Text) :
    Except IoError Landing :=
  if '\x00' ∈ Path.ofPieces qs then .error .nulInPath
  else (land t u linkLimit d (Step.ofPieces qs)).mapError .os

/-- The same where the length of a path is no obstacle. -/
def resolveFrom? (t : FileTree) (d : Place) (qs : List Text) : Option Landing :=
  if '\x00' ∈ Path.ofPieces qs then none
  else
    match land t .find linkLimit d (Step.ofPieces qs) with
    | .error _ => none
    | .ok (.vacant _ _) => none
    | .ok landing => some landing

namespace IsBase

variable {t : FileTree} {k : Nat} {ps qs : List Text} {d : Place}

theorem nul_mem_iff (h : t.IsBase k ps d) :
    '\x00' ∈ Path.ofPieces (ps ++ qs) ↔ '\x00' ∈ Path.ofPieces qs := by
  simp [Path.ofPieces_append, h.nuls]

theorem separators_append (h : t.IsBase k ps d) (hqs : Path.Continues qs) :
    ∀ piece ∈ ps ++ qs, '/' ∉ piece :=
  List.forall_mem_append.2 ⟨h.separators, hqs.separators⟩

/-- Behind a base the walk goes on from the directory, if the limit of links is not what
stops it. -/
theorem land_ofPieces (h : t.IsBase k ps d) (hqs : Path.Continues qs) {u : Purpose}
    (hlinks : land t u (linkLimit + k) .root (Step.ofPath (Path.ofPieces (ps ++ qs))) =
      land t u linkLimit .root (Step.ofPath (Path.ofPieces (ps ++ qs)))) :
    land t u linkLimit .root (Step.ofPath (Path.ofPieces (ps ++ qs))) =
      land t u linkLimit d (Step.ofPieces qs) := by
  rw [← hlinks, Step.ofPath_ofPieces_append hqs.ne_nil (h.separators_append hqs), Nat.add_comm,
    h.leads.land_append hqs.goes]

theorem origin_eq (hqs : Path.Continues qs) (start : Place) :
    origin start (Path.ofPieces (ps ++ qs)) = .root :=
  origin_of_isAbsolute (Path.isAbsolute_ofPieces (by simp [hqs.ne_nil])) start

theorem locate_ofPieces (h : t.IsBase k ps d) (hqs : Path.Continues qs) {u : Purpose}
    (hlinks : land t u (linkLimit + k) .root (Step.ofPath (Path.ofPieces (ps ++ qs))) =
      land t u linkLimit .root (Step.ofPath (Path.ofPieces (ps ++ qs))))
    (hlength : Text.utf8Size (Path.ofPieces (ps ++ qs)) < pathLimit) (start : Place) :
    t.locate u start (Path.ofPieces (ps ++ qs)) = t.locateFrom u d qs := by
  have hne : Path.ofPieces (ps ++ qs) ≠ [] := Path.ofPieces_ne_nil (by simp [hqs.ne_nil])
  rw [locate, if_neg hne, if_neg (Nat.not_le.2 hlength), origin_eq hqs, h.land_ofPieces hqs hlinks,
    locateFrom]
  simp only [h.nul_mem_iff]

theorem resolve?_ofPieces (h : t.IsBase k ps d) (hqs : Path.Continues qs)
    (hlinks : land t .find (linkLimit + k) .root (Step.ofPath (Path.ofPieces (ps ++ qs))) =
      land t .find linkLimit .root (Step.ofPath (Path.ofPieces (ps ++ qs)))) (start : Place) :
    t.resolve? start (Path.ofPieces (ps ++ qs)) = t.resolveFrom? d qs := by
  have hne : Path.ofPieces (ps ++ qs) ≠ [] := Path.ofPieces_ne_nil (by simp [hqs.ne_nil])
  unfold resolve? resolveFrom?
  rw [origin_eq hqs, h.land_ofPieces hqs hlinks]
  by_cases hnul : '\x00' ∈ Path.ofPieces qs
  · rw [if_pos (.inl (h.nul_mem_iff.2 hnul)), if_pos hnul]
  · have hopen : ¬ ('\x00' ∈ Path.ofPieces (ps ++ qs) ∨ Path.ofPieces (ps ++ qs) = [] ∨
        Place.root.lost ≠ 0) := by
      rintro (hall | hnil | hroot)
      · exact hnul (h.nul_mem_iff.1 hall)
      · exact hne hnil
      · exact hroot rfl
    exact (if_neg hopen).trans (if_neg hnul).symm

/-- Without its vacuous end the path of a base leads to the same directory. -/
theorem leads_trimmed (h : t.IsBase k ps d) :
    t.Leads k .root (Step.ofPath (Path.trimmed ps)) d := by
  obtain ⟨front, back, rfl, hback, htrimmed⟩ := Path.exists_trimmed_eq ps
  have hleads := h.leads
  rw [List.filterMap_append] at hleads
  obtain ⟨i, j, q, rfl, hfront, hrest⟩ := hleads.exists_of_append
  obtain ⟨rfl, rfl⟩ := hrest.eq_of_forall_here (Step.eq_here_of_isVacuous hback)
  by_cases hnil : front = []
  · subst hnil
    cases hfront
    rw [htrimmed]
    exact .slash (.nil _)
  · have hsep : ∀ piece ∈ front, '/' ∉ piece := fun piece hp =>
      h.separators piece (List.mem_append_left _ hp)
    rw [htrimmed, Path.cons_join hnil, Step.ofPath_ofPieces hnil hsep]
    exact leads_ofPieces_iff.2 hfront

/-- And so it is what the path of a base is resolved to. -/
theorem resolve?_eq (h : t.IsBase k ps d) (hk : k ≤ linkLimit) (hne : ps ≠ []) (start : Place) :
    t.resolve? start (Path.ofPieces ps) = some (.directory d) := by
  have horigin := origin_of_isAbsolute (Path.isAbsolute_ofPieces hne) start
  have hland := (leads_ofPieces_iff.2 h.leads).land_find (linkLimit - k)
  rw [Nat.add_sub_cancel' hk, ← Step.ofPath_ofPieces hne h.separators] at hland
  have hopen : ¬ ('\x00' ∈ Path.ofPieces ps ∨ Path.ofPieces ps = [] ∨ Place.root.lost ≠ 0) := by
    rintro (hnul | hnil | hroot)
    · exact h.nuls hnul
    · exact Path.ofPieces_ne_nil hne hnil
    · exact hroot rfl
  rw [resolve?, horigin, hland]
  exact if_neg hopen

end IsBase

theorem exists_isBase_of_resolve? {t : FileTree} {start d : Place} {ps : List Text} (hne : ps ≠ [])
    (hsep : ∀ piece ∈ ps, '/' ∉ piece)
    (h : t.resolve? start (Path.ofPieces ps) = some (.directory d)) :
    ∃ k, k ≤ linkLimit ∧ t.IsBase k ps d := by
  have horigin := origin_of_isAbsolute (Path.isAbsolute_ofPieces hne) start
  rw [resolve?, horigin, Step.ofPath_ofPieces hne hsep] at h
  split at h
  · cases h
  case isFalse hopen =>
      split at h
      · cases h
      · cases h
      case h_3 hland =>
          cases h
          obtain ⟨k, hk, hleads⟩ := exists_leads_of_land hland
          exact ⟨k, hk, hsep, fun hnul => hopen (.inl hnul), leads_ofPieces_iff.1 hleads⟩

/-- The names of a directory lead to it without a link. -/
theorem isBase_of_hasDirectory {t : FileTree} {a : Address} (h : t.HasDirectory a)
    (hnul : '\x00' ∉ a.path) : t.IsBase 0 a.reverse (.ofAddress a) := by
  refine ⟨fun piece hpiece => (h.entryName (List.mem_reverse.1 hpiece)).no_separator, ?_, ?_⟩
  · cases a with
    | nil => exact List.not_mem_nil
    | cons n a => exact hnul
  · have hnames : ∀ n ∈ a.reverse, EntryName n := fun n hn => h.entryName (List.mem_reverse.1 hn)
    rw [Step.filterMap_ofPiece? hnames]
    by_cases ha : a = []
    · subst ha
      exact .nil _
    · have hleads := leads_path h
      rwa [h.ofPath_path ha] at hleads

theorem IsBase.hasPlace {t : FileTree} {k : Nat} {ps : List Text} {d : Place}
    (h : t.IsBase k ps d) (hne : ps ≠ []) : t.HasPlace d := by
  have hland := (leads_ofPieces_iff.2 h.leads).land_find 0
  rw [← Step.ofPath_ofPieces hne h.separators] at hland
  exact hasPlace_of_land (hasPlace_root t) (fun _ hs => Step.isProper_of_mem_ofPath hs) hland

theorem leadsToDirectory_of_leads {t : FileTree} {k : Nat} {p : Path} {start d : Place}
    (h : t.Leads k (origin start p) (Step.ofPath p) d) (hk : k ≤ linkLimit) (hp : Accepts p) :
    t.leadsToDirectory start p = true := by
  have hland := h.land_find (linkLimit - k)
  rw [Nat.add_sub_cancel' hk] at hland
  have hlocate := locate_eq_ok_iff.2 ⟨hp, hland⟩
  simp only [leadsToDirectory, nodeAt?, hlocate]

/-- A directory that is there is not made, nor is anything above it. -/
theorem makeDirectories_of_leads {t : FileTree} {k : Nat} {p : Path} {start d : Place}
    (h : t.Leads k (origin start p) (Step.ofPath p) d) (hk : k ≤ linkLimit) (hp : Accepts p)
    (rest : List Path) : t.makeDirectories start (p :: rest) = (t, .ok ()) := by
  obtain ⟨l, hland, hvacant⟩ := h.exists_land_entry (linkLimit - k)
  rw [Nat.add_sub_cancel' hk] at hland
  have hmake : t.makeDirectory start p = .error (.os .alreadyExists) := by
    rw [makeDirectory, locate_eq_ok_iff.2 ⟨hp, hland⟩]
    cases l with
    | vacant q name => exact absurd rfl (hvacant q name)
    | directory q => rfl
    | occupied q name node => rfl
  rw [makeDirectories, if_neg hp.ne_nil, hmake]
  simp only [leadsToDirectory_of_leads h hk hp, if_true]

section

variable {t : FileTree} {start start' : Place} {p p' : Path}

theorem makeDirectory_congr (h : t.locate .entry start p = t.locate .entry start' p') :
    t.makeDirectory start p = t.makeDirectory start' p' := by
  rw [makeDirectory, h, makeDirectory]

theorem leadsToDirectory_congr (h : t.locate .find start p = t.locate .find start' p') :
    t.leadsToDirectory start p = t.leadsToDirectory start' p' := by
  unfold leadsToDirectory nodeAt?
  rw [h]

theorem openForWriting_congr (h : t.locate .create start p = t.locate .create start' p')
    (m : WriteMode) : t.openForWriting start p m = t.openForWriting start' p' m := by
  unfold openForWriting
  rw [h]

end

/-- Two ways to name directories that are to be made, one after the other, make no
difference, if each of them is found in the same way when it is its turn. -/
theorem makeDirectories_congr {α : Type} {t : FileTree} {start start' : Place}
    {f f' : α → Path} {rest rest' : List Path}
    (hrest : t.makeDirectories start rest = (t, .ok ()))
    (hrest' : t.makeDirectories start' rest' = (t, .ok ())) {ys : List α}
    (hne : ∀ y ∈ ys, f y ≠ [] ∧ f' y ≠ [])
    (hlocate : ∀ zs, zs <:+ ys → ∀ y ∈ ys, ∀ u,
      (t.makeDirectories start (zs.map f ++ rest)).1.locate u start (f y) =
        (t.makeDirectories start (zs.map f ++ rest)).1.locate u start' (f' y)) :
    t.makeDirectories start (ys.map f ++ rest) = t.makeDirectories start' (ys.map f' ++ rest') := by
  induction ys with
  | nil => exact hrest.trans hrest'.symm
  | cons y ys ih =>
      have habove := ih (fun z hz => hne z (List.mem_cons_of_mem _ hz))
        fun zs hzs z hz =>
          hlocate zs (hzs.trans (List.suffix_cons y ys)) z (List.mem_cons_of_mem _ hz)
      have hnow : ∀ u, t.locate u start (f y) = t.locate u start' (f' y) := by
        intro u
        have h := hlocate [] List.nil_suffix y List.mem_cons_self u
        rw [List.map_nil, List.nil_append, hrest] at h
        exact h
      have hthen := hlocate ys (List.suffix_cons y ys) y List.mem_cons_self
      obtain ⟨hy, hy'⟩ := hne y List.mem_cons_self
      rw [List.map_cons, List.map_cons, List.cons_append, List.cons_append, makeDirectories,
        makeDirectories, if_neg hy, if_neg hy', makeDirectory_congr (hnow .entry),
        leadsToDirectory_congr (hnow .find), ← habove]
      rcases hmade : t.makeDirectories start (ys.map f ++ rest) with ⟨t', e | ⟨⟩⟩
      · rfl
      · rw [hmade] at hthen
        have hmake := makeDirectory_congr (hthen .entry)
        have hleads := leadsToDirectory_congr (hthen .find)
        dsimp only at hmake hleads ⊢
        rw [hmake, hleads]

/-- A directory under two paths, of which the second leads there without a link. -/
structure TwoBases (t : FileTree) (k : Nat) (ps ps' : List Text) (d : Place) : Prop where
  base : t.IsBase k ps d
  plain : t.IsBase 0 ps' d

section

variable {t : FileTree} {k : Nat} {ps ps' qs : List Text} {start start' d : Place}

theorem utf8Size_le_of_isPrefix {p q : Path} (h : p <+: q) : Text.utf8Size p ≤ Text.utf8Size q := by
  obtain ⟨s, rfl⟩ := h
  rw [Text.utf8Size_append]
  exact Nat.le_add_right _ _

theorem ofPieces_append_isPrefix {ys : List Text} (h : ys <+: qs) (ps : List Text) :
    Path.ofPieces (ps ++ ys) <+: Path.ofPieces (ps ++ qs) := by
  obtain ⟨zs, rfl⟩ := h
  rw [← List.append_assoc, Path.ofPieces_append (ps ++ ys)]
  exact List.prefix_append _ _

/-- Within the limits a base with links is as good as one without. -/
theorem WithinLimits.land_eq (h : t.WithinLimits start (Path.ofPieces (ps ++ qs)))
    {ys : List Text} (hys : Path.Continues ys)
    (hmem : Path.ofPieces (ps ++ ys) ∈ Path.ancestors (Path.ofPieces (ps ++ qs)))
    {above : List Path} (habove : above <:+ Path.ancestors (Path.ofPieces (ps ++ qs)))
    (u : Purpose) (k : Nat) :
    land (t.makeDirectories start above).1 u (linkLimit + k) .root
        (Step.ofPath (Path.ofPieces (ps ++ ys))) =
      land (t.makeDirectories start above).1 u linkLimit .root
        (Step.ofPath (Path.ofPieces (ps ++ ys))) := by
  have hlinks := h.links above habove _ hmem u (linkLimit + k) (Nat.le_add_right _ _)
  rwa [IsBase.origin_eq hys] at hlinks

/-- A path behind one base leads to the same as behind the other, also while directories
are being made. -/
theorem TwoBases.locate_eq (h : t.TwoBases k ps ps' d)
    (hlimits : t.WithinLimits start (Path.ofPieces (ps ++ qs)))
    (hlength : Text.utf8Size (Path.ofPieces (ps' ++ qs)) < pathLimit)
    (hqs : Path.Continues qs) {ys : List Text} (hne : ys ≠ []) (hys : ys <+: qs)
    (hmem : Path.ofPieces (ps ++ ys) ∈ Path.ancestors (Path.ofPieces (ps ++ qs)))
    {above : List Path} (habove : above <:+ Path.ancestors (Path.ofPieces (ps ++ qs)))
    (u : Purpose) :
    (t.makeDirectories start above).1.locate u start (Path.ofPieces (ps ++ ys)) =
      (t.makeDirectories start above).1.locate u start' (Path.ofPieces (ps' ++ ys)) := by
  have hadds : t.AddsDirectories (t.makeDirectories start above).1 :=
    addsDirectories_makeDirectories
  have hcontinues := hqs.of_isPrefix hne hys
  have hfits := Nat.lt_of_le_of_lt (utf8Size_le_of_isPrefix (ofPieces_append_isPrefix hys ps))
    hlimits.length
  have hfits' :=
    Nat.lt_of_le_of_lt (utf8Size_le_of_isPrefix (ofPieces_append_isPrefix hys ps')) hlength
  rw [(h.base.mono hadds).locate_ofPieces hcontinues
      (hlimits.land_eq hcontinues hmem habove u k) hfits,
    (h.plain.mono hadds).locate_ofPieces hcontinues rfl hfits']

theorem TwoBases.locate_ofPieces (h : t.TwoBases k ps ps' d)
    (hlimits : t.WithinLimits start (Path.ofPieces (ps ++ qs)))
    (hlength : Text.utf8Size (Path.ofPieces (ps' ++ qs)) < pathLimit)
    (hqs : Path.Continues qs) (u : Purpose) :
    t.locate u start (Path.ofPieces (ps ++ qs)) = t.locate u start' (Path.ofPieces (ps' ++ qs)) :=
  h.locate_eq hlimits hlength hqs hqs.ne_nil (List.prefix_refl qs) List.mem_cons_self
    List.nil_suffix u

theorem IsBase.exists_parent? (h : t.IsBase k ps d) (hqs : Path.Continues qs)
    {ys : List (List Text)} (habove : ∀ ps : List Text, Path.above ['/'] (ps ++ qs).reverse =
      ys.map (fun y => Path.ofPieces (ps ++ y)) ++
        Path.trimmed ps :: Path.above ['/'] ps.reverse) :
    ∃ parent, Path.parent? (Path.ofPieces (ps ++ qs)) = some parent ∧
      Path.ancestors parent = ys.map (fun y => Path.ofPieces (ps ++ y)) ++
        Path.trimmed ps :: Path.above ['/'] ps.reverse := by
  have hne : ps ++ qs ≠ [] := List.append_ne_nil_of_right_ne_nil ps hqs.ne_nil
  have hsep := h.separators_append hqs
  have hsome : ∃ parent, Path.parent? (Path.ofPieces (ps ++ qs)) = some parent := by
    rw [Path.parent?, Path.ancestors_ofPieces hne hsep, List.tail_cons, habove]
    cases ys with
    | nil => exact ⟨_, rfl⟩
    | cons y ys => exact ⟨_, rfl⟩
  obtain ⟨parent, hparent⟩ := hsome
  refine ⟨parent, hparent, ?_⟩
  rw [Path.ancestors_of_parent? hne hsep hparent, habove]

/-- A continuation that names nothing stays in the directory. -/
theorem IsBase.leadsToDirectory_of_isVacuous (h : t.IsBase k ps d) (hk : k ≤ linkLimit)
    (hvacuous : ∀ piece ∈ qs, Path.isVacuous piece = true) (hqs : Path.Continues qs)
    (hlength : Text.utf8Size (Path.ofPieces (ps ++ qs)) < pathLimit) (start : Place) :
    t.leadsToDirectory start (Path.ofPieces (ps ++ qs)) = true := by
  have hnul : '\x00' ∉ Path.ofPieces (ps ++ qs) := by
    rw [h.nul_mem_iff]
    intro hmem
    obtain ⟨piece, hpiece, hnul⟩ := List.mem_flatMap.1 hmem
    have hcases : piece = [] ∨ piece = ['.'] := by
      simpa [Path.isVacuous] using hvacuous piece hpiece
    obtain rfl | rfl := hcases
    · simp at hnul
    · simp at hnul
  have hleads : t.Leads k .root (Step.ofPath (Path.ofPieces (ps ++ qs))) d := by
    rw [Step.ofPath_ofPieces_append hqs.ne_nil (h.separators_append hqs)]
    have hhere := Leads.of_forall_here (t := t) (p := d) (Step.eq_here_of_isVacuous hvacuous)
    exact h.leads.append (leads_ofPieces_iff.2 hhere)
  have hne : Path.ofPieces (ps ++ qs) ≠ [] :=
    Path.ofPieces_ne_nil (List.append_ne_nil_of_right_ne_nil ps hqs.ne_nil)
  rw [← IsBase.origin_eq hqs start] at hleads
  exact leadsToDirectory_of_leads hleads hk ⟨hnul, hne, hlength⟩

/-- A base leads to its directory, and so it is not made. -/
theorem IsBase.makeDirectories_trimmed (h : t.IsBase k ps d) (hk : k ≤ linkLimit)
    (hqs : qs ≠ []) (hlength : Text.utf8Size (Path.ofPieces (ps ++ qs)) < pathLimit)
    (start : Place) (rest : List Path) :
    t.makeDirectories start (Path.trimmed ps :: rest) = (t, .ok ()) := by
  have hnul : '\x00' ∉ Path.trimmed ps := by
    intro hmem
    have hall := (Path.trimmed_isPrefix (List.cons_ne_nil [] []) ps).subset hmem
    rw [Path.ofPieces_append] at hall
    obtain hps | hslash := List.mem_append.1 hall
    · exact h.nuls hps
    · simp [Path.ofPieces] at hslash
  have horigin : origin start (Path.trimmed ps) = .root := origin_of_isAbsolute rfl start
  have hfits := Nat.lt_of_le_of_lt (utf8Size_le_of_isPrefix (Path.trimmed_isPrefix hqs ps)) hlength
  exact makeDirectories_of_leads (horigin ▸ h.leads_trimmed) hk
    ⟨hnul, List.cons_ne_nil _ _, hfits⟩ rest

end

end FileTree

/-- The failure but for the path that it tells. -/
def TargetError.withoutPath : TargetError → TargetError
  | .isDirectory _ => .isDirectory []
  | .createDirectory _ cause => .createDirectory [] cause
  | .opening _ cause => .opening [] cause

namespace Redirection

open FileTree

/-- Two ways to name a target make no difference, if it is found in the same way, and the
directories above it too. -/
theorem openTarget_congr {t : FileTree} {start start' : Place} {currentDir currentDir' : Path}
    {f f' : Text} (hleads : t.leadsToDirectory start (Path.join currentDir f) =
      t.leadsToDirectory start' (Path.join currentDir' f'))
    (hparents : t.leadsToDirectory start (Path.join currentDir f) = false → ∃ parent parent',
      Path.parent? (Path.join currentDir f) = some parent ∧
      Path.parent? (Path.join currentDir' f') = some parent' ∧
      t.createDirectories start parent = t.createDirectories start' parent' ∧
      (t.createDirectories start parent).1.locate .create start (Path.join currentDir f) =
        (t.createDirectories start parent).1.locate .create start' (Path.join currentDir' f'))
    (mode : WriteMode) :
    (openTarget t start currentDir f mode).1 = (openTarget t start' currentDir' f' mode).1 ∧
      (openTarget t start currentDir f mode).2.mapError TargetError.withoutPath =
        (openTarget t start' currentDir' f' mode).2.mapError TargetError.withoutPath := by
  unfold openTarget
  dsimp only
  rw [← hleads]
  cases hdir : t.leadsToDirectory start (Path.join currentDir f) with
  | true => exact ⟨rfl, rfl⟩
  | false =>
      obtain ⟨parent, parent', hparent, hparent', hmade, hcreate⟩ := hparents hdir
      rw [hparent, hparent']
      dsimp only
      rw [← hmade]
      rcases hcreated : t.createDirectories start parent with ⟨t', cause | ⟨⟩⟩
      · exact ⟨rfl, rfl⟩
      · rw [hcreated] at hcreate
        have hopen := openForWriting_congr hcreate mode
        dsimp only at hopen
        simp only [Bool.false_eq_true, if_false, openTarget.openFile, hopen]
        rcases t'.openForWriting start' (Path.join currentDir' f') mode with cause | ⟨t'', w⟩
        · exact ⟨rfl, rfl⟩
        · exact ⟨rfl, rfl⟩

/-- Opening a target behind a base is the same as behind another base of the directory. -/
theorem openTarget_rebase {t : FileTree} {k : Nat} {ps ps' qs : List Text}
    {start start' d : Place} (h : t.TwoBases k ps ps' d) (hk : k ≤ linkLimit)
    (hqs : Path.Continues qs) (hlimits : t.WithinLimits start (Path.ofPieces (ps ++ qs)))
    (hlength : Text.utf8Size (Path.ofPieces (ps' ++ qs)) < pathLimit)
    {currentDir currentDir' : Path} {f f' : Text}
    (hf : Path.join currentDir f = Path.ofPieces (ps ++ qs))
    (hf' : Path.join currentDir' f' = Path.ofPieces (ps' ++ qs)) (mode : WriteMode) :
    (openTarget t start currentDir f mode).1 = (openTarget t start' currentDir' f' mode).1 ∧
      (openTarget t start currentDir f mode).2.mapError TargetError.withoutPath =
        (openTarget t start' currentDir' f' mode).2.mapError TargetError.withoutPath := by
  have hlocate : ∀ u, t.locate u start (Path.ofPieces (ps ++ qs)) =
      t.locate u start' (Path.ofPieces (ps' ++ qs)) := h.locate_ofPieces hlimits hlength hqs
  refine openTarget_congr ?_ ?_ mode
  · rw [hf, hf', leadsToDirectory_congr (hlocate .find)]
  intro hdir
  rw [hf] at hdir
  rw [hf, hf']
  by_cases hvacuous : ∃ piece ∈ qs, Path.isVacuous piece = false
  · obtain ⟨ys, hys, habove⟩ := Path.exists_above_append hvacuous
    obtain ⟨parent, hparent, hancestors⟩ := h.base.exists_parent? hqs habove
    obtain ⟨parent', hparent', hancestors'⟩ := h.plain.exists_parent? hqs habove
    have hall := Path.ancestors_ofPieces (List.append_ne_nil_of_right_ne_nil ps hqs.ne_nil)
      (h.base.separators_append hqs)
    rw [habove] at hall
    have hne : ∀ y ∈ ys, Path.ofPieces (ps ++ y) ≠ [] ∧ Path.ofPieces (ps' ++ y) ≠ [] := by
      intro y hy
      constructor
      · exact Path.ofPieces_ne_nil (List.append_ne_nil_of_right_ne_nil ps (hys y hy).1)
      · exact Path.ofPieces_ne_nil (List.append_ne_nil_of_right_ne_nil ps' (hys y hy).1)
    have hmade := makeDirectories_congr
      (h.base.makeDirectories_trimmed hk hqs.ne_nil hlimits.length start
        (Path.above ['/'] ps.reverse))
      (h.plain.makeDirectories_trimmed (Nat.zero_le _) hqs.ne_nil hlength start'
        (Path.above ['/'] ps'.reverse)) hne (by
      intro zs hzs y hy u
      refine h.locate_eq hlimits hlength hqs (hys y hy).1 (hys y hy).2 ?_ ?_ u
      · rw [hall]
        exact List.mem_cons_of_mem _ (List.mem_append_left _ (List.mem_map_of_mem hy))
      · obtain ⟨front, rfl⟩ := hzs
        rw [hall, List.map_append, List.append_assoc]
        exact (List.suffix_append _ _).trans (List.suffix_cons _ _))
    refine ⟨parent, parent', hparent, hparent', ?_, ?_⟩
    · rw [createDirectories, createDirectories, hancestors, hancestors', hmade]
    · rw [createDirectories, hancestors]
      exact h.locate_eq hlimits hlength hqs hqs.ne_nil (List.prefix_refl qs) List.mem_cons_self
        (hall ▸ List.suffix_cons _ _) .create
  · -- The path names the directory itself.
    have hdirectory := h.base.leadsToDirectory_of_isVacuous hk (by simpa using hvacuous)
      hqs hlimits.length start
    rw [hdirectory] at hdir
    cases hdir

end Redirection

end CommandShell
