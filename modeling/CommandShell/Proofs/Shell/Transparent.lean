import CommandShell.Probe
import CommandShell.Proofs.FileTree.Rebase
import CommandShell.Proofs.Lookup.SearchPath
import CommandShell.Proofs.Shell.WorkingDirectory
import Mathlib.Data.List.Infix

/-!
# Changing the directory is transparent

The directory to which `cd` goes has two paths: the one that it was given, and the one
without links that becomes the current directory. A relative path means the same behind
both (`State.TwoBases`), so it makes no difference whether it is used after the `cd` or
behind the target of the `cd`: for a further `cd`, for the target of a redirection, or
for a command.

The main statement is `ChangeDirectory.transparent`.
-/

namespace CommandShell

namespace Path

/-- A path that is not empty, is no name of the home directory, and is read from the
current directory. -/
structure IsRelative (q : Path) : Prop where
  ne_nil : q ≠ []
  relative : isAbsolute q = false
  plain : q.head? ≠ some '~'

theorem IsRelative.continues {q : Path} (h : IsRelative q) : Continues (Text.pieces '/' q) :=
  ⟨exists_pieces_of_relative h.relative h.ne_nil, fun _ => Text.not_mem_of_mem_pieces⟩

theorem two_le_length_components {a q : Path} (ha : a ≠ [])
    (haq : isAbsolute (a ++ '/' :: q) = false) (hq : IsRelative q)
    (h : 2 ≤ (components q).length) : 2 ≤ (components (a ++ '/' :: q)).length := by
  obtain ⟨c, t, rfl⟩ := List.exists_cons_of_ne_nil ha
  have hc : c ≠ '/' := by
    rintro rfl
    cases haq
  obtain ⟨p, ps, -, hpieces⟩ := Text.pieces_cons_of_ne hc t
  obtain ⟨⟨piece, rest, hq, hpiece⟩, -⟩ := hq.continues
  have hall : Text.pieces '/' (c :: t ++ '/' :: q) = (c :: p) :: (ps ++ piece :: rest) := by
    rw [Text.pieces_append_separator, hpieces, hq]
    rfl
  rw [length_components hq hpiece] at h
  rw [length_components hall (List.cons_ne_nil c p), List.filter_append, List.length_append]
  have hrest := (List.sublist_cons_self piece rest).filter (!isVacuous ·)
  have hlength := hrest.length_le
  omega

end Path

namespace Lookup

/-- A name with several components is a path from the current directory. -/
theorem command?_of_two_le {name : Path} (hrelative : Path.isAbsolute name = false)
    (h : 2 ≤ (Path.components name).length) (t : FileTree) (process : Place) (searchPath : Text)
    (currentDir : Path) :
    command? t process searchPath currentDir name =
      atPath t process (Path.join currentDir name) := by
  refine command?_of_ne hrelative ?_ ?_
  · rintro rfl
    exact absurd h (by decide)
  · intro x hx
    simp [hx] at h

end Lookup

namespace ChangeDirectory

theorem destination?_eq {target : Path} (hne : target ≠ []) (hplain : target.head? ≠ some '~')
    (home : Option Path) (currentDir : Path) :
    destination? (some target) home currentDir = some (Path.join currentDir target) := by
  obtain ⟨c, t, rfl⟩ := List.exists_cons_of_ne_nil hne
  have hc : c ≠ '~' := by simpa using hplain
  unfold destination?
  split
  all_goals simp_all

/-- When `cd` goes to a target that is a path, and what it leaves. -/
theorem move_eq_ok_iff {target : Path} (hne : target ≠ []) (hplain : target.head? ≠ some '~')
    (st s : State) :
    (ChangeDirectory.mk (some target)).move st = (s, .ok ()) ↔ ∃ place path,
      st.tree.resolve? st.workDir (Path.join st.env.currentDir target) =
        some (.directory place) ∧
      place.path? = some path ∧ st.tree.leadsToDirectory st.workDir path = true ∧
      st.barred.lookup place.address = none ∧
      s = { st with workDir := place, env := { st.env with currentDir := path } } := by
  have hgoal : (ChangeDirectory.mk (some target)).goal st =
      directoryAt st.tree st.workDir target (Path.join st.env.currentDir target) := by
    rw [goal, destination?_eq hne hplain]
    rfl
  constructor
  · intro h
    obtain ⟨e, hmove⟩ | ⟨place, path, hplace, hbarred, hmove⟩ :=
      (ChangeDirectory.mk (some target)).move_cases st
    · cases h.symm.trans hmove
    · rw [hgoal] at hplace
      obtain ⟨hresolve, hpath, hleads⟩ := directoryAt_eq_ok_iff.1 hplace
      exact ⟨place, path, hresolve, hpath, hleads, hbarred,
        congrArg Prod.fst (h.symm.trans hmove)⟩
  · rintro ⟨place, path, hresolve, hpath, hleads, hbarred, rfl⟩
    exact move_of_ok (hgoal.trans (directoryAt_eq_ok_iff.2 ⟨hresolve, hpath, hleads⟩)) hbarred

end ChangeDirectory

namespace FileTree

/-- No name has a character that ends a path for the system. -/
def NulFree (t : FileTree) : Prop := ∀ n a, t.node? (n :: a) ≠ none → '\x00' ∉ n

theorem nulFree_of_entries {t : FileTree} (h : ∀ e ∈ t.entries, ∀ n ∈ e.1, '\x00' ∉ n) :
    t.NulFree := by
  intro n a hnode hnul
  refine hnode (List.lookup_eq_none_iff.2 ?_)
  intro e he
  refine bne_iff_ne.2 ?_
  rintro heq
  exact h e he n (heq ▸ List.mem_cons_self) hnul

theorem HasDirectory.nul_not_mem {t : FileTree} {a : Address} (h : t.HasDirectory a)
    (hnames : t.NulFree) : '\x00' ∉ a.path := by
  have hall : ∀ n ∈ a, '\x00' ∉ n := by
    induction a with
    | nil => simp
    | cons m a ih =>
        intro n hn
        obtain rfl | hn := List.mem_cons.1 hn
        · exact hnames n a (by simp [h.1.2.2])
        · exact ih h.2 n hn
  cases a with
  | nil => simp
  | cons m a =>
      intro hmem
      obtain ⟨n, hn, hnul⟩ := List.mem_flatMap.1 hmem
      obtain hslash | hnul := List.mem_cons.1 hnul
      · cases hslash
      · exact hall n (List.mem_reverse.1 hn) hnul

end FileTree

/-- The pieces of the path that a target of `cd` is read as, alone and with another path
behind it. -/
theorem Path.exists_pieces {currentDir a : Path} (h : isAbsolute currentDir = true) (hne : a ≠ []) :
    ∃ ps, ps ≠ [] ∧ (∀ piece ∈ ps, '/' ∉ piece) ∧ join currentDir a = ofPieces ps ∧
      ∀ q, join currentDir (a ++ '/' :: q) = ofPieces (ps ++ Text.pieces '/' q) := by
  obtain ⟨t, ht⟩ := eq_cons_of_isAbsolute (isAbsolute_join (p := a) h)
  refine ⟨Text.pieces '/' t, Text.pieces_ne_nil '/' t, fun _ => Text.not_mem_of_mem_pieces, ?_, ?_⟩
  · rw [ht, ofPieces_pieces]
  · intro q
    rw [join_append_separator hne, ht, ← Text.pieces_append_separator, ofPieces_pieces]
    rfl

namespace State

/-- What one path stands for in one state is what the other stands for in the other: for
`cd`, for a redirection and for a command. -/
structure SameUnder (st' : State) (q : Path) (st : State) (p : Path) : Prop where
  move : ∀ s, (ChangeDirectory.mk (some q)).move st' = (s, .ok ()) ↔
    (ChangeDirectory.mk (some p)).move st = (s, .ok ())
  target : ∀ mode,
    (Redirection.openTarget st'.tree st'.workDir st'.env.currentDir q mode).1 =
      (Redirection.openTarget st.tree st.workDir st.env.currentDir p mode).1 ∧
    (Redirection.openTarget st'.tree st'.workDir st'.env.currentDir q mode).2.mapError
        TargetError.withoutPath =
      (Redirection.openTarget st.tree st.workDir st.env.currentDir p mode).2.mapError
        TargetError.withoutPath
  command : 2 ≤ (Path.components q).length → ∀ searchPath,
    (Lookup.command? st'.tree st'.workDir searchPath st'.env.currentDir q).map
        (st'.tree.locate .find st'.workDir) =
      (Lookup.command? st.tree st.workDir searchPath st.env.currentDir p).map
        (st.tree.locate .find st.workDir)

end State

namespace Lookup

theorem map_atPath_congr {t : FileTree} {start start' : Place} {p p' : Path}
    (h : t.locate .find start p = t.locate .find start' p') :
    (atPath t start p).map (t.locate .find start) =
      (atPath t start' p').map (t.locate .find start') := by
  have hleads : t.leadsSomewhere start p = t.leadsSomewhere start' p' := by
    unfold FileTree.leadsSomewhere FileTree.nodeAt?
    rw [h]
  rw [atPath, atPath, hleads]
  split
  · exact congrArg some h
  · rfl

/-- A path with several components is looked up where it leads from the current
directory. -/
theorem command?_append_separator {a q : Path} (ha : a ≠ []) (hq : Path.IsRelative q)
    (h : 2 ≤ (Path.components q).length) (t : FileTree) (process : Place) (searchPath : Text)
    (currentDir : Path) :
    command? t process searchPath currentDir (a ++ '/' :: q) =
      atPath t process (Path.join currentDir (a ++ '/' :: q)) := by
  cases habsolute : Path.isAbsolute (a ++ '/' :: q) with
  | true => rw [command?, if_pos habsolute, Path.join_of_isAbsolute _ habsolute]
  | false =>
      exact command?_of_two_le habsolute (Path.two_le_length_components ha habsolute hq h) _ _ _ _

end Lookup

namespace ChangeDirectory

open FileTree

section

variable {st : State} {a q : Path} (hcurrent : Path.isAbsolute st.env.currentDir = true)
  (hne : a ≠ []) (hplain : a.head? ≠ some '~') (hq : Path.IsRelative q)

include hne hplain

theorem head?_append (q : Path) : (a ++ '/' :: q).head? ≠ some '~' := by
  obtain ⟨c, t, rfl⟩ := List.exists_cons_of_ne_nil hne
  exact hplain

include hq

/-- With a base behind which the two paths go on, they stand for the same. -/
theorem sameUnder_of_twoBases {k : Nat} {ps : List Text} {d : Address} (hk : k ≤ linkLimit)
    (h : st.tree.TwoBases k ps d.reverse (.ofAddress d)) (hd : st.tree.HasDirectory d)
    (hjoin : Path.join st.env.currentDir (a ++ '/' :: q) = Path.ofPieces (ps ++ Text.pieces '/' q))
    (hlimits : st.tree.WithinLimits st.workDir (Path.join st.env.currentDir (a ++ '/' :: q)))
    (hlength : Text.utf8Size (Path.join d.path q) < pathLimit) :
    State.SameUnder
      { st with workDir := .ofAddress d, env := { st.env with currentDir := d.path } } q
      st (a ++ '/' :: q) := by
  have hjoin' : Path.join d.path q = Path.ofPieces (d.reverse ++ Text.pieces '/' q) :=
    join_path hd hq.relative
  have hcontinues := hq.continues
  rw [hjoin] at hlimits
  rw [hjoin'] at hlength
  constructor
  · intro s
    have hresolve : st.tree.resolve? (.ofAddress d) (Path.join d.path q) =
        st.tree.resolve? st.workDir (Path.join st.env.currentDir (a ++ '/' :: q)) := by
      have hlinks := hlimits.land_eq hcontinues List.mem_cons_self List.nil_suffix .find k
      rw [hjoin, hjoin', h.plain.resolve?_ofPieces hcontinues rfl,
        h.base.resolve?_ofPieces hcontinues hlinks]
    have hleads : ∀ b : Address, st.tree.leadsToDirectory (.ofAddress d) b.path =
        st.tree.leadsToDirectory st.workDir b.path := fun b =>
      leadsToDirectory_congr (locate_of_isAbsolute (isAbsolute_path b) _ _ _ _)
    rw [move_eq_ok_iff hq.ne_nil hq.plain, move_eq_ok_iff (by simp) (head?_append hne hplain q)]
    dsimp only
    rw [hresolve]
    constructor
    · rintro ⟨place, path, hplace, hpath, hdirectory, hbarred, hs⟩
      obtain ⟨b, -, rfl⟩ := Place.path?_eq_some_iff.1 hpath
      exact ⟨place, b.path, hplace, hpath, (hleads b).symm.trans hdirectory, hbarred, hs⟩
    · rintro ⟨place, path, hplace, hpath, hdirectory, hbarred, hs⟩
      obtain ⟨b, -, rfl⟩ := Place.path?_eq_some_iff.1 hpath
      exact ⟨place, b.path, hplace, hpath, (hleads b).trans hdirectory, hbarred, hs⟩
  · intro mode
    obtain ⟨htree, hresult⟩ := Redirection.openTarget_rebase h hk hcontinues hlimits hlength hjoin
      hjoin' mode
    exact ⟨htree.symm, hresult.symm⟩
  · intro hcomponents searchPath
    rw [Lookup.command?_of_two_le hq.relative hcomponents,
      Lookup.command?_append_separator hne hq hcomponents]
    refine Lookup.map_atPath_congr ?_
    dsimp only
    rw [hjoin, hjoin']
    exact (h.locate_ofPieces hlimits hlength hcontinues .find).symm

include hcurrent

/-- Where a path leads through the target of a `cd`, this `cd` leads too, unless the system refuses
its directory. -/
theorem exists_move_of_move_append (hlength : ∀ place : Place,
      st.tree.resolve? st.workDir (Path.join st.env.currentDir a) = some (.directory place) →
        Text.utf8Size (Path.join place.address.path q) < pathLimit)
    (hnames : st.tree.NulFree) (hallowed : ∀ place : Place,
      st.tree.resolve? st.workDir (Path.join st.env.currentDir a) = some (.directory place) →
        st.barred.lookup place.address = none)
    {s : State} (h : (ChangeDirectory.mk (some (a ++ '/' :: q))).move st = (s, .ok ())) :
    ∃ st', (ChangeDirectory.mk (some a)).move st = (st', .ok ()) := by
  obtain ⟨ps, hps, hsep, hjoin, hbehind⟩ := Path.exists_pieces hcurrent hne
  rw [move_eq_ok_iff (by simp) (head?_append hne hplain q), hbehind] at h
  obtain ⟨place, path, hresolve, -⟩ := h
  have hall : ∀ piece ∈ ps ++ Text.pieces '/' q, '/' ∉ piece :=
    List.forall_mem_append.2 ⟨hsep, fun _ => Text.not_mem_of_mem_pieces⟩
  obtain ⟨k, hk, hbase⟩ := exists_isBase_of_resolve?
    (List.append_ne_nil_of_left_ne_nil hps _) hall hresolve
  have hleads := hbase.leads
  rw [List.filterMap_append] at hleads
  obtain ⟨i, j, d, rfl, hfront, -⟩ := hleads.exists_of_append
  have hnul : '\x00' ∉ Path.ofPieces ps := by
    intro hmem
    refine hbase.nuls ?_
    rw [Path.ofPieces_append]
    exact List.mem_append_left _ hmem
  have hd : st.tree.IsBase i ps d := ⟨hsep, hnul, hfront⟩
  have hresolve' := hd.resolve?_eq (by omega) hps st.workDir
  have hplace := hd.hasPlace hps
  have hpath : d.path? = some d.address.path := by
    rw [hplace.eq_ofAddress]
    rfl
  have hfits := Nat.lt_of_le_of_lt
    (utf8Size_le_of_isPrefix (Path.isPrefix_join hq.relative d.address.path))
    (hlength d (hjoin ▸ hresolve'))
  have horigin := origin_of_isAbsolute (isAbsolute_path d.address) st.workDir
  have hdirectory : st.tree.leadsToDirectory st.workDir d.address.path = true :=
    leadsToDirectory_of_leads (horigin ▸ leads_path hplace.directory) (Nat.zero_le _)
      ⟨hplace.directory.nul_not_mem hnames, path_ne_nil _, hfits⟩
  rw [← hjoin] at hresolve'
  exact ⟨_, (move_eq_ok_iff hne hplain st _).2
    ⟨d, _, hresolve', hpath, hdirectory, hallowed d hresolve', rfl⟩⟩

/-- After a `cd`, a relative path stands for the same as behind the target of the `cd`
before it. And where the `cd` fails, and not because the system refuses the directory, a `cd` that
goes on behind its target does too. -/
theorem transparent
    (hlimits : st.tree.WithinLimits st.workDir (Path.join st.env.currentDir (a ++ '/' :: q)))
    (hlength : ∀ place : Place,
      st.tree.resolve? st.workDir (Path.join st.env.currentDir a) = some (.directory place) →
        Text.utf8Size (Path.join place.address.path q) < pathLimit)
    (hnames : st.tree.NulFree) :
    (∀ st', (ChangeDirectory.mk (some a)).move st = (st', .ok ()) →
      st'.SameUnder q st (a ++ '/' :: q)) ∧
      ((∀ place : Place,
        st.tree.resolve? st.workDir (Path.join st.env.currentDir a) = some (.directory place) →
          st.barred.lookup place.address = none) →
        (∀ st', (ChangeDirectory.mk (some a)).move st ≠ (st', .ok ())) →
          ∀ s, (ChangeDirectory.mk (some (a ++ '/' :: q))).move st ≠ (s, .ok ())) := by
  constructor
  · intro st' hmove
    obtain ⟨ps, hps, hsep, hjoin, hbehind⟩ := Path.exists_pieces hcurrent hne
    obtain ⟨place, path, hresolve, hpath, hdirectory, -, rfl⟩ :=
      (move_eq_ok_iff hne hplain st st').1 hmove
    have hfits := hlength place hresolve
    obtain ⟨d, rfl, rfl⟩ := Place.path?_eq_some_iff.1 hpath
    rw [hjoin] at hresolve
    obtain ⟨k, hk, hbase⟩ := exists_isBase_of_resolve? hps hsep hresolve
    have hd : st.tree.HasDirectory d := (hbase.hasPlace hps).directory
    have hplain' := isBase_of_hasDirectory hd (hd.nul_not_mem hnames)
    exact sameUnder_of_twoBases hne hplain hq hk ⟨hbase, hplain'⟩ hd (hbehind q) hlimits hfits
  · intro hallowed hfails s hmove
    obtain ⟨st', hst'⟩ :=
      exists_move_of_move_append hcurrent hne hplain hq hlength hnames hallowed hmove
    exact hfails st' hst'

end

/-- Through a link, upwards from where it leads, and into a directory that is not there
yet. -/
theorem transparent_link :
    let tree : FileTree := ⟨[(["d".toList], .directory), (["e".toList, "d".toList], .directory),
      (["l".toList], .link "d/e".toList)]⟩
    let st := Shell.start ⟨.standard, Probe.platform⟩ tree (.ofAddress []) ⟨[]⟩ []
    ∃ st', (ChangeDirectory.mk (some "l".toList)).move st = (st', .ok ()) ∧
      st'.env.currentDir = "/d/e".toList ∧
      st'.SameUnder "../x/f".toList st "l/../x/f".toList := by
  intro tree st
  have hresolve : tree.resolve? st.workDir (Path.join st.env.currentDir "l".toList) =
      some (.directory (.ofAddress ["e".toList, "d".toList])) := by
    decide +kernel
  have hmove := (move_eq_ok_iff (by decide) (by decide) st _).2
    ⟨.ofAddress ["e".toList, "d".toList], "/d/e".toList, hresolve, rfl, by decide +kernel, rfl, rfl⟩
  have hrelative : Path.IsRelative "../x/f".toList := ⟨by decide, rfl, by decide⟩
  have hwalks : ∀ ps ∈ (Path.ancestors "/l/../x/f".toList).tails,
      ∀ p ∈ Path.ancestors "/l/../x/f".toList, ∀ u ∈ [Purpose.find, .create, .entry],
        land (tree.makeDirectories st.workDir ps).1 u linkLimit (origin st.workDir p)
          (Step.ofPath p) ≠ .error .linkLoop := by
    decide +kernel
  have hlimits : tree.WithinLimits st.workDir "/l/../x/f".toList := by
    refine .of_ne_linkLoop (by decide +kernel) ?_
    intro ps hps p hp u
    exact hwalks ps ((List.mem_tails _ _).2 hps) p hp u (by cases u <;> simp)
  have hlength : ∀ place : Place,
      tree.resolve? st.workDir (Path.join st.env.currentDir "l".toList) = some (.directory place) →
        Text.utf8Size (Path.join place.address.path "../x/f".toList) < pathLimit := by
    intro place hplace
    rw [hresolve] at hplace
    cases hplace
    decide +kernel
  have hnames : tree.NulFree := nulFree_of_entries (by decide +kernel)
  have hcurrent : Path.isAbsolute st.env.currentDir = true := rfl
  have hplain : "l".toList.head? ≠ some '~' := by decide
  have hsame := transparent hcurrent (by decide) hplain hrelative hlimits hlength hnames
  exact ⟨_, hmove, rfl, hsame.1 _ hmove⟩

end ChangeDirectory

end CommandShell
