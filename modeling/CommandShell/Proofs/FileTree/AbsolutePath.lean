import CommandShell.Proofs.FileTree.Leading
import Mathlib.Data.List.Induction
import Mathlib.Data.List.TakeWhile

/-!
# Absolute paths by their pieces

An absolute path is its pieces, each behind a separator (`Path.ofPieces`). Where a path is
continued by another, the pieces of the two stand one behind the other, and so do the
steps that they ask for (`Step.ofPath_ofPieces_append`).

The paths above a continued path are those above the continuation, each behind the first
path, and then those of the first path; where the one ends and the other begins does not
depend on the first (`Path.exists_above_append`).
-/

namespace CommandShell

namespace Path

def ofPieces (ps : List Text) : Path := ps.flatMap ('/' :: ·)

theorem ofPieces_append (ps qs : List Text) : ofPieces (ps ++ qs) = ofPieces ps ++ ofPieces qs :=
  List.flatMap_append

theorem cons_join {ps : List Text} (h : ps ≠ []) : '/' :: Text.join ['/'] ps = ofPieces ps := by
  induction ps with
  | nil => exact absurd rfl h
  | cons p ps ih =>
      cases ps with
      | nil => simp [ofPieces]
      | cons q ps =>
          have hrest := ih (List.cons_ne_nil q ps)
          rw [Text.join_cons_cons, List.append_assoc, List.singleton_append, hrest]
          rfl

theorem ofPieces_pieces (t : Text) : ofPieces (Text.pieces '/' t) = '/' :: t := by
  rw [← cons_join (Text.pieces_ne_nil '/' t), Text.join_pieces]

theorem eq_cons_of_isAbsolute {p : Path} (h : isAbsolute p = true) : ∃ t, p = '/' :: t := by
  unfold isAbsolute at h
  split at h
  case h_1 t => exact ⟨t, rfl⟩
  case h_2 => cases h

/-- A path that goes on from the directory where another one leads. -/
theorem join_append_separator {p : Path} (h : p ≠ []) (base q : Path) :
    join base (p ++ '/' :: q) = join base p ++ '/' :: q := by
  have habsolute : isAbsolute (p ++ '/' :: q) = isAbsolute p := by
    obtain ⟨c, t, rfl⟩ := List.exists_cons_of_ne_nil h
    rw [List.cons_append]
    by_cases hc : c = '/'
    · subst hc
      rfl
    · simp [isAbsolute, hc]
  unfold join
  rw [habsolute]
  split
  · rfl
  split
  · rw [List.append_assoc]
  · rw [List.append_assoc, List.cons_append]

theorem isPrefix_join {q : Path} (hq : isAbsolute q = false) (base : Path) :
    base <+: join base q := by
  unfold join
  rw [if_neg (by simp [hq])]
  split
  · exact List.prefix_append _ _
  · exact List.prefix_append _ _

theorem isAbsolute_ofPieces {ps : List Text} (h : ps ≠ []) : isAbsolute (ofPieces ps) = true := by
  rw [← cons_join h]
  rfl

theorem ofPieces_ne_nil {ps : List Text} (h : ps ≠ []) : ofPieces ps ≠ [] := by
  rw [← cons_join h]
  exact List.cons_ne_nil _ _

theorem ancestors_ofPieces {ps : List Text} (h : ps ≠ []) (hsep : ∀ piece ∈ ps, '/' ∉ piece) :
    ancestors (ofPieces ps) = ofPieces ps :: above ['/'] ps.reverse := by
  obtain ⟨t, ht⟩ := eq_cons_of_isAbsolute (isAbsolute_ofPieces h)
  have hpieces : Text.pieces '/' t = ps := by
    have hall := Text.pieces_flatMap_cons hsep
    rw [show ps.flatMap ('/' :: ·) = '/' :: t from ht, Text.pieces_cons_self] at hall
    exact (List.cons.inj hall).2
  have hhead : head (ofPieces ps) = ['/'] := by rw [ht]; rfl
  have hbody : bodyPieces (ofPieces ps) = ps := by
    rw [bodyPieces, hhead, ht]
    exact hpieces
  rw [ancestors, hhead, hbody]

/-- The paths above one whose last pieces are vacuous. -/
theorem above_append_of_isVacuous {front : List Text} (h : ∀ piece ∈ front, isVacuous piece = true)
    (head : Path) (rest : List Text) : above head (front ++ rest) = above head rest := by
  rw [← above_dropWhile, List.dropWhile_append_of_pos h, above_dropWhile]

/-- The first of the paths above is the parent, and the others are above it. -/
theorem ancestors_of_parent? {ps : List Text} (h : ps ≠ []) (hsep : ∀ piece ∈ ps, '/' ∉ piece)
    {parent : Path} (hparent : parent? (ofPieces ps) = some parent) :
    ancestors parent = above ['/'] ps.reverse := by
  rw [parent?, ancestors_ofPieces h hsep, List.tail_cons] at hparent
  have hsep' : ∀ piece ∈ ps.reverse, '/' ∉ piece :=
    fun piece hp => hsep piece (List.mem_reverse.1 hp)
  generalize ps.reverse = rps at hparent hsep'
  induction rps with
  | nil => cases hparent
  | cons piece front ih =>
      have hfront : ∀ piece ∈ front, '/' ∉ piece := fun p hp => hsep' p (List.mem_cons_of_mem _ hp)
      cases hpiece : isVacuous piece with
      | true =>
          rw [above_cons_of_isVacuous hpiece] at hparent ⊢
          exact ih hparent hfront
      | false =>
          rw [above_cons_of_not_isVacuous hpiece] at hparent ⊢
          obtain rfl := Option.some.inj hparent
          by_cases hnil : front.dropWhile isVacuous = []
          · rw [← above_dropWhile ['/'] front, hnil]
            rfl
          · have hne : (front.dropWhile isVacuous).reverse ≠ [] := by simpa using hnil
            rw [List.singleton_append, cons_join hne, ancestors_ofPieces hne, List.reverse_reverse,
              above_dropWhile]
            intro p hp
            exact hfront p ((List.dropWhile_sublist _).subset (List.mem_reverse.1 hp))

/-- The path of some pieces without the vacuous ones at its end. -/
def trimmed (ps : List Text) : Path :=
  '/' :: Text.join ['/'] (ps.reverse.dropWhile isVacuous).reverse

theorem exists_trimmed_eq (ps : List Text) : ∃ front back, ps = front ++ back ∧
    (∀ piece ∈ back, isVacuous piece = true) ∧
      trimmed ps = '/' :: Text.join ['/'] front := by
  refine ⟨(ps.reverse.dropWhile isVacuous).reverse, (ps.reverse.takeWhile isVacuous).reverse,
    ?_, ?_, rfl⟩
  · rw [← List.reverse_append, List.takeWhile_append_dropWhile, List.reverse_reverse]
  · intro piece hpiece
    exact List.mem_takeWhile_imp (List.mem_reverse.1 hpiece)

/-- The trimmed path is no longer than one that goes on, and has no other characters. -/
theorem trimmed_isPrefix {qs : List Text} (h : qs ≠ []) (ps : List Text) :
    trimmed ps <+: ofPieces (ps ++ qs) := by
  obtain ⟨front, back, rfl, -, htrimmed⟩ := exists_trimmed_eq ps
  rw [htrimmed]
  by_cases hfront : front = []
  · subst hfront
    obtain ⟨t, ht⟩ := eq_cons_of_isAbsolute (isAbsolute_ofPieces
      (List.append_ne_nil_of_right_ne_nil ([] ++ back) h))
    rw [ht]
    exact ⟨t, rfl⟩
  · rw [cons_join hfront, List.append_assoc, ofPieces_append]
    exact List.prefix_append _ _

/-- The paths above one that goes on behind another. -/
theorem exists_above_append {qs : List Text} (h : ∃ piece ∈ qs, isVacuous piece = false) :
    ∃ ys : List (List Text), (∀ y ∈ ys, y ≠ [] ∧ y <+: qs) ∧ ∀ ps : List Text,
      above ['/'] (ps ++ qs).reverse =
        ys.map (fun y => ofPieces (ps ++ y)) ++ trimmed ps :: above ['/'] ps.reverse := by
  induction qs using List.reverseRecOn with
  | nil =>
      obtain ⟨piece, hmem, -⟩ := h
      cases hmem
  | append_singleton front piece ih =>
      have hreverse : ∀ ps : List Text, (ps ++ (front ++ [piece])).reverse =
          piece :: (ps ++ front).reverse := by
        intro ps
        rw [← List.append_assoc, List.reverse_append]
        rfl
      have hprefix : ∀ {y}, y <+: front → y <+: front ++ [piece] :=
        fun hy => hy.trans (List.prefix_append _ _)
      cases hpiece : isVacuous piece with
      | true =>
          obtain ⟨p, hmem, hp⟩ := h
          have hfront : p ∈ front := by
            obtain hfront | hlast := List.mem_append.1 hmem
            · exact hfront
            · rw [List.mem_singleton.1 hlast, hpiece] at hp
              cases hp
          obtain ⟨ys, hys, habove⟩ := ih ⟨p, hfront, hp⟩
          refine ⟨ys, fun y hy => ⟨(hys y hy).1, hprefix (hys y hy).2⟩, ?_⟩
          intro ps
          rw [hreverse, above_cons_of_isVacuous hpiece, habove]
      | false =>
          by_cases hfront : ∃ p ∈ front, isVacuous p = false
          · obtain ⟨ys, hys, habove⟩ := ih hfront
            have hne : front.reverse.dropWhile isVacuous ≠ [] := by
              obtain ⟨p, hmem, hp⟩ := hfront
              intro hnil
              have hall := List.dropWhile_eq_nil_iff.1 hnil p (List.mem_reverse.2 hmem)
              rw [hp] at hall
              cases hall
            refine ⟨(front.reverse.dropWhile isVacuous).reverse :: ys, ?_, ?_⟩
            · intro y hy
              obtain rfl | hy := List.mem_cons.1 hy
              · refine ⟨by simpa using hne, hprefix ?_⟩
                rw [← List.reverse_suffix, List.reverse_reverse]
                exact List.dropWhile_suffix _
              · exact ⟨(hys y hy).1, hprefix (hys y hy).2⟩
            · intro ps
              have hdrop : ((ps ++ front).reverse.dropWhile isVacuous).reverse =
                  ps ++ (front.reverse.dropWhile isVacuous).reverse := by
                rw [List.reverse_append, List.dropWhile_append, if_neg (by simpa using hne),
                  List.reverse_append, List.reverse_reverse]
              rw [hreverse, above_cons_of_not_isVacuous hpiece, habove, hdrop,
                List.singleton_append, cons_join (by simp [hne])]
              rfl
          · have hvacuous : ∀ p ∈ front.reverse, isVacuous p = true := by
              simpa using hfront
            refine ⟨[], by simp, ?_⟩
            intro ps
            rw [hreverse, above_cons_of_not_isVacuous hpiece, List.reverse_append,
              above_append_of_isVacuous hvacuous, List.dropWhile_append_of_pos hvacuous]
            rfl

end Path

namespace Step

/-- The steps of a path that goes on behind another one. -/
def ofPieces (ps : List Text) : List Step :=
  ps.filterMap ofPiece? ++ if ps.getLast? = some [] then [.slash] else []

theorem eq_here_of_isVacuous {ps : List Text} (h : ∀ piece ∈ ps, Path.isVacuous piece = true) :
    ∀ s ∈ ps.filterMap ofPiece?, s = here := by
  intro s hs
  obtain ⟨piece, hpiece, hstep⟩ := List.mem_filterMap.1 hs
  have hvacuous : piece = [] ∨ piece = ['.'] := by simpa [Path.isVacuous] using h piece hpiece
  obtain rfl | rfl := hvacuous
  · cases hstep
  · exact (Option.some.inj hstep).symm

theorem getLast?_ofPieces {ps : List Text} (h : ps ≠ []) (hsep : ∀ piece ∈ ps, '/' ∉ piece) :
    (Path.ofPieces ps).getLast? = some '/' ↔ ps.getLast? = some [] := by
  induction ps using List.reverseRecOn with
  | nil => exact absurd rfl h
  | append_singleton front piece ih =>
      have hpiece : '/' ∉ piece := hsep piece (by simp)
      rw [Path.ofPieces_append, List.getLast?_append, List.getLast?_append]
      cases piece with
      | nil => simp [Path.ofPieces]
      | cons c t =>
          have hlast := List.getLast?_eq_some_getLast (List.cons_ne_nil c t)
          have hmem := List.getLast_mem (List.cons_ne_nil c t)
          have hne : (c :: t).getLast (List.cons_ne_nil c t) ≠ '/' := by
            rintro heq
            exact hpiece (heq ▸ hmem)
          simp [Path.ofPieces, List.getLast?_cons_cons, hlast, hne]

/-- The steps of two parts of a path. -/
theorem ofPath_ofPieces_append {ps qs : List Text} (hqs : qs ≠ [])
    (hsep : ∀ piece ∈ ps ++ qs, '/' ∉ piece) :
    ofPath (Path.ofPieces (ps ++ qs)) = ps.filterMap ofPiece? ++ ofPieces qs := by
  have hne : ps ++ qs ≠ [] := by simp [hqs]
  have hlast : (ps ++ qs).getLast? = qs.getLast? := by
    rw [List.getLast?_append, List.getLast?_eq_some_getLast hqs]
    rfl
  have hslash := getLast?_ofPieces hne hsep
  rw [hlast] at hslash
  rw [ofPath, show Text.pieces '/' (Path.ofPieces (ps ++ qs)) = [] :: (ps ++ qs) from
    Text.pieces_flatMap_cons hsep, List.filterMap_cons, ofPieces, List.filterMap_append]
  simp only [hslash, ofPiece?, if_true, List.append_assoc]

theorem ofPath_ofPieces {ps : List Text} (h : ps ≠ []) (hsep : ∀ piece ∈ ps, '/' ∉ piece) :
    ofPath (Path.ofPieces ps) = ofPieces ps := by
  have hall : ∀ piece ∈ [] ++ ps, '/' ∉ piece := hsep
  exact ofPath_ofPieces_append h hall

/-- A relative path goes somewhere, if only to where it starts. -/
theorem goes_ofPieces {piece : Text} (h : piece ≠ []) (qs : List Text) :
    Goes (ofPieces (piece :: qs)) := by
  have hstep : ∃ s, ofPiece? piece = some s ∧ s ≠ slash := by
    unfold ofPiece?
    rw [if_neg h]
    split
    · exact ⟨.here, rfl, by simp⟩
    split
    · exact ⟨.up, rfl, by simp⟩
    · exact ⟨.enter piece, rfl, by simp⟩
  obtain ⟨s, hs, hne⟩ := hstep
  refine ⟨s, qs.filterMap ofPiece? ++ if (piece :: qs).getLast? = some [] then [.slash] else [],
    ?_, hne⟩
  rw [ofPieces, List.filterMap_cons, hs]
  rfl

end Step

namespace FileTree

/-- A separator at the end makes no difference to where a path leads. -/
theorem leads_ofPieces_iff {t : FileTree} {k : Nat} {p d : Place} {ps : List Text} :
    t.Leads k p (Step.ofPieces ps) d ↔ t.Leads k p (ps.filterMap Step.ofPiece?) d := by
  unfold Step.ofPieces
  split
  · constructor
    · intro h
      obtain ⟨i, j, q, rfl, hfront, hslash⟩ := h.exists_of_append
      cases hslash with
      | slash hnil =>
          cases hnil
          exact hfront
    · intro h
      exact h.append (.slash (.nil d))
  · rw [List.append_nil]

theorem path_ne_nil (a : Address) : a.path ≠ [] := by
  intro hnil
  have habsolute := isAbsolute_path a
  rw [hnil] at habsolute
  cases habsolute

/-- The path of a directory is that of its names. -/
theorem join_path {t : FileTree} {a : Address} (h : t.HasDirectory a) {q : Path}
    (hq : Path.isAbsolute q = false) :
    Path.join a.path q = Path.ofPieces (a.reverse ++ Text.pieces '/' q) := by
  have hrelative : ¬ Path.isAbsolute q = true := by simp [hq]
  rw [Path.ofPieces_append, Path.ofPieces_pieces, Path.join, if_neg hrelative]
  cases a with
  | nil => rfl
  | cons n a =>
      have hne : (n :: a).reverse ≠ [] := by simp
      have hsep : ∀ piece ∈ (n :: a).reverse, '/' ∉ piece := fun piece hpiece =>
        (h.entryName (List.mem_reverse.1 hpiece)).no_separator
      have hpath : Address.path (n :: a) = Path.ofPieces (n :: a).reverse := rfl
      have hlast : (n :: a).reverse.getLast? ≠ some [] := by simpa using h.1.1.ne_nil
      have hopen : ¬ (Path.ofPieces (n :: a).reverse = [] ∨
          (Path.ofPieces (n :: a).reverse).getLast? = some '/') := by
        rintro (hnil | hslash)
        · exact Path.ofPieces_ne_nil hne hnil
        · exact hlast ((Step.getLast?_ofPieces hne hsep).1 hslash)
      rw [hpath, if_neg hopen]

end FileTree

end CommandShell
