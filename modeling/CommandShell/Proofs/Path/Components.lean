import CommandShell.Proofs.FileTree.AbsolutePath
import Mathlib.Data.List.Basic

/-!
# The components of a relative path

A relative path begins with a piece that is not empty, and this piece is always a component;
of the others those count that are not vacuous (`components_of_pieces`). So a relative path
is one single name exactly if it is that name with nothing behind it but separators and dots
(`components_eq_normal_iff`): the components do not tell whether it has a separator. Of the
steps along a path, such a name is the last one, whatever directory it is looked for in
(`Step.exists_ofPath_join`).
-/

namespace CommandShell

namespace Path

theorem mem_of_isAbsolute {p : Path} (h : isAbsolute p = true) : '/' ∈ p := by
  obtain ⟨t, rfl⟩ := eq_cons_of_isAbsolute h
  exact List.mem_cons_self

theorem isAbsolute_eq_false_of_not_mem {p : Path} (h : '/' ∉ p) : isAbsolute p = false :=
  Bool.eq_false_iff.2 fun habsolute => h (mem_of_isAbsolute habsolute)

/-- Below a directory there is a separator. -/
theorem mem_join {base : Path} (h : base ≠ []) (p : Path) : '/' ∈ join base p := by
  unfold join
  split
  case isTrue habsolute => exact mem_of_isAbsolute habsolute
  split
  case isTrue hbase =>
      obtain hnil | hlast := hbase
      · exact absurd hnil h
      · exact List.mem_append_left p (List.mem_of_getLast? hlast)
  · exact List.mem_append_right base List.mem_cons_self

/-- Behind a directory a relative path has one separator, also where the directory is
written with one. -/
theorem join_eq_or {d p : Path} (hd : d ≠ []) (hp : isAbsolute p = false) :
    join d p = d ++ '/' :: p ∨
      ∃ e, d ++ '/' :: p = e ++ '/' :: '/' :: p ∧ join d p = e ++ '/' :: p := by
  rw [join, if_neg (by simp [hp])]
  split
  case isTrue hlast =>
      obtain ⟨e, rfl⟩ := List.getLast?_eq_some_iff.1 (hlast.resolve_left hd)
      exact .inr ⟨e, List.append_assoc .., List.append_assoc ..⟩
  case isFalse => exact .inl rfl

theorem exists_join_eq_append {p : Path} (h : isAbsolute p = false) (base : Path) :
    ∃ front, join base p = front ++ p := by
  unfold join
  rw [if_neg (by simp [h])]
  split
  · exact ⟨base, rfl⟩
  · exact ⟨base ++ ['/'], by simp⟩

theorem exists_pieces_of_relative {p : Path} (h : isAbsolute p = false) (hne : p ≠ []) :
    ∃ piece rest, Text.pieces '/' p = piece :: rest ∧ piece ≠ [] := by
  obtain ⟨c, t, rfl⟩ := List.exists_cons_of_ne_nil hne
  have hc : c ≠ '/' := by
    rintro rfl
    cases h
  obtain ⟨piece, rest, -, hpieces⟩ := Text.pieces_cons_of_ne hc t
  exact ⟨c :: piece, rest, hpieces, List.cons_ne_nil c piece⟩

theorem head_of_pieces {p : Path} {piece : Text} {rest : List Text}
    (h : Text.pieces '/' p = piece :: rest) (hpiece : piece ≠ []) (hdot : piece ≠ ['.']) :
    head p = [] := by
  unfold head
  split
  case h_1 =>
      rw [Text.pieces_cons_self] at h
      cases h
      exact absurd rfl hpiece
  case h_2 =>
      cases h
      exact absurd rfl hdot
  case h_3 t =>
      have hdots : Text.pieces '/' ('.' :: '/' :: t) = ['.'] :: Text.pieces '/' t := rfl
      rw [hdots] at h
      cases h
      exact absurd rfl hdot
  case h_4 => rfl

/-- What the first piece of a relative path stands for. -/
def firstComponent (piece : Text) : Component :=
  if piece = ['.'] then .here else componentOf piece

theorem components_of_pieces {p : Path} {piece : Text} {rest : List Text}
    (h : Text.pieces '/' p = piece :: rest) (hpiece : piece ≠ []) :
    components p = firstComponent piece :: (rest.filter (!isVacuous ·)).map componentOf := by
  by_cases hdot : piece = ['.']
  · subst hdot
    have hp := Text.join_pieces '/' p
    rw [h] at hp
    cases rest with
    | nil =>
        subst hp
        rfl
    | cons r rest =>
        rw [Text.join_cons_cons] at hp
        subst hp
        have hrest : Text.pieces '/' (Text.join ['/'] (r :: rest)) = r :: rest :=
          (List.cons.inj h).2
        have hbody : bodyPieces (['.'] ++ ['/'] ++ Text.join ['/'] (r :: rest)) =
            [] :: r :: rest := congrArg ([] :: ·) hrest
        rw [components, hbody]
        rfl
  · have hhead := head_of_pieces h hpiece hdot
    have hbody : bodyPieces p = piece :: rest := by
      rw [bodyPieces, hhead]
      exact h
    have hvacuous : isVacuous piece = false := by simp [isVacuous, hpiece, hdot]
    rw [components, hhead, hbody, firstComponent, if_neg hdot]
    simp [hvacuous]

/-- The first piece of a relative path is a component, and so are the others that are not
vacuous. -/
theorem length_components {p : Path} {piece : Text} {rest : List Text}
    (h : Text.pieces '/' p = piece :: rest) (hpiece : piece ≠ []) :
    (components p).length = 1 + (rest.filter (!isVacuous ·)).length := by
  rw [components_of_pieces h hpiece, List.length_cons, List.length_map, Nat.add_comm]

theorem components_eq_nil_iff {p : Path} (h : isAbsolute p = false) :
    components p = [] ↔ p = [] := by
  constructor
  · intro hnil
    by_contra hne
    obtain ⟨piece, rest, hpieces, hpiece⟩ := exists_pieces_of_relative h hne
    rw [components_of_pieces hpieces hpiece] at hnil
    cases hnil
  · rintro rfl
    rfl

/-- The path is one name, with nothing behind it but separators and dots. -/
structure Spells (p : Path) (x : Name) : Prop where
  name : EntryName x
  eq_append : ∃ rest, p = x ++ ofPieces rest ∧ ∀ piece ∈ rest, isVacuous piece = true

theorem Spells.refl {x : Name} (h : EntryName x) : Spells x x :=
  ⟨h, [], (List.append_nil x).symm, by simp⟩

theorem join_cons_eq_append (piece : Text) (rest : List Text) :
    Text.join ['/'] (piece :: rest) = piece ++ ofPieces rest :=
  (List.cons.inj (cons_join (List.cons_ne_nil piece rest))).2

theorem not_mem_of_isVacuous {piece : Text} (h : isVacuous piece = true) : '/' ∉ piece := by
  have hcases : piece = [] ∨ piece = ['.'] := by simpa [isVacuous] using h
  obtain rfl | rfl := hcases
  · exact List.not_mem_nil
  · decide

theorem Spells.exists_pieces {p : Path} {x : Name} (h : Spells p x) :
    ∃ rest, Text.pieces '/' p = x :: rest ∧ ∀ piece ∈ rest, isVacuous piece = true := by
  obtain ⟨rest, rfl, hrest⟩ := h.eq_append
  have htail : Text.pieces '/' (ofPieces rest) = [] :: rest :=
    Text.pieces_flatMap_cons fun piece hpiece => not_mem_of_isVacuous (hrest piece hpiece)
  refine ⟨rest, ?_, hrest⟩
  rw [Text.pieces_append_of_not_mem h.name.no_separator htail, List.append_nil]

theorem firstComponent_eq_normal_iff {piece : Text} {x : Name} :
    firstComponent piece = .normal x ↔ piece = x ∧ piece ≠ ['.'] ∧ piece ≠ ['.', '.'] := by
  unfold firstComponent componentOf
  split
  case isTrue hdot => simp [hdot]
  case isFalse hdot =>
      split
      case isTrue hup => simp [hup]
      case isFalse hup => simp [hdot, hup]

theorem components_eq_normal_iff {p : Path} (h : isAbsolute p = false) {x : Name} :
    components p = [.normal x] ↔ Spells p x := by
  constructor
  · intro hcomponents
    have hne : p ≠ [] := by
      rintro rfl
      cases hcomponents
    obtain ⟨piece, rest, hpieces, hpiece⟩ := exists_pieces_of_relative h hne
    rw [components_of_pieces hpieces hpiece] at hcomponents
    obtain ⟨hfirst, hothers⟩ := List.cons.inj hcomponents
    obtain ⟨rfl, hhere, hup⟩ := firstComponent_eq_normal_iff.1 hfirst
    have hmem : piece ∈ Text.pieces '/' p := hpieces ▸ List.mem_cons_self
    refine ⟨⟨hpiece, hhere, hup, Text.not_mem_of_mem_pieces hmem⟩, rest, ?_, ?_⟩
    · rw [← join_cons_eq_append, ← hpieces, Text.join_pieces]
    · simpa using hothers
  · intro hspells
    obtain ⟨rest, hpieces, hrest⟩ := hspells.exists_pieces
    have hname := hspells.name
    have hfilter : rest.filter (!isVacuous ·) = [] := by simpa using hrest
    rw [components_of_pieces hpieces hname.ne_nil, hfilter,
      firstComponent_eq_normal_iff.2 ⟨rfl, hname.ne_here, hname.ne_up⟩]
    rfl

theorem Spells.isAbsolute {p : Path} {x : Name} (h : Spells p x) : isAbsolute p = false := by
  obtain ⟨rest, rfl, -⟩ := h.eq_append
  obtain ⟨c, t, rfl⟩ := List.exists_cons_of_ne_nil h.name.ne_nil
  have hc : c ≠ '/' := by
    rintro rfl
    exact h.name.no_separator List.mem_cons_self
  simp [Path.isAbsolute, hc]

theorem Spells.eq_iff {p : Path} {x y : Name} (h : Spells p x) : Spells p y ↔ y = x := by
  rw [← components_eq_normal_iff h.isAbsolute, (components_eq_normal_iff h.isAbsolute).2 h]
  simp [eq_comm]

end Path

namespace Step

theorem ofPath_append_separator {p : Path} (h : p ≠ []) (d : Path) :
    ofPath (d ++ '/' :: p) = (Text.pieces '/' d).filterMap ofPiece? ++ ofPath p := by
  have hlast : (d ++ '/' :: p).getLast? = p.getLast? := by
    rw [← List.singleton_append, ← List.append_assoc, List.getLast?_append_of_ne_nil _ h]
  rw [ofPath, ofPath, hlast, Text.pieces_append_separator, List.filterMap_append,
    List.append_assoc]

theorem ofPath_of_entryName {x : Name} (h : EntryName x) : ofPath x = [.enter x] := by
  have hpieces := Text.pieces_append_of_not_mem h.no_separator (Text.pieces_nil '/')
  have hstep : [x].filterMap ofPiece? = [.enter x] :=
    filterMap_ofPiece? fun n hn => List.mem_singleton.1 hn ▸ h
  have hlast : x.getLast? ≠ some '/' := fun hlast => h.no_separator (List.mem_of_getLast? hlast)
  rw [List.append_nil] at hpieces
  rw [ofPath, hpieces, hstep, if_neg hlast, List.append_nil]

/-- Two separators in a row are as good as one. -/
theorem ofPath_append_separators (d p : Path) :
    ofPath (d ++ '/' :: '/' :: p) = ofPath (d ++ '/' :: p) := by
  cases p with
  | nil =>
      have hlast : (d ++ ['/', '/']).getLast? = (d ++ ['/']).getLast? := by simp
      rw [ofPath, ofPath, hlast, Text.pieces_append_separator, Text.pieces_append_separator,
        Text.pieces_cons_self, List.filterMap_append, List.filterMap_append]
      rfl
  | cons c p =>
      have hinner := ofPath_append_separator (List.cons_ne_nil c p) []
      rw [List.nil_append] at hinner
      rw [ofPath_append_separator (List.cons_ne_nil c p),
        ofPath_append_separator (List.cons_ne_nil '/' (c :: p)), hinner]
      rfl

/-- Behind any directory a name is the last step. -/
theorem exists_ofPath_join {x : Name} (h : EntryName x) (d : Path) :
    ∃ front, ofPath (Path.join d x) = front ++ [.enter x] := by
  have hx := ofPath_of_entryName h
  by_cases hd : d = []
  · subst hd
    exact ⟨[], by rw [Path.join_nil_left, hx]; rfl⟩
  have hbehind : ∀ e, ofPath (e ++ '/' :: x) =
      (Text.pieces '/' e).filterMap ofPiece? ++ [.enter x] := by
    intro e
    rw [ofPath_append_separator h.ne_nil, hx]
  obtain hjoin | ⟨e, -, hjoin⟩ :=
    Path.join_eq_or hd (Path.isAbsolute_eq_false_of_not_mem h.no_separator)
  · exact ⟨_, hjoin ▸ hbehind d⟩
  · exact ⟨_, hjoin ▸ hbehind e⟩

end Step

theorem FileTree.origin_append_separators (start : Place) (d p : Path) :
    origin start (d ++ '/' :: '/' :: p) = origin start (d ++ '/' :: p) := by
  cases d with
  | nil => rfl
  | cons c d => by_cases hc : c = '/' <;> simp [origin, Path.isAbsolute, hc]

end CommandShell
