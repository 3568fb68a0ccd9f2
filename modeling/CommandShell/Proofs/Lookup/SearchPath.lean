import CommandShell.Lookup
import CommandShell.Proofs.Path.Components

/-!
# Which file a name stands for

A name that is one single component is looked for along the search path: the element that
comes first among those that have an executable file of this name decides, so behind a
search path that finds nothing another one can follow (`Lookup.command?_append`). All other
names are paths that are there or not, and the search path does not matter. The main
statement on this is `Lookup.command?_eq_some_iff_and_append`.

Whether the search path matters is decided by the components of a name, and a separator at
its end is none. So it matters for exactly the names that spell a name which a directory can
have (`Lookup.forall_command?_eq_iff_and_spells`), also where they are written with a
separator.
-/

namespace CommandShell

namespace Text

/-- A text is cut into the pieces that it was joined from. -/
theorem pieces_join {sep : Char} {ts : List Text} (hne : ts ≠ []) (h : ∀ t ∈ ts, sep ∉ t) :
    pieces sep (join [sep] ts) = ts := by
  induction ts with
  | nil => exact absurd rfl hne
  | cons t ts ih =>
      have ht := h t List.mem_cons_self
      have hfirst := pieces_append_of_not_mem ht (pieces_nil sep)
      rw [List.append_nil] at hfirst
      cases ts with
      | nil => exact hfirst
      | cons u ts =>
          have hrest := ih (List.cons_ne_nil u ts) fun s hs => h s (List.mem_cons_of_mem t hs)
          rw [join_cons_cons, List.append_assoc, List.singleton_append, pieces_append_separator,
            hfirst, hrest]
          rfl

theorem pieces_eq_iff {sep : Char} {t : Text} {ts : List Text} (hne : ts ≠ []) :
    pieces sep t = ts ↔ t = join [sep] ts ∧ ∀ s ∈ ts, sep ∉ s := by
  constructor
  · rintro rfl
    exact ⟨(join_pieces sep t).symm, fun _ => not_mem_of_mem_pieces⟩
  · rintro ⟨rfl, h⟩
    exact pieces_join hne h

end Text

namespace FileTree

section

variable {t : FileTree} {start : Place} {p : Path}

/-- The path leads, through all links, to something that is there. -/
def Has (t : FileTree) (start : Place) (p : Path) : Prop := ∃ node, t.nodeAt? start p = .ok node

/-- The path leads, through all links, to a regular file that its owner, its group or the
others may execute. -/
def HasExecutable (t : FileTree) (start : Place) (p : Path) : Prop :=
  ∃ permissions c, t.nodeAt? start p = .ok (.file permissions c) ∧
    ∃ bit ∈ [6, 3, 0], permissions.testBit bit = true

theorem leadsSomewhere_iff : t.leadsSomewhere start p = true ↔ t.Has start p := by
  unfold leadsSomewhere Has
  rcases t.nodeAt? start p with e | node
  · simp
  · simp

theorem mayExecute_iff {permissions : Nat} :
    mayExecute permissions = true ↔ ∃ bit ∈ [6, 3, 0], permissions.testBit bit = true := by
  have hbits : ∀ bit, (0o111 : Nat).testBit bit = true ↔ bit ∈ [6, 3, 0] := by
    intro bit
    by_cases hsmall : bit < 7
    · revert bit
      decide
    · have hlarge : (0o111 : Nat) < 2 ^ bit :=
        Nat.lt_of_lt_of_le (by decide) (Nat.pow_le_pow_right (by decide) (Nat.not_lt.1 hsmall))
      rw [Nat.testBit_lt_two_pow hlarge]
      simp
      omega
  have hand : permissions &&& 0o111 ≠ 0 ↔ ∃ bit, (permissions &&& 0o111).testBit bit = true := by
    constructor
    · exact Nat.exists_testBit_of_ne_zero
    · rintro ⟨bit, hbit⟩ hzero
      simp [hzero] at hbit
  unfold mayExecute
  rw [decide_eq_true_iff, hand]
  refine exists_congr fun bit => ?_
  rw [Nat.testBit_and, Bool.and_eq_true, hbits, and_comm]

theorem leadsToExecutable_iff : t.leadsToExecutable start p = true ↔ t.HasExecutable start p := by
  unfold leadsToExecutable HasExecutable
  rcases t.nodeAt? start p with e | ⟨⟩ | ⟨permissions, c⟩ | target | d
  case ok.file =>
      rw [mayExecute_iff]
      simp
  all_goals simp

end

end FileTree

namespace Lookup

open FileTree

/-- The search path is made of its elements, and the path belongs to the first one whose file
of this name can be executed. -/
def IsFirst (t : FileTree) (process : Place) (searchPath : Text) (x : Name) (p : Path) : Prop :=
  ∃ front d back, searchPath = Text.join [':'] (front ++ d :: back) ∧
    (∀ e ∈ front ++ d :: back, ':' ∉ e) ∧ p = Path.join d x ∧ t.HasExecutable process p ∧
    ∀ e ∈ front, ¬ t.HasExecutable process (Path.join e x)

section

variable {t : FileTree} {process : Place} {searchPath : Text} {currentDir name p : Path} {x : Name}

theorem alongSearchPath_eq_some_iff :
    alongSearchPath t process searchPath x = some p ↔ IsFirst t process searchPath x p := by
  unfold alongSearchPath candidates IsFirst
  rw [List.find?_eq_some_iff_append]
  constructor
  · rintro ⟨hexec, front, back, hcandidates, hfront⟩
    obtain ⟨front, rest, hpieces, rfl, hrest⟩ := List.map_eq_append_iff.1 hcandidates
    obtain ⟨d, back, rfl, rfl, -⟩ := List.map_eq_cons_iff.1 hrest
    obtain ⟨hjoin, hcolon⟩ := (Text.pieces_eq_iff (by simp)).1 hpieces
    refine ⟨front, d, back, hjoin, hcolon, rfl, leadsToExecutable_iff.1 hexec, ?_⟩
    intro e he hexec'
    have hnone := hfront _ (List.mem_map_of_mem he)
    rw [leadsToExecutable_iff.2 hexec'] at hnone
    cases hnone
  · rintro ⟨front, d, back, hjoin, hcolon, rfl, hexec, hfront⟩
    have hpieces := (Text.pieces_eq_iff (by simp)).2 ⟨hjoin, hcolon⟩
    refine ⟨leadsToExecutable_iff.2 hexec, front.map (Path.join · x), back.map (Path.join · x),
      ?_, ?_⟩
    · rw [hpieces, List.map_append, List.map_cons]
    · intro q hq
      obtain ⟨e, he, rfl⟩ := List.mem_map.1 hq
      simpa [← leadsToExecutable_iff] using hfront e he

theorem alongSearchPath_append (t : FileTree) (process : Place) (first second : Text) (x : Name) :
    alongSearchPath t process (first ++ ':' :: second) x =
      (alongSearchPath t process first x).or (alongSearchPath t process second x) := by
  rw [alongSearchPath, candidates, Text.pieces_append_separator, List.map_append, List.find?_append]
  rfl

theorem atPath_eq_some_iff {q : Path} :
    atPath t process p = some q ↔ q = p ∧ t.Has process q := by
  unfold atPath
  constructor
  · intro h
    split at h
    case isTrue hthere =>
        obtain rfl := Option.some.inj h
        exact ⟨rfl, leadsSomewhere_iff.1 hthere⟩
    case isFalse => cases h
  · rintro ⟨rfl, hhas⟩
    rw [if_pos (leadsSomewhere_iff.2 hhas)]

theorem command?_of_isAbsolute (h : Path.isAbsolute name = true) :
    command? t process searchPath currentDir name = atPath t process name := by
  rw [command?, if_pos h]

theorem command?_of_components (h : Path.isAbsolute name = false)
    (hx : Path.components name = [.normal x]) :
    command? t process searchPath currentDir name = alongSearchPath t process searchPath x := by
  rw [command?, if_neg (by simp [h]), hx]

theorem command?_of_ne (h : Path.isAbsolute name = false) (hne : name ≠ [])
    (hx : ∀ x, Path.components name ≠ [.normal x]) :
    command? t process searchPath currentDir name =
      atPath t process (Path.join currentDir name) := by
  rw [command?, if_neg (by simp [h])]
  split
  case h_1 hnil => exact absurd ((Path.components_eq_nil_iff h).1 hnil) hne
  case h_2 x hnormal => exact absurd hnormal (hx x)
  case h_3 => rfl

end

/-- The three kinds of names. -/
theorem name_cases (name : Path) :
    Path.isAbsolute name = true ∨ name = [] ∨ (∃ x, Path.isAbsolute name = false ∧
      Path.components name = [.normal x]) ∨
      Path.isAbsolute name = false ∧ name ≠ [] ∧ ∀ x, Path.components name ≠ [.normal x] := by
  cases h : Path.isAbsolute name with
  | true => exact .inl rfl
  | false =>
      by_cases hne : name = []
      · exact .inr (.inl hne)
      by_cases hx : ∃ x, Path.components name = [.normal x]
      · obtain ⟨x, hx⟩ := hx
        exact .inr (.inr (.inl ⟨x, rfl, hx⟩))
      · exact .inr (.inr (.inr ⟨rfl, hne, not_exists.1 hx⟩))

theorem command?_append (t : FileTree) (process : Place) (first second : Text) (currentDir : Path)
    (name : Path) :
    command? t process (first ++ ':' :: second) currentDir name =
      (command? t process first currentDir name).or
        (command? t process second currentDir name) := by
  obtain h | rfl | ⟨x, h, hx⟩ | ⟨h, hne, hx⟩ := name_cases name
  · simp only [command?_of_isAbsolute h, Option.or_self]
  · rfl
  · simp only [command?_of_components h hx, alongSearchPath_append]
  · simp only [command?_of_ne h hne hx, Option.or_self]

/-- One single name is looked for along the search path, the first element with an executable
file of this name decides, and what is found behind the end of one search path is found
there only if that one has nothing. Any other name is a path that is there or not. -/
theorem command?_eq_some_iff_and_append (t : FileTree) (process : Place) (searchPath : Text)
    (currentDir name : Path) :
    (∀ x, Path.isAbsolute name = false → Path.components name = [.normal x] →
      (∀ p, command? t process searchPath currentDir name = some p ↔
        IsFirst t process searchPath x p) ∧
      ∀ first second, searchPath = first ++ ':' :: second →
        command? t process searchPath currentDir name =
          (command? t process first currentDir name).or
            (command? t process second currentDir name)) ∧
    (Path.isAbsolute name = false → name ≠ [] → (∀ x, Path.components name ≠ [.normal x]) →
      ∀ p, command? t process searchPath currentDir name = some p ↔
        p = Path.join currentDir name ∧ t.Has process p) ∧
    (Path.isAbsolute name = true →
      ∀ p, command? t process searchPath currentDir name = some p ↔
        p = name ∧ t.Has process p) ∧
    (name = [] → command? t process searchPath currentDir name = none) := by
  refine ⟨?_, ?_, ?_, ?_⟩
  · intro x h hx
    constructor
    · intro p
      rw [command?_of_components h hx]
      exact alongSearchPath_eq_some_iff
    · rintro first second rfl
      exact command?_append t process first second currentDir name
  · intro h hne hx p
    rw [command?_of_ne h hne hx]
    exact atPath_eq_some_iff
  · intro h p
    rw [command?_of_isAbsolute h]
    exact atPath_eq_some_iff
  · rintro rfl
    rfl

/-- Past a file that nobody may execute, a directory, an element that leads nowhere and the
empty one to a link; and in the directory of the process, where the empty element finds a
name that has no directory in front of it. -/
theorem command?_behind_empty_element :
    let t : FileTree := ⟨[(["a".toList], .directory),
      (["tool".toList, "a".toList], .file 0o644 .empty),
      (["b".toList], .directory), (["tool".toList, "b".toList], .directory),
      (["c".toList], .directory), (["tool".toList, "c".toList], .link "../d/run".toList),
      (["d".toList], .directory), (["run".toList, "d".toList], .file 0o701 .empty),
      (["tool".toList, "d".toList], .file 0o755 .empty)]⟩
    let searchPath := "/a:b:none::/c:/d".toList
    let d := Place.ofAddress ["d".toList]
    IsFirst t .root searchPath "tool".toList "/c/tool".toList ∧
      command? t .root searchPath ['/'] "tool".toList = some "/c/tool".toList ∧
      command? t d "/a::/d".toList "/d".toList "run".toList = some "run".toList ∧
      command? t d "/a:".toList "/d".toList "tool".toList =
        (command? t d "/a".toList "/d".toList "tool".toList).or (some "tool".toList) ∧
      command? t d searchPath "/d".toList "./run".toList = some "/d/./run".toList ∧
      command? t d searchPath "/d".toList "/b".toList = some "/b".toList := by
  intro t searchPath d
  have hfirst : IsFirst t .root searchPath "tool".toList "/c/tool".toList := by
    refine ⟨["/a".toList, "b".toList, "none".toList, []], "/c".toList, ["/d".toList], by decide,
      by decide, by decide, leadsToExecutable_iff.1 (by decide +kernel), ?_⟩
    simp only [← leadsToExecutable_iff]
    decide +kernel
  have hrun : IsFirst t d "/a::/d".toList "run".toList "run".toList := by
    refine ⟨["/a".toList], [], ["/d".toList], by decide, by decide, by decide,
      leadsToExecutable_iff.1 (by decide +kernel), ?_⟩
    simp only [← leadsToExecutable_iff]
    decide +kernel
  obtain ⟨hsingle, -⟩ := command?_eq_some_iff_and_append t .root searchPath ['/'] "tool".toList
  obtain ⟨hname, -⟩ := command?_eq_some_iff_and_append t d "/a::/d".toList "/d".toList "run".toList
  obtain ⟨hempty, -⟩ := command?_eq_some_iff_and_append t d "/a:".toList "/d".toList "tool".toList
  obtain ⟨-, hpath, -⟩ := command?_eq_some_iff_and_append t d searchPath "/d".toList "./run".toList
  obtain ⟨-, -, habsolute, -⟩ := command?_eq_some_iff_and_append t d searchPath "/d".toList
    "/b".toList
  refine ⟨hfirst, ?_, ?_, ?_, ?_, ?_⟩
  · exact ((hsingle "tool".toList rfl rfl).1 _).2 hfirst
  · exact ((hname "run".toList rfl rfl).1 _).2 hrun
  · rw [(hempty "tool".toList rfl rfl).2 "/a".toList [] rfl]
    have hback : command? t d [] "/d".toList "tool".toList = some "tool".toList := by
      decide +kernel
    rw [hback]
  · refine (hpath rfl (by decide) ?_ _).2 ⟨rfl, leadsSomewhere_iff.1 (by decide +kernel)⟩
    rintro x ⟨⟩
  · exact (habsolute rfl _).2 ⟨rfl, leadsSomewhere_iff.1 (by decide +kernel)⟩

end Lookup

end CommandShell
