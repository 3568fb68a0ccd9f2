import CommandShell.Proofs.Lookup.SearchPath

/-!
# Which names are looked for along the search path

What decides is not whether a name has a separator, but how many components it has, and
neither separators nor dots at its end are any. So a name is looked for along the search
path exactly if it spells a name which a directory can have, and it is found where that one
is found (`command?_of_spells`).

The main statement is `Lookup.forall_command?_eq_iff_and_spells`: for these names, and for no
others, the search path matters. It matters on the file trees that have an executable file
of the name at all, and there is such a tree unless no system call takes the name.
-/

namespace CommandShell

theorem Text.length_le_utf8Size (t : Text) : t.length ≤ utf8Size t := by
  induction t with
  | nil => exact Nat.le_refl 0
  | cons c t ih =>
      have hc := c.utf8Size_pos
      rw [List.length_cons, utf8Size_cons]
      omega

namespace FileTree

variable {t : FileTree} {start : Place} {p : Path}

theorem HasExecutable.exists_locate (h : t.HasExecutable start p) :
    ∃ l, t.locate .find start p = .ok l := by
  obtain ⟨permissions, c, hnode, -⟩ := h
  rcases hlocate : t.locate .find start p with e | l
  · rw [nodeAt?, hlocate] at hnode
    cases hnode
  · exact ⟨l, rfl⟩

theorem HasExecutable.accepts (h : t.HasExecutable start p) : Accepts p := by
  obtain ⟨l, hlocate⟩ := h.exists_locate
  exact (locate_eq_ok_iff.1 hlocate).1

/-- A file at the end of a path has a name that a directory takes. -/
theorem HasExecutable.fits {x : Name} (hx : EntryName x) {d : Path}
    (h : t.HasExecutable start (Path.join d x)) : Text.utf8Size x ≤ nameLimit := by
  obtain ⟨l, hlocate⟩ := h.exists_locate
  obtain ⟨front, hsteps⟩ := Step.exists_ofPath_join hx d
  have hland := (locate_eq_ok_iff.1 hlocate).2
  rw [hsteps] at hland
  exact fits_of_land hland

/-- An executable file in the root. -/
theorem hasExecutable_of_node? {x : Name} (hx : EntryName x) (hfits : Text.utf8Size x ≤ nameLimit)
    (hnul : '\x00' ∉ x) {permissions : Nat} {c : Contents}
    (hnode : t.node? [x] = some (.file permissions c))
    (hexec : ∃ bit ∈ [6, 3, 0], permissions.testBit bit = true) :
    t.HasExecutable start ('/' :: x) := by
  have hsteps : Step.ofPath ('/' :: x) = [.enter x] := by
    rw [← List.nil_append ('/' :: x), Step.ofPath_append_separator hx.ne_nil,
      Step.ofPath_of_entryName hx]
    rfl
  have hlength : Text.utf8Size ('/' :: x) < pathLimit := by
    rw [Text.utf8Size_cons]
    exact Nat.lt_of_le_of_lt (Nat.add_le_add_left hfits _) (by decide)
  have hland : land t .find linkLimit .root [.enter x] =
      .ok (.occupied .root x (.file permissions c)) := by
    rw [linkLimit, land, landFollowing, if_neg (by simp), if_neg (by simp [Place.root]),
      if_neg (Nat.not_lt.2 hfits)]
    simp only [Place.root, hnode]
    rfl
  have hlocate : t.locate .find start ('/' :: x) = .ok (.occupied .root x (.file permissions c)) :=
    locate_eq_ok_iff.2 ⟨⟨by simpa using hnul, by simp, hlength⟩, by rw [hsteps]; exact hland⟩
  refine ⟨permissions, c, ?_, hexec⟩
  rw [nodeAt?, hlocate]

end FileTree

namespace Lookup

open FileTree

section

variable {t : FileTree} {process : Place} {searchPath : Text} {currentDir name p : Path} {x : Name}

theorem isFirst_singleton {d : Path} (hcolon : ':' ∉ d)
    (h : t.HasExecutable process (Path.join d x)) :
    IsFirst t process d x (Path.join d x) := by
  refine ⟨[], d, [], rfl, ?_, rfl, h, by simp⟩
  simpa using hcolon

theorem command?_eq_alongSearchPath (h : name.Spells x) :
    command? t process searchPath currentDir name = alongSearchPath t process searchPath x :=
  command?_of_components h.isAbsolute ((Path.components_eq_normal_iff h.isAbsolute).2 h)

/-- A name that spells another one is found where that one is found. -/
theorem command?_of_spells (h : name.Spells x) :
    command? t process searchPath currentDir name =
      command? t process searchPath currentDir x := by
  rw [command?_eq_alongSearchPath h, command?_eq_alongSearchPath (.refl h.name)]

/-- Any other name is found or not, whatever the search path. -/
theorem command?_congr (h : ∀ x, ¬ name.Spells x) (searchPath searchPath' : Text) :
    command? t process searchPath currentDir name =
      command? t process searchPath' currentDir name := by
  obtain habsolute | rfl | ⟨x, hrelative, hx⟩ | ⟨hrelative, hne, hx⟩ := name_cases name
  · rw [command?_of_isAbsolute habsolute, command?_of_isAbsolute habsolute]
  · rfl
  · exact absurd ((Path.components_eq_normal_iff hrelative).1 hx) (h x)
  · rw [command?_of_ne hrelative hne hx, command?_of_ne hrelative hne hx]

/-- Along a search path that is as long as a path cannot be, nothing is found. -/
theorem exists_alongSearchPath_eq_none (t : FileTree) (process : Place) (hx : EntryName x) :
    ∃ searchPath, alongSearchPath t process searchPath x = none := by
  -- Separators, so many that no path begins with them.
  let d : Path := List.replicate pathLimit '/'
  have hpieces : Text.pieces ':' d = [d] := by
    refine (Text.pieces_eq_iff (List.cons_ne_nil d [])).2 ⟨rfl, ?_⟩
    intro s hs hcolon
    obtain rfl := List.mem_singleton.1 hs
    exact absurd (List.eq_of_mem_replicate hcolon) (by decide)
  have hnone : ¬ t.HasExecutable process (Path.join d x) := by
    intro hexec
    have hrelative := Path.isAbsolute_eq_false_of_not_mem hx.no_separator
    have hlength := (Path.isPrefix_join hrelative d).length_le
    have hsize := Text.length_le_utf8Size (Path.join d x)
    have haccepts := hexec.accepts.length
    rw [List.length_replicate] at hlength
    omega
  refine ⟨d, ?_⟩
  rw [alongSearchPath, candidates, hpieces]
  simpa [leadsToExecutable_iff] using hnone

/-- The search path of one directory finds what another one misses, if the directory has the
file at all. -/
theorem forall_alongSearchPath_eq_iff (t : FileTree) (process : Place) (hx : EntryName x) :
    (∀ searchPath searchPath', alongSearchPath t process searchPath x =
      alongSearchPath t process searchPath' x) ↔
      ∀ d, ':' ∉ d → ¬ t.HasExecutable process (Path.join d x) := by
  constructor
  · intro h d hcolon hexec
    obtain ⟨searchPath, hnone⟩ := exists_alongSearchPath_eq_none t process hx
    have hsome := alongSearchPath_eq_some_iff.2 (isFirst_singleton hcolon hexec)
    rw [h d searchPath, hnone] at hsome
    cases hsome
  · intro h
    have hnone : ∀ searchPath, alongSearchPath t process searchPath x = none := by
      intro searchPath
      refine Option.eq_none_iff_forall_ne_some.2 fun p hsome => ?_
      obtain ⟨front, d, back, -, hcolon, rfl, hexec, -⟩ := alongSearchPath_eq_some_iff.1 hsome
      exact h d (hcolon d (by simp)) hexec
    intro searchPath searchPath'
    rw [hnone, hnone]

/-- On some tree a name can be found unless no system call takes it. -/
theorem forall_not_hasExecutable_iff (hx : EntryName x) :
    (∀ (t : FileTree) (process : Place) (d : Path), ':' ∉ d →
      ¬ t.HasExecutable process (Path.join d x)) ↔
      nameLimit < Text.utf8Size x ∨ '\x00' ∈ x := by
  have hrelative := Path.isAbsolute_eq_false_of_not_mem hx.no_separator
  constructor
  · intro h
    by_contra hneither
    obtain ⟨hfits, hnul⟩ := not_or.1 hneither
    have hroot : Path.join ['/'] x = '/' :: x := by
      rw [Path.join, if_neg (by simp [hrelative]), if_pos (.inr rfl)]
      rfl
    have hnode : node? ⟨[([x], .file 0o755 .empty)]⟩ [x] = some (.file 0o755 .empty) := by
      simp [node?]
    refine h ⟨[([x], .file 0o755 .empty)]⟩ .root ['/'] (by decide) ?_
    rw [hroot]
    exact hasExecutable_of_node? hx (Nat.not_lt.1 hfits) hnul hnode ⟨0, by decide, by decide⟩
  · rintro (hlong | hnul) t process d - hexec
    · exact Nat.not_le.2 hlong (hexec.fits hx)
    · refine hexec.accepts.no_nul ?_
      obtain ⟨base, hjoin⟩ := Path.exists_join_eq_append hrelative d
      rw [hjoin]
      exact List.mem_append_right base hnul

/-- The search path matters exactly for the names that spell one which a directory can
have, on the trees where this one can be found at all. -/
theorem forall_command?_eq_iff_and_spells (name : Path) :
    (∀ t process currentDir,
      (∀ searchPath searchPath', command? t process searchPath currentDir name =
        command? t process searchPath' currentDir name) ↔
      ∀ x, name.Spells x → ∀ d, ':' ∉ d → ¬ t.HasExecutable process (Path.join d x)) ∧
    ((∀ t process currentDir searchPath searchPath',
        command? t process searchPath currentDir name =
          command? t process searchPath' currentDir name) ↔
      ∀ x, name.Spells x → nameLimit < Text.utf8Size x ∨ '\x00' ∈ x) ∧
    ∀ x, name.Spells x → ∀ t process searchPath currentDir,
      command? t process searchPath currentDir name =
        command? t process searchPath currentDir x := by
  have htree : ∀ t process currentDir,
      (∀ searchPath searchPath', command? t process searchPath currentDir name =
        command? t process searchPath' currentDir name) ↔
      ∀ x, name.Spells x → ∀ d, ':' ∉ d → ¬ t.HasExecutable process (Path.join d x) := by
    intro t process currentDir
    by_cases hspells : ∃ x, name.Spells x
    · obtain ⟨x, hx⟩ := hspells
      -- A path spells one name at most, so the quantifier is about this one.
      have hunique : ∀ y, name.Spells y ↔ y = x := fun y => hx.eq_iff
      simp only [command?_eq_alongSearchPath hx, hunique, forall_eq]
      exact forall_alongSearchPath_eq_iff t process hx.name
    · have hnone := not_exists.1 hspells
      exact ⟨fun _ x hx => absurd hx (hnone x), fun _ => command?_congr hnone⟩
  refine ⟨htree, ?_, fun x hx t process searchPath currentDir => command?_of_spells hx⟩
  constructor
  · intro h x hx
    refine (forall_not_hasExecutable_iff hx.name).1 fun t process => ?_
    exact (htree t process []).1 (h t process []) x hx
  · intro h t process currentDir
    refine (htree t process currentDir).2 fun x hx => ?_
    exact (forall_not_hasExecutable_iff hx.name).2 (h x hx) t process

/-- The search path does not matter for a name with a separator in it, and matters for one
with separators and dots at its end. -/
theorem command?_of_separator_within_and_behind :
    (∀ t process currentDir searchPath searchPath',
      command? t process searchPath currentDir "bin/tool".toList =
        command? t process searchPath' currentDir "bin/tool".toList) ∧
    ¬ ∀ t process currentDir searchPath searchPath',
      command? t process searchPath currentDir "tool/.//".toList =
        command? t process searchPath' currentDir "tool/.//".toList := by
  obtain ⟨-, hwithin, -⟩ := forall_command?_eq_iff_and_spells "bin/tool".toList
  obtain ⟨-, hbehind, -⟩ := forall_command?_eq_iff_and_spells "tool/.//".toList
  constructor
  · refine hwithin.2 fun x hx => ?_
    have hcomponents := (Path.components_eq_normal_iff (by decide)).2 hx
    cases hcomponents
  · intro h
    have hspells : Path.Spells "tool/.//".toList "tool".toList :=
      (Path.components_eq_normal_iff (by decide)).1 (by decide)
    obtain hlong | hnul := hbehind.1 h _ hspells
    · exact absurd hlong (by decide)
    · exact absurd hnul (by decide)

/-- A separator at the end of a name does not keep the search path from mattering. -/
theorem command?_of_separator_at_end :
    let t : FileTree := ⟨[(["bin".toList], .directory),
      (["tool".toList, "bin".toList], .file 0o755 (.program 0 []))]⟩
    '/' ∈ "tool/".toList ∧
      command? t .root "/bin".toList ['/'] "tool/".toList = some "/bin/tool".toList ∧
      command? t .root "/none".toList ['/'] "tool/".toList = none := by
  intro t
  exact ⟨by decide, by decide +kernel, by decide +kernel⟩

end

end Lookup

end CommandShell
