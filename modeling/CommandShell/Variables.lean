import CommandShell.Text.Sorted

/-!
# Variables

Names with values, and the `name=value` texts that a program is started with. What a process is
started with can name a variable more than once: whoever looks a name up takes the first entry, and
whoever collects all of them into a map keeps the last one (`collected`). In what `insert` and
`erase` make of a map each name occurs once.

Main statements: how looking up a name goes with putting in, taking out, overlaying and collecting
(`get?_insert`, `get?_erase`, `get?_overlay`, `get?_collected`), and that a name has the same value
in the texts as among the entries (`inBlock?_assignments`, `inBlock?_block`).
-/

namespace CommandShell

/-- Names with their values, in an order. The first entry of a name counts. -/
structure Variables where
  entries : List (Text × Text)
  deriving DecidableEq, Repr

namespace Variables

def empty : Variables := ⟨[]⟩

def get? (v : Variables) (name : Text) : Option Text := v.entries.lookup name

def erase (v : Variables) (name : Text) : Variables := ⟨v.entries.filter (·.1 ≠ name)⟩

def insert (v : Variables) (name value : Text) : Variables :=
  ⟨(name, value) :: (v.erase name).entries⟩

def ofList (entries : List (Text × Text)) : Variables :=
  entries.foldl (fun v e => v.insert e.1 e.2) empty

/-- All entries put in one after the other: the last entry of a name counts. -/
def collected (v : Variables) : Variables := ofList v.entries

/-- The entries of `own`, and those of `base` whose names it does not have. -/
def overlay (base own : Variables) : Variables :=
  ⟨own.entries ++ base.entries.filter fun e => (own.get? e.1).isNone⟩

theorem lookup_filter_of_pos {p : Text → Bool} {k : Text} (h : p k = true)
    (es : List (Text × Text)) : (es.filter fun e => p e.1).lookup k = es.lookup k := by
  induction es with
  | nil => rfl
  | cons e es ih =>
    rcases e with ⟨b, n⟩
    by_cases hb : k = b
    · subst hb; simp [h]
    · cases hp : p b <;> simp [List.lookup_cons, hp, beq_false_of_ne hb, ih]

theorem lookup_filter_of_neg {p : Text → Bool} {k : Text} (h : p k = false)
    (es : List (Text × Text)) : (es.filter fun e => p e.1).lookup k = none := by
  induction es with
  | nil => rfl
  | cons e es ih =>
    rcases e with ⟨b, n⟩
    by_cases hb : k = b
    · subst hb; simp [h, ih]
    · cases hp : p b <;> simp [List.lookup_cons, hp, beq_false_of_ne hb, ih]

theorem get?_erase (v : Variables) (name k : Text) :
    (v.erase name).get? k = if k = name then none else v.get? k := by
  unfold get? erase
  split
  · rename_i h
    exact lookup_filter_of_neg (p := fun x => decide (x ≠ name)) (by simp [h]) _
  · rename_i h
    exact lookup_filter_of_pos (p := fun x => decide (x ≠ name)) (by simp [h]) _

theorem get?_insert (v : Variables) (name value k : Text) :
    (v.insert name value).get? k = if k = name then some value else v.get? k := by
  have := get?_erase v name k
  unfold get? at this ⊢
  simp only [insert, List.lookup_cons]
  by_cases h : k = name
  · simp [h]
  · simpa [beq_false_of_ne h, h] using this

theorem get?_foldl_insert (es : List (Text × Text)) (v : Variables) (k : Text) :
    (es.foldl (fun v e => v.insert e.1 e.2) v).get? k = (es.reverse.lookup k).or (v.get? k) := by
  induction es generalizing v with
  | nil => rfl
  | cons e es ih =>
    rcases e with ⟨b, n⟩
    rw [List.foldl_cons, ih, List.reverse_cons, List.lookup_append, Option.or_assoc, get?_insert]
    by_cases h : k = b
    · simp [h]
    · simp [h, List.lookup_cons, beq_false_of_ne h]

theorem get?_collected (v : Variables) (k : Text) :
    v.collected.get? k = v.entries.reverse.lookup k := by
  rw [collected, ofList, get?_foldl_insert]
  exact Option.or_none

/-- Collecting drops no name. -/
theorem isSome_get?_collected (v : Variables) (k : Text) :
    (v.collected.get? k).isSome = (v.get? k).isSome := by
  rw [get?_collected, get?, Bool.eq_iff_iff, ← Option.ne_none_iff_isSome,
    ← Option.ne_none_iff_isSome, ne_eq, ne_eq, List.lookup_eq_none_iff, List.lookup_eq_none_iff]
  simp only [List.mem_reverse]

/-- No name occurs twice. -/
def Distinct (v : Variables) : Prop := (v.entries.map Prod.fst).Nodup

instance : DecidablePred Distinct := fun _ => inferInstanceAs (Decidable (List.Nodup _))

theorem lookup_reverse {es : List (Text × Text)} (h : (es.map Prod.fst).Nodup) (k : Text) :
    es.reverse.lookup k = es.lookup k := by
  induction es with
  | nil => rfl
  | cons e es ih =>
    obtain ⟨hfresh, hrest⟩ := List.nodup_cons.1 h
    rcases e with ⟨b, n⟩
    rw [List.reverse_cons, List.lookup_append, ih hrest]
    by_cases hk : k = b
    · subst hk
      have hnone : es.lookup k = none := by
        rw [List.lookup_eq_none_iff]
        intro f hf
        have hname : f.1 ∈ es.map Prod.fst := List.mem_map_of_mem hf
        exact bne_iff_ne.2 fun heq => hfresh (heq ▸ hname)
      simp [hnone]
    · simp [List.lookup_cons, beq_false_of_ne hk]

/-- Where no name occurs twice, collecting changes no value. -/
theorem Distinct.get?_collected {v : Variables} (h : v.Distinct) (k : Text) :
    v.collected.get? k = v.get? k := by
  rw [Variables.get?_collected, lookup_reverse h, get?]

theorem get?_overlay (base own : Variables) (k : Text) :
    (base.overlay own).get? k = (own.get? k).or (base.get? k) := by
  unfold overlay
  simp only [get?, List.lookup_append]
  cases h : own.entries.lookup k with
  | some v => rfl
  | none =>
    simp only [Option.none_or]
    exact lookup_filter_of_pos (p := fun x => (own.entries.lookup x).isNone) (by simp [h]) _

/-- The name, an equals sign and the value. -/
def assignment (e : Text × Text) : Text := e.1 ++ '=' :: e.2

def assignments (v : Variables) : List Text := v.entries.map assignment

/-- The assignments in the order of the names. -/
def block (v : Variables) : List Text := (Text.sortByKey v.entries).map assignment

/-- The value of a name in a block: what follows the first assignment to it. -/
def inBlock? (block : List Text) (name : Text) : Option Text :=
  if name = [] then none else block.findSome? (Text.after? (name ++ ['=']))

/-- What can be the name of a variable. In an assignment the name goes up to an equals sign, but its
first character can be one. -/
def IsName (name : Text) : Prop := name ≠ [] ∧ '=' ∉ name.tail

instance : DecidablePred IsName := fun _ => inferInstanceAs (Decidable (_ ∧ _))

/-- All entries have names that variables can have. -/
def Named (v : Variables) : Prop := ∀ e ∈ v.entries, IsName e.1

theorem Named.erase {v : Variables} (h : v.Named) (name : Text) : (v.erase name).Named := by
  intro e he
  exact h e (List.mem_filter.1 he).1

theorem Named.insert {v : Variables} (h : v.Named) {name : Text} (hname : IsName name)
    (value : Text) : (v.insert name value).Named := by
  intro e he
  rcases List.mem_cons.1 he with rfl | he
  · exact hname
  · exact h.erase name e he

theorem Named.overlay {base own : Variables} (hbase : base.Named) (hown : own.Named) :
    (base.overlay own).Named := by
  intro e he
  rcases List.mem_append.1 he with he | he
  · exact hown e he
  · exact hbase e (List.mem_filter.1 he).1

theorem Named.collected {v : Variables} (h : v.Named) : v.collected.Named := by
  have hfold : ∀ (es : List (Text × Text)) (w : Variables), (∀ e ∈ es, IsName e.1) → w.Named →
      (es.foldl (fun v e => v.insert e.1 e.2) w).Named := by
    intro es
    induction es with
    | nil => exact fun _ _ hw => hw
    | cons e es ih =>
      intro w hes hw
      obtain ⟨he, hrest⟩ := List.forall_mem_cons.1 hes
      exact ih _ hrest (hw.insert he e.2)
  exact hfold _ _ h fun _ he => absurd he List.not_mem_nil

theorem Named.get?_nil {v : Variables} (h : v.Named) : v.get? [] = none := by
  rw [get?, List.lookup_eq_none_iff]
  intro e he
  simpa using (h e he).1.symm

theorem after?_assignment {name : Text} (h : '=' ∉ name) {e : Text × Text} (he : '=' ∉ e.1) :
    Text.after? (name ++ ['=']) (assignment e) = if name = e.1 then some e.2 else none := by
  rcases e with ⟨k, v⟩
  simp only [assignment] at he ⊢
  induction name generalizing k with
  | nil =>
    cases k with
    | nil => simp [Text.after?]
    | cons c k => simp_all [Text.after?]
  | cons d name ih =>
    cases k with
    | nil =>
      have hd : d ≠ '=' := fun hd => h (by simp [hd])
      simp [Text.after?, hd]
    | cons c k =>
      simp only [List.mem_cons, not_or] at h he
      by_cases hc : d = c
      · simp [Text.after?, hc, ih h.2 k he.2]
      · simp [Text.after?, hc]

/-- The first characters of the two names are compared whatever they are. -/
theorem after?_assignment_of_isName {name : Text} (hname : IsName name) {e : Text × Text}
    (he : IsName e.1) :
    Text.after? (name ++ ['=']) (assignment e) = if name = e.1 then some e.2 else none := by
  rcases e with ⟨k, v⟩
  obtain ⟨d, name, rfl⟩ := List.exists_cons_of_ne_nil hname.1
  obtain ⟨c, k, rfl⟩ := List.exists_cons_of_ne_nil he.1
  have hrest : Text.after? (name ++ ['=']) (k ++ '=' :: v) = if name = k then some v else none :=
    after?_assignment hname.2 (e := (k, v)) he.2
  by_cases hc : d = c
  · simp [assignment, Text.after?, hc, hrest]
  · simp [assignment, Text.after?, hc]

/-- The assignments give the value that the entries have. -/
theorem inBlock?_assignments {v : Variables} (hv : v.Named) {name : Text} (h : '=' ∉ name.tail) :
    inBlock? v.assignments name = v.get? name := by
  by_cases hne : name = []
  · rw [inBlock?, if_pos hne, hne, hv.get?_nil]
  rw [inBlock?, if_neg hne, assignments, get?]
  unfold Named at hv
  generalize v.entries = es at hv ⊢
  induction es with
  | nil => rfl
  | cons e es ih =>
    rw [List.map_cons, List.findSome?_cons,
      after?_assignment_of_isName ⟨hne, h⟩ (hv e List.mem_cons_self), List.lookup_cons,
      ih fun x hx => hv x (List.mem_cons_of_mem e hx)]
    by_cases he : name = e.1
    · simp [he]
    · simp [he, beq_false_of_ne he]

theorem inBlock?_block {v : Variables} (hv : v.Named) {name : Text} (h : '=' ∉ name.tail) :
    inBlock? v.block name = v.get? name := by
  have hsorted : Named ⟨Text.sortByKey v.entries⟩ := fun e he =>
    hv e ((Text.perm_sortByKey v.entries).mem_iff.1 he)
  exact (inBlock?_assignments hsorted h).trans (Text.lookup_sortByKey v.entries name)

end Variables

end CommandShell
