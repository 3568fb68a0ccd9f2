import CommandShell.ByteStream
import CommandShell.Proofs.Text.Utf8
import Mathlib

/-!
# What goes through streams in memory

A reader gives its bytes in pieces of the sizes that are asked for, one behind the other. A
writer, its copies and their copies (`ByteWriter.Copies`) have one buffer, which holds what
was written through any of them and nothing else, whatever is done with other writers in
between (`BufferPool.Holds`). So bytes that are copied from a reader to a writer in pieces
are the same bytes, and those of a text are read as the text, wherever they were cut.

The main statement is `BufferPool.streams_keep_all_bytes`.
-/

namespace CommandShell

namespace ByteSource

theorem readAll_append (r : ByteSource) (front back : List Nat) :
    r.readAll (front ++ back) =
      r.readAll front ++ readAll ⟨r.remaining.drop front.sum⟩ back := by
  induction front generalizing r with
  | nil => rfl
  | cons n front ih =>
      rw [List.cons_append, readAll, readAll, ih, List.cons_append, List.sum_cons]
      simp only [read, List.drop_drop]

theorem length_readAll (r : ByteSource) (sizes : List Nat) :
    (r.readAll sizes).length = sizes.length := by
  induction sizes generalizing r with
  | nil => rfl
  | cons n sizes ih => rw [readAll, List.length_cons, ih, List.length_cons]

theorem flatten_readAll (r : ByteSource) (sizes : List Nat) :
    (r.readAll sizes).flatten = r.remaining.take sizes.sum := by
  induction sizes generalizing r with
  | nil => rfl
  | cons n sizes ih => rw [readAll, List.flatten_cons, ih, List.sum_cons, List.take_add, read]

end ByteSource

namespace ByteWriter

variable {w v : ByteWriter}

/-- The other writer is this one, or was copied from it, be it through other copies. -/
inductive Copies (w : ByteWriter) : ByteWriter → Prop
  | self : Copies w w
  | clone {v : ByteWriter} (h : Copies w v) : Copies w v.clone

theorem copies_iff : w.Copies v ↔ v.place = w.place := by
  constructor
  · intro h
    induction h with
    | self => rfl
    | clone _ ih => exact ih
  · intro h
    obtain rfl : v = w := congrArg ByteWriter.mk h
    exact .self

instance : Decidable (w.Copies v) := decidable_of_iff _ copies_iff.symm

end ByteWriter

namespace BufferPool

/-- What is done with writers and their buffers: one is made, or written to. -/
inductive Use where
  | create
  | write (w : ByteWriter) (data : List UInt8)
  deriving DecidableEq, Repr

/-- What is written to a writer or through a copy of it. -/
def Use.dataFor (w : ByteWriter) : Use → List UInt8
  | .create => []
  | .write v data => if w.Copies v then data else []

def use (p : BufferPool) : Use → BufferPool
  | .create => p.create.2
  | .write w data => (p.write w data).2

/-- Writes all that a reader gives for some sizes, each piece through a writer of its own. -/
def copyFrom : ByteSource → List (Nat × ByteWriter) → BufferPool → BufferPool
  | _, [], p => p
  | r, (n, w) :: steps, p => copyFrom (r.read n).2 steps (p.write w (r.read n).1).2

/-- Writes through some writers, each with the number of bytes taken and with what another
writer shows behind it. -/
def trace (shown : ByteWriter) :
    List (ByteWriter × List UInt8) → BufferPool → List (Option Nat × Option Text)
  | [], _ => []
  | (w, data) :: writes, p =>
    ((p.write w data).1, (p.write w data).2.contents? shown) ::
      trace shown writes (p.write w data).2

/-- The buffer of the writer has exactly these bytes. -/
def Holds (p : BufferPool) (w : ByteWriter) (bytes : List UInt8) : Prop :=
  p.buffer? w = some ⟨bytes⟩

theorem holds_create (p : BufferPool) : p.create.2.Holds p.create.1 [] := by
  simp [Holds, create, buffer?, ByteBuffer.empty]

namespace Holds

variable {p : BufferPool} {w v : ByteWriter} {bytes : List UInt8}

theorem of_copies (h : p.Holds w bytes) (hv : w.Copies v) : p.Holds v bytes := by
  rwa [Holds, buffer?, ByteWriter.copies_iff.1 hv]

theorem contents?_eq (h : p.Holds w bytes) :
    p.contents? w = some (Text.ofUtf8Lossy bytes) := by
  rw [contents?, h]
  rfl

theorem write_fst (h : p.Holds w bytes) (data : List UInt8) :
    (p.write w data).1 = some data.length := by
  rw [write, h]
  rfl

theorem place_lt (h : p.Holds w bytes) : w.place < p.buffers.length :=
  (List.getElem?_eq_some_iff.1 h).1

/-- A writer that is made has another buffer. -/
theorem not_copies_create (h : p.Holds w bytes) : ¬ w.Copies p.create.1 := by
  intro hcopies
  have hplace := h.place_lt
  rw [← ByteWriter.copies_iff.1 hcopies] at hplace
  exact Nat.lt_irrefl _ hplace

theorem use (h : p.Holds w bytes) (u : Use) : (p.use u).Holds w (bytes ++ u.dataFor w) := by
  cases u with
  | create =>
      rw [Use.dataFor, List.append_nil, Holds, buffer?, BufferPool.use, create,
        List.getElem?_append_left h.place_lt]
      exact h
  | write v data =>
      have hmodify : (p.write v data).2.buffer? w = some (if v.place = w.place then
          ⟨bytes ++ data⟩ else ⟨bytes⟩) := by
        rw [BufferPool.write, buffer?, List.getElem?_modify]
        exact congrArg (Option.map _) h
      rw [Holds, BufferPool.use, hmodify, Use.dataFor]
      by_cases hv : w.Copies v
      · rw [if_pos hv, if_pos (ByteWriter.copies_iff.1 hv)]
      · rw [if_neg hv, if_neg (mt ByteWriter.copies_iff.2 hv), List.append_nil]

/-- Only what is written through copies of a writer comes to its buffer. -/
theorem foldl_use (h : p.Holds w bytes) (uses : List Use) :
    (uses.foldl BufferPool.use p).Holds w (bytes ++ uses.flatMap (Use.dataFor w)) := by
  induction uses generalizing p bytes with
  | nil => simpa using h
  | cons u uses ih =>
      rw [List.foldl_cons, List.flatMap_cons, ← List.append_assoc]
      exact ih (h.use u)

theorem write (h : p.Holds w bytes) (hv : w.Copies v) (data : List UInt8) :
    (p.write v data).2.Holds w (bytes ++ data) := by
  have hwrite := h.use (.write v data)
  rwa [Use.dataFor, if_pos hv] at hwrite

/-- What copies of one writer show is what a single buffer shows. -/
theorem trace_eq {writes : List (ByteWriter × List UInt8)} (h : p.Holds w bytes)
    (hwrites : ∀ x ∈ writes, w.Copies x.1) (hv : w.Copies v) :
    trace v writes p = (ByteBuffer.writeAll ⟨bytes⟩ (writes.map Prod.snd)).map
      fun r => (some r.1, some r.2) := by
  induction writes generalizing p bytes with
  | nil => rfl
  | cons x writes ih =>
      obtain ⟨hx, hrest⟩ := List.forall_mem_cons.1 hwrites
      have hnext := h.write hx x.2
      rw [trace, (h.of_copies hx).write_fst, (hnext.of_copies hv).contents?_eq,
        ih hnext hrest]
      rfl

theorem copyFrom {r : ByteSource} {steps : List (Nat × ByteWriter)} (h : p.Holds w bytes)
    (hsteps : ∀ s ∈ steps, w.Copies s.2) :
    (copyFrom r steps p).Holds w
      (bytes ++ r.remaining.take (steps.map Prod.fst).sum) := by
  induction steps generalizing r p bytes with
  | nil => simpa [BufferPool.copyFrom] using h
  | cons s steps ih =>
      obtain ⟨hs, hrest⟩ := List.forall_mem_cons.1 hsteps
      have hnext : (BufferPool.copyFrom r (s :: steps) p).Holds w _ :=
        ih (h.write hs (r.read s.1).1) hrest
      have hpieces : (r.read s.1).1 ++ (r.read s.1).2.remaining.take (steps.map Prod.fst).sum =
          r.remaining.take ((s :: steps).map Prod.fst).sum := by
        rw [List.map_cons, List.sum_cons, List.take_add, ByteSource.read]
      rw [← hpieces, ← List.append_assoc]
      exact hnext

end Holds

/-- Nothing is lost or split that goes through streams in memory. A reader gives pieces one
behind the other, each of its size or as much as is left. Every write takes all its bytes,
and behind it each copy of a writer shows the text of all bytes that were written through
copies of it, whatever else was written. What is copied from a text in pieces of any sizes
is shown as the characters that are complete, with one replacement character behind them if
the last is not; in the end it is shown as the text. Writes through any copies of a writer
are those to a single buffer. -/
theorem streams_keep_all_bytes :
    (∀ (d : List UInt8) (sizes : List Nat),
      let pieces := ByteSource.readAll ⟨d⟩ sizes
      pieces.length = sizes.length ∧ pieces.flatten = d.take sizes.sum ∧
        pieces.flatten.length = min sizes.sum d.length ∧
        ∀ front n back, sizes = front ++ n :: back →
          pieces = ByteSource.readAll ⟨d⟩ front ++ (d.drop front.sum).take n ::
              ByteSource.readAll ⟨d.drop (front.sum + n)⟩ back ∧
            ((d.drop front.sum).take n).length = min n (d.length - front.sum)) ∧
    (∀ (p : BufferPool) (uses : List Use),
      let w := p.create.1
      let after := uses.foldl use p.create.2
      let written := uses.flatMap (Use.dataFor w)
      ¬ w.Copies after.create.1 ∧ ∀ v, w.Copies v →
        after.contents? v = some (Text.ofUtf8Lossy written) ∧ ∀ data,
          (after.write v data).1 = some data.length ∧ ∀ v', w.Copies v' →
            (after.write v data).2.contents? v' = some (Text.ofUtf8Lossy (written ++ data))) ∧
    (∀ (p : BufferPool) (t : Text) (steps : List (Nat × ByteWriter)),
      let w := p.create.1
      let after := copyFrom ⟨t.toUtf8⟩ steps p.create.2
      let n := (steps.map Prod.fst).sum
      (∀ s ∈ steps, w.Copies s.2) → ∀ v, w.Copies v →
        after.contents? v = some (Input.fitting n t ++
          if Text.utf8Size (Input.fitting n t) < min n t.utf8Size then [Text.replacement] else []) ∧
        (t.utf8Size ≤ n → after.contents? v = some t)) ∧
    ∀ (p : BufferPool) (writes : List (ByteWriter × List UInt8)),
      let w := p.create.1
      (∀ x ∈ writes, w.Copies x.1) → ∀ v, w.Copies v →
        trace v writes p.create.2 = (ByteBuffer.empty.writeAll (writes.map Prod.snd)).map
          fun r => (some r.1, some r.2) := by
  refine ⟨?_, ?_, ?_, ?_⟩
  · intro d sizes pieces
    have hflatten : pieces.flatten = d.take sizes.sum := ByteSource.flatten_readAll _ _
    refine ⟨ByteSource.length_readAll _ _, hflatten, by rw [hflatten, List.length_take], ?_⟩
    rintro front n back rfl
    constructor
    · rw [← List.drop_drop]
      exact ByteSource.readAll_append _ _ _
    · rw [List.length_take, List.length_drop]
  · intro p uses w after written
    have hafter : after.Holds w written := (holds_create p).foldl_use uses
    refine ⟨hafter.not_copies_create, ?_⟩
    intro v hv
    refine ⟨(hafter.of_copies hv).contents?_eq, ?_⟩
    intro data
    refine ⟨(hafter.of_copies hv).write_fst data, ?_⟩
    intro v' hv'
    exact ((hafter.write hv data).of_copies hv').contents?_eq
  · intro p t steps w after n hsteps v hv
    have hafter : after.Holds w (t.toUtf8.take n) := (holds_create p).copyFrom hsteps
    have hcontents := (hafter.of_copies hv).contents?_eq
    refine ⟨?_, ?_⟩
    · rw [hcontents, Text.ofUtf8Lossy_take_toUtf8]
    · intro hall
      rw [hcontents, List.take_of_length_le (by rwa [Text.length_toUtf8]),
        Text.ofUtf8Lossy_toUtf8]
  · intro p writes w hwrites v hv
    exact (holds_create p).trace_eq hwrites hv

/-- A text of characters of two, three and four bytes, cut within the last two of them. -/
theorem copyFrom_cut_characters :
    let p : BufferPool := ⟨[⟨[0x61]⟩]⟩
    let w := p.create.1
    let t : Text := "é€😀".toList
    let front := [(1, w), (3, w.clone)]
    let back := [(2, w.clone.clone), (0, w), (9, w)]
    (copyFrom ⟨t.toUtf8⟩ front p.create.2).contents? w = some ['é', Text.replacement] ∧
      (copyFrom ⟨t.toUtf8⟩ (front ++ back) p.create.2).contents? w.clone = some t ∧
      trace w.clone [(w, [0xC3]), (w.clone, [0xA9])] p.create.2 =
        [(some 1, some [Text.replacement]), (some 1, some ['é'])] := by
  intro p w t front back
  obtain ⟨-, -, hcopied, htrace⟩ := streams_keep_all_bytes
  obtain ⟨hcut, -⟩ := hcopied p t front (by decide) w .self
  obtain ⟨-, hall⟩ := hcopied p t (front ++ back) (by decide) w.clone (.clone .self)
  refine ⟨?_, hall (by decide), ?_⟩
  · rw [hcut]
    decide
  · rw [htrace p _ (by decide) w.clone (.clone .self)]
    decide

end BufferPool

end CommandShell
