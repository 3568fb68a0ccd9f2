import CommandShell.Text
import Mathlib.Data.Nat.Digits.Defs

/-!
# Integers in decimal

A text writes an integer if it is digits, of which there is at least one, or such digits
behind a sign (`Text.Writes`). There can be any number of zeros in front, so an integer is
written in many ways, but a text writes one integer at most (`Text.Writes.eq`). The usual
form of an integer is one of the ways in which it is written (`Text.writes_ofInt`).
-/

namespace CommandShell

namespace Text

/-- Decimal digits, of which there is at least one. -/
structure IsNumeral (t : Text) : Prop where
  ne_nil : t ≠ []
  isDigit : ∀ c ∈ t, c.isDigit = true

def digitValue (c : Char) : Nat := c.toNat - '0'.toNat

/-- The number that digits write, where the last of them counts once. -/
def numberOf (t : Text) : Nat := Nat.ofDigits 10 (t.reverse.map digitValue)

/-- The text writes the integer in decimal. -/
inductive Writes : Text → Int → Prop
  | bare {digits : Text} (h : digits.IsNumeral) : Writes digits (numberOf digits)
  | plus {digits : Text} (h : digits.IsNumeral) : Writes ('+' :: digits) (numberOf digits)
  | minus {digits : Text} (h : digits.IsNumeral) : Writes ('-' :: digits) (-(numberOf digits : Int))

/-- Read from the left, each digit counts ten times what is in front of it. -/
theorem foldl_digits (t : Text) :
    t.foldl (fun n c => 10 * n + (c.toNat - '0'.toNat)) 0 = numberOf t := by
  rw [numberOf, Nat.ofDigits_eq_foldr, List.foldr_map, List.foldr_reverse]
  congr 1
  funext n c
  exact Nat.add_comm _ _

theorem not_isNumeral_cons {c : Char} (h : c.isDigit = false) (t : Text) :
    ¬ IsNumeral (c :: t) := by
  intro hnumeral
  rw [hnumeral.isDigit c List.mem_cons_self] at h
  cases h

theorem writes_plus_iff {t : Text} {n : Int} :
    Writes ('+' :: t) n ↔ t.IsNumeral ∧ n = numberOf t := by
  constructor
  · intro h
    cases h with
    | bare h => exact absurd h (not_isNumeral_cons rfl t)
    | plus h => exact ⟨h, rfl⟩
  · rintro ⟨h, rfl⟩
    exact .plus h

theorem writes_minus_iff {t : Text} {n : Int} :
    Writes ('-' :: t) n ↔ t.IsNumeral ∧ n = -(numberOf t : Int) := by
  constructor
  · intro h
    cases h with
    | bare h => exact absurd h (not_isNumeral_cons rfl t)
    | minus h => exact ⟨h, rfl⟩
  · rintro ⟨h, rfl⟩
    exact .minus h

theorem writes_iff_of_unsigned {t : Text} (hplus : t.head? ≠ some '+')
    (hminus : t.head? ≠ some '-') {n : Int} : Writes t n ↔ t.IsNumeral ∧ n = numberOf t := by
  constructor
  · intro h
    cases h with
    | bare h => exact ⟨h, rfl⟩
    | plus h => exact absurd rfl hplus
    | minus h => exact absurd rfl hminus
  · rintro ⟨h, rfl⟩
    exact .bare h

theorem Writes.eq {t : Text} {n n' : Int} (h : Writes t n) (h' : Writes t n') : n = n' := by
  cases h with
  | bare hnumeral =>
      cases h' with
      | bare => rfl
      | plus => exact absurd hnumeral (not_isNumeral_cons rfl _)
      | minus => exact absurd hnumeral (not_isNumeral_cons rfl _)
  | plus => exact (writes_plus_iff.1 h').2.symm
  | minus => exact (writes_minus_iff.1 h').2.symm

theorem isNumeral_ofNat (n : Nat) : (ofNat n).IsNumeral :=
  ⟨Nat.toDigits_ne_nil, fun _ => Nat.isDigit_of_mem_toDigits (by decide) (by decide)⟩

theorem numberOf_ofNat (n : Nat) : numberOf (ofNat n) = n := by
  rw [← foldl_digits, ← Nat.ofDigitChars_eq_foldl]
  exact Nat.ofDigitChars_ten_toDigits

theorem writes_ofInt (n : Int) : Writes (ofInt n) n := by
  cases n with
  | ofNat n =>
      have h := Writes.bare (isNumeral_ofNat n)
      rwa [numberOf_ofNat] at h
  | negSucc n =>
      have h := Writes.minus (isNumeral_ofNat (n + 1))
      rwa [numberOf_ofNat] at h

end Text

end CommandShell
