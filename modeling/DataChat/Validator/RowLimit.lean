import DataChat.Validator.Acceptance

/-!
# The limit of a limited statement

A statement that has been limited is left as it is when it is limited once more. The limit that is
set is written as a number literal, so this comes down to reading back what was written
(`literalInt_toString`).
-/

namespace DataChat.Validator

open Sql

variable {maximumRows : Int} {statement : Expr}

theorem intDigits_eq {cs : List Char} (h : ∀ c ∈ cs, c.isDigit = true) (n : Nat) :
    intDigits n cs = some (Nat.ofDigitChars 10 cs n) := by
  induction cs generalizing n with
  | nil => rfl
  | cons c cs ih =>
    have hc := h c List.mem_cons_self
    have hunderscore : c ≠ '_' := by
      rintro rfl
      exact absurd hc (by decide)
    rw [intDigits, if_pos hc, ih (fun d hd => h d (List.mem_cons_of_mem _ hd)),
      Nat.ofDigitChars_cons]
    intro d ds heq
    exact absurd heq hunderscore

theorem literalInt_repr (n : Nat) : literalInt n.repr = some n := by
  have hdigits : ∀ c ∈ Nat.toDigits 10 n, c.isDigit = true :=
    fun c hc => Nat.isDigit_of_mem_toDigits (by decide) (by decide) hc
  unfold literalInt
  rw [Nat.toList_repr]
  cases hcs : Nat.toDigits 10 n with
  | nil => exact absurd hcs Nat.toDigits_ne_nil
  | cons c cs =>
    have hc : c.isDigit = true := hdigits c (hcs ▸ List.mem_cons_self)
    show (if c.isDigit then intDigits 0 (c :: cs) else none) = some n
    rw [if_pos hc, ← hcs, intDigits_eq hdigits, Nat.ofDigitChars_ten_toDigits]

/-- A positive number is read as it was written. -/
theorem literalInt_toString (h : 1 ≤ maximumRows) :
    literalInt (toString maximumRows) = some maximumRows.toNat := by
  obtain ⟨n, rfl⟩ := Int.eq_ofNat_of_zero_le (by omega : 0 ≤ maximumRows)
  exact literalInt_repr n

theorem existingLimit_limitExpr (h : 1 ≤ maximumRows) :
    existingLimit (withArgKey .limit (limitExpr maximumRows)) = some maximumRows.toNat :=
  literalInt_toString h

/-- The limit of a statement after it was limited. -/
theorem existingLimit_limited {limit : Int} {limited : Expr}
    (h : applyRowLimit statement maximumRows = .ok (limit, limited)) :
    ∃ existing : Nat, (arg limited .limit).bind existingLimit = some existing ∧
      limit = existing ∧ 1 ≤ existing ∧ (existing : Int) ≤ maximumRows := by
  obtain ⟨hrows, ⟨existing, hexisting, hrange, rfl, rfl⟩ | ⟨-, rfl, rfl⟩⟩ := applyRowLimit_ok h
  · exact ⟨existing, hexisting, rfl, hrange⟩
  · refine ⟨limit.toNat, ?_, by omega, by omega, by omega⟩
    rw [arg_setArg_self]
    exact existingLimit_limitExpr hrows

/-- Limiting a statement with the limit of a limited one changes nothing. -/
theorem applyRowLimit_again {limit : Int} {limited other : Expr}
    (h : applyRowLimit statement maximumRows = .ok (limit, limited))
    (hother : (arg other .limit).bind existingLimit = (arg limited .limit).bind existingLimit) :
    applyRowLimit other maximumRows = .ok (limit, other) := by
  obtain ⟨existing, hexisting, rfl, hrange⟩ := existingLimit_limited h
  have hrows := (applyRowLimit_ok h).1
  unfold applyRowLimit
  rw [if_neg (by omega), hother, hexisting]
  dsimp only
  rw [if_pos hrange]
  rfl

end DataChat.Validator
