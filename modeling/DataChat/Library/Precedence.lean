import Mathlib.Data.List.Basic

/-!
# Operators with precedence

Expressions of binary operators, of signs that stand before their operand, and of explicit
parentheses. They are printed without adding parentheses, and parsed with a stack of pending
operators: a binary operator that associates to the left first completes what binds at least as
tightly as it does.

Printing and parsing is the identity on the expressions whose parentheses are where the levels of
the operators require them (`Tight`).

* `parse_print`: a tight expression is read back.
* `tight_of_parse`: what is parsed is tight.
* `closed_of_tight`: an expression whose root binds tightly enough stays whole before an operator.
-/

namespace DataChat.Precedence

variable {β ν α : Type}

/-- The levels of the binary operators and of the signs. A higher level binds tighter. -/
structure Levels (β ν : Type) where
  binary : β → Nat
  sign : ν → Nat

inductive Tree (β ν α : Type)
  | operand (a : α)
  | paren (t : Tree β ν α)
  | sign (op : ν) (t : Tree β ν α)
  | binary (op : β) (l r : Tree β ν α)
deriving DecidableEq

inductive Token (β ν α : Type)
  | operand (a : α)
  | sign (op : ν)
  | binary (op : β)
  | opening
  | closing
deriving DecidableEq

def print : Tree β ν α → List (Token β ν α)
  | .operand a => [.operand a]
  | .paren t => .opening :: (print t ++ [.closing])
  | .sign op t => .sign op :: print t
  | .binary op l r => print l ++ .binary op :: print r

/-! ## Parsing -/

/-- What waits for an expression: an operator with its left operand, a sign, or an opening
parenthesis. -/
inductive Pending (β ν α : Type)
  | binary (op : β) (l : Tree β ν α)
  | sign (op : ν)
  | opening

variable (levels : Levels β ν)

/-- Completes the pending operators of this level at least, the latest first. -/
def complete (n : Nat) : List (Pending β ν α) → Tree β ν α → List (Pending β ν α) × Tree β ν α
  | .binary op l :: stack, t =>
    if n ≤ levels.binary op then complete n stack (.binary op l t) else (.binary op l :: stack, t)
  | .sign op :: stack, t =>
    if n ≤ levels.sign op then complete n stack (.sign op t) else (.sign op :: stack, t)
  | stack, t => (stack, t)

/-- Parses from a stack, and from the operand that has just been read if there is one. -/
def parseFrom : List (Pending β ν α) → Option (Tree β ν α) → List (Token β ν α) →
    Option (Tree β ν α)
  | stack, none, .operand a :: tokens => parseFrom stack (some (.operand a)) tokens
  | stack, none, .sign op :: tokens => parseFrom (.sign op :: stack) none tokens
  | stack, none, .opening :: tokens => parseFrom (.opening :: stack) none tokens
  | stack, some t, .binary op :: tokens =>
    let completed := complete levels (levels.binary op) stack t
    parseFrom (.binary op completed.2 :: completed.1) none tokens
  | stack, some t, .closing :: tokens =>
    match complete levels 0 stack t with
    | (.opening :: stack', t') => parseFrom stack' (some (.paren t')) tokens
    | _ => none
  | stack, some t, [] =>
    match complete levels 0 stack t with
    | ([], t') => some t'
    | _ => none
  | _, _, _ => none

def parse (tokens : List (Token β ν α)) : Option (Tree β ν α) := parseFrom levels [] none tokens

/-! ## Where parentheses are required -/

/-- A binary operator at the root binds tighter than this level. -/
def Above (n : Nat) : Tree β ν α → Prop
  | .binary op _ _ => n < levels.binary op
  | _ => True

/-- The operators whose last operand ends the expression bind at this level at least. -/
def Closed (n : Nat) : Tree β ν α → Prop
  | .binary op _ r => n ≤ levels.binary op ∧ Closed n r
  | .sign op t => n ≤ levels.sign op ∧ Closed n t
  | _ => True

/-- The parentheses are where the levels require them. -/
def Tight : Tree β ν α → Prop
  | .operand _ => True
  | .paren t => Tight t
  | .sign op t => Tight t ∧ Above levels (levels.sign op) t
  | .binary op l r =>
    Tight l ∧ Tight r ∧ Closed levels (levels.binary op) l ∧ Above levels (levels.binary op) r

variable {levels}

/-- An expression whose root is above a level stays whole before an operator of that level, unless
a sign binds less tightly. -/
theorem closed_of_tight {n : Nat} (hsign : ∀ op, n ≤ levels.sign op) {t : Tree β ν α}
    (htight : Tight levels t) (habove : Above levels n t) : Closed levels n t := by
  induction t with
  | operand a => trivial
  | paren t => trivial
  | sign op t ih =>
    refine ⟨hsign op, ih htight.1 ?_⟩
    have habove' := htight.2
    cases t with
    | binary op' l r => exact Nat.lt_of_le_of_lt (hsign op) habove'
    | _ => trivial
  | binary op l r _ ih =>
    obtain ⟨-, hr, -, habove'⟩ := htight
    have hn : n < levels.binary op := habove
    refine ⟨by omega, ih hr ?_⟩
    cases r with
    | binary op' l' r' => exact Nat.lt_trans hn habove'
    | _ => trivial

/-! ## Reading back -/

/-- The operators that are pending once an expression has been read, -/
def edge : Tree β ν α → List (Pending β ν α)
  | .binary op l r => edge r ++ [.binary op l]
  | .sign op t => edge t ++ [.sign op]
  | _ => []

/-- and its last operand. -/
def tip : Tree β ν α → Tree β ν α
  | .binary _ _ r => tip r
  | .sign _ t => tip t
  | t => t

theorem complete_edge {n : Nat} {t : Tree β ν α} (h : Closed levels n t)
    (stack : List (Pending β ν α)) :
    complete levels n (edge t ++ stack) (tip t) = complete levels n stack t := by
  induction t generalizing stack with
  | operand a => rfl
  | paren t => rfl
  | sign op t ih =>
    simp only [edge, tip, List.append_assoc, List.cons_append, List.nil_append]
    rw [ih h.2, complete, if_pos h.1]
  | binary op l r _ ih =>
    simp only [edge, tip, List.append_assoc, List.cons_append, List.nil_append]
    rw [ih h.2, complete, if_pos h.1]

theorem closed_zero (t : Tree β ν α) : Closed levels 0 t := by
  induction t with
  | operand a => trivial
  | paren t => trivial
  | sign op t ih => exact ⟨Nat.zero_le _, ih⟩
  | binary op l r _ ih => exact ⟨Nat.zero_le _, ih⟩

/-- The latest pending operator binds less tightly than this level. -/
def Below (levels : Levels β ν) (n : Nat) : List (Pending β ν α) → Prop
  | .binary op _ :: _ => levels.binary op < n
  | .sign op :: _ => levels.sign op < n
  | _ => True

theorem complete_below {n : Nat} {stack : List (Pending β ν α)} (h : Below levels n stack)
    (t : Tree β ν α) : complete levels n stack t = (stack, t) := by
  cases stack with
  | nil => rfl
  | cons pending stack =>
    cases pending with
    | binary op l => exact if_neg (Nat.not_le.mpr h)
    | sign op => exact if_neg (Nat.not_le.mpr h)
    | opening => rfl

/-- A binary operator at the root of the expression binds tighter than the latest pending one. -/
def Fits (levels : Levels β ν) (stack : List (Pending β ν α)) : Tree β ν α → Prop
  | .binary op _ _ => Below levels (levels.binary op) stack
  | _ => True

/-- The tokens of a tight expression leave its operators pending. -/
theorem parseFrom_print {t : Tree β ν α} (htight : Tight levels t)
    {stack : List (Pending β ν α)} (hfits : Fits levels stack t) (tokens : List (Token β ν α)) :
    parseFrom levels stack none (print t ++ tokens) =
      parseFrom levels (edge t ++ stack) (some (tip t)) tokens := by
  induction t generalizing stack tokens with
  | operand a => rfl
  | paren t ih =>
    have hinner : Fits levels (.opening :: stack) t := by
      cases t <;> trivial
    simp only [print, List.cons_append, List.append_assoc, List.nil_append]
    rw [parseFrom, ih htight hinner, parseFrom, complete_edge (closed_zero t)]
    rfl
  | sign op t ih =>
    have hinner : Fits levels (.sign op :: stack) t := by
      cases t with
      | binary op' l r => exact htight.2
      | _ => trivial
    simp only [print, edge, tip, List.cons_append, List.append_assoc, List.nil_append]
    rw [parseFrom, ih htight.1 hinner]
  | binary op l r ihl ihr =>
    obtain ⟨hl, hr, hclosed, habove⟩ := htight
    have hbelow : Below levels (levels.binary op) stack := hfits
    have hleft : Fits levels stack l := by
      cases l with
      | binary op' l' r' =>
        have hle : levels.binary op ≤ levels.binary op' := hclosed.1
        cases stack with
        | nil => trivial
        | cons pending stack =>
          cases pending with
          | binary op'' l'' => exact Nat.lt_of_lt_of_le hbelow hle
          | sign op'' => exact Nat.lt_of_lt_of_le hbelow hle
          | opening => trivial
      | _ => trivial
    have hright : Fits levels (.binary op l :: stack) r := by
      cases r with
      | binary op' l' r' => exact habove
      | _ => trivial
    simp only [print, edge, tip, List.append_assoc, List.cons_append, List.nil_append]
    rw [ihl hl hleft, parseFrom, complete_edge hclosed, complete_below hbelow, ihr hr hright]

/-- A tight expression is read back. -/
theorem parse_print {t : Tree β ν α} (h : Tight levels t) : parse levels (print t) = some t := by
  have hfits : Fits levels [] t := by
    cases t <;> trivial
  have hread := parseFrom_print h hfits []
  unfold parse
  rw [List.append_nil] at hread
  rw [hread, parseFrom, complete_edge (closed_zero t)]
  rfl

/-! ## What is parsed -/

/-- The left operands that are pending are tight, and each operator binds tighter than the one that
was pending before it. -/
def Ready (levels : Levels β ν) : List (Pending β ν α) → Prop
  | [] => True
  | .binary op l :: stack =>
    Tight levels l ∧ Closed levels (levels.binary op) l ∧ Below levels (levels.binary op) stack ∧
      Ready levels stack
  | _ :: stack => Ready levels stack

theorem complete_ready {n : Nat} {stack : List (Pending β ν α)} {t : Tree β ν α}
    (hready : Ready levels stack) (htight : Tight levels t) (hclosed : Closed levels n t)
    (hfits : Fits levels stack t) :
    Ready levels (complete levels n stack t).1 ∧ Below levels n (complete levels n stack t).1 ∧
      Tight levels (complete levels n stack t).2 ∧
      Closed levels n (complete levels n stack t).2 := by
  induction stack generalizing t with
  | nil => exact ⟨trivial, trivial, htight, hclosed⟩
  | cons pending stack ih =>
    cases pending with
    | opening => exact ⟨hready, trivial, htight, hclosed⟩
    | binary op l =>
      rw [complete]
      split
      · rename_i hn
        obtain ⟨hl, hlclosed, hbelow, hrest⟩ := hready
        have habove : Above levels (levels.binary op) t := by
          cases t with
          | binary op' l' r' => exact hfits
          | _ => trivial
        exact ih hrest ⟨hl, htight, hlclosed, habove⟩ ⟨hn, hclosed⟩ hbelow
      · rename_i hn
        exact ⟨hready, Nat.lt_of_not_le hn, htight, hclosed⟩
    | sign op =>
      rw [complete]
      split
      · rename_i hn
        have habove : Above levels (levels.sign op) t := by
          cases t with
          | binary op' l' r' => exact hfits
          | _ => trivial
        exact ih hready ⟨htight, habove⟩ ⟨hn, hclosed⟩ trivial
      · rename_i hn
        exact ⟨hready, Nat.lt_of_not_le hn, htight, hclosed⟩

/-- No operator is left open: an operand or an expression in parentheses. -/
def Whole : Tree β ν α → Prop
  | .operand _ | .paren _ => True
  | _ => False

theorem closed_of_whole {n : Nat} {t : Tree β ν α} (h : Whole t) : Closed levels n t := by
  cases t with
  | operand a => trivial
  | paren t => trivial
  | sign op t => exact h.elim
  | binary op l r => exact h.elim

theorem fits_of_whole {stack : List (Pending β ν α)} {t : Tree β ν α} (h : Whole t) :
    Fits levels stack t := by
  cases t with
  | operand a => trivial
  | paren t => trivial
  | sign op t => trivial
  | binary op l r => exact h.elim

theorem tight_of_parseFrom {tokens : List (Token β ν α)} {stack : List (Pending β ν α)}
    {current : Option (Tree β ν α)} {result : Tree β ν α} (hready : Ready levels stack)
    (hcurrent : ∀ t ∈ current, Whole t ∧ Tight levels t)
    (h : parseFrom levels stack current tokens = some result) : Tight levels result := by
  induction tokens generalizing stack current with
  | nil =>
    cases current with
    | none => cases h
    | some t =>
      obtain ⟨hwhole, htight⟩ := hcurrent t rfl
      have hcomplete := complete_ready hready htight (closed_zero t) (fits_of_whole hwhole)
      rw [parseFrom] at h
      split at h
      · rename_i t' heq
        rw [heq] at hcomplete
        rw [← Option.some.inj h]
        exact hcomplete.2.2.1
      · cases h
  | cons token tokens ih =>
    cases current with
    | none =>
      cases token with
      | operand a =>
        refine ih hready (fun t ht => ?_) h
        rw [← Option.some.inj ht]
        exact ⟨trivial, trivial⟩
      | sign op =>
        have hpushed : Ready levels (.sign op :: stack) := hready
        exact ih hpushed (fun t ht => by cases ht) h
      | opening =>
        have hpushed : Ready levels (.opening :: stack) := hready
        exact ih hpushed (fun t ht => by cases ht) h
      | binary op => cases h
      | closing => cases h
    | some t =>
      obtain ⟨hwhole, htight⟩ := hcurrent t rfl
      cases token with
      | binary op =>
        let completed := complete levels (levels.binary op) stack t
        obtain ⟨hready', hbelow, htight', hclosed⟩ :=
          complete_ready (n := levels.binary op) hready htight (closed_of_whole hwhole)
            (fits_of_whole hwhole)
        have hpushed : Ready levels (.binary op completed.2 :: completed.1) :=
          ⟨htight', hclosed, hbelow, hready'⟩
        exact ih hpushed (fun t ht => by cases ht) h
      | closing =>
        have hcomplete := complete_ready hready htight (closed_zero t) (fits_of_whole hwhole)
        rw [parseFrom] at h
        split at h
        · rename_i stack' t' heq
          rw [heq] at hcomplete
          have hrest : Ready levels stack' := hcomplete.1
          refine ih hrest (fun t ht => ?_) h
          rw [← Option.some.inj ht]
          exact ⟨trivial, hcomplete.2.2.1⟩
        · cases h
      | operand a => cases h
      | sign op => cases h
      | opening => cases h

/-- What is parsed is tight. -/
theorem tight_of_parse {tokens : List (Token β ν α)} {t : Tree β ν α}
    (h : parse levels tokens = some t) : Tight levels t := by
  have hready : Ready levels ([] : List (Pending β ν α)) := trivial
  exact tight_of_parseFrom hready (fun t ht => by cases ht) h

end DataChat.Precedence
