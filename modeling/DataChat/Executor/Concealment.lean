import DataChat.Executor.Rows
import Mathlib.Data.List.Infix

/-!
# What a mask leaves visible

A masked text contains stars, and the original does not, so the original can only occur between
two stars. `partialText` and `emailText` leave less than the original there, unless the original
begins with `@`: its local part is empty, and `emailText` writes stars before all of it.

* `conceals_iff`: a mask shows the value exactly when it is the mask for e-mail addresses and the
  text of the value begins with `@`.
* `handle_shown`: a value that is shown.
-/

namespace DataChat.Executor

/-! ## Stars -/

variable {part : List Char}

/-- A text without stars is not found among stars. -/
theorem infix_stars_append_iff (hne : part ≠ []) (hstar : '*' ∉ part) (n : Nat)
    (rest : List Char) : part <:+: stars n ++ rest ↔ part <:+: rest := by
  induction n with
  | zero => rfl
  | succ n ih =>
    have hnil : ¬ part <:+: ([] : List Char) := by simpa using hne
    have hstep := infix_append_cons_iff hstar [] (stars n ++ rest)
    rw [List.nil_append, or_iff_right hnil, ih] at hstep
    exact hstep

theorem not_infix_stars (hne : part ≠ []) (hstar : '*' ∉ part) (n : Nat) :
    ¬ part <:+: stars n := by
  have h := infix_stars_append_iff hne hstar n []
  rw [List.append_nil] at h
  rw [h]
  simpa using hne

/-- A text without stars is found on one side of some stars only. -/
theorem infix_around_stars_iff (hne : part ≠ []) (hstar : '*' ∉ part) (n : Nat)
    (front back : List Char) :
    part <:+: front ++ stars (n + 1) ++ back ↔ part <:+: front ∨ part <:+: back := by
  have hsplit : front ++ stars (n + 1) ++ back = front ++ '*' :: (stars n ++ back) := by
    simp [stars, List.replicate_succ]
  rw [hsplit, infix_append_cons_iff hstar, infix_stars_append_iff hne hstar]

/-! ## The masks -/

theorem partialText_conceals {text : String} (hne : text.toList ≠ [])
    (hstar : '*' ∉ text.toList) : ¬ text.toList <:+: (partialText text).toList := by
  dsimp only [partialText]
  split
  · rw [String.toList_ofList]
    exact not_infix_stars hne hstar _
  · rename_i hlong
    rw [String.toList_ofList]
    obtain ⟨n, hn⟩ : ∃ n, text.toList.length - 4 = n + 1 := ⟨text.toList.length - 5, by omega⟩
    rw [hn, infix_around_stars_iff hne hstar]
    rintro (h | h)
    · have hlength := h.length_le
      rw [List.length_take] at hlength
      omega
    · have hlength := h.length_le
      rw [List.length_drop] at hlength
      omega

/-- The text around its first `@`. -/
theorem split_at_sign {cs : List Char} (h : '@' ∈ cs) :
    cs = cs.takeWhile (fun c => c ≠ '@') ++
      '@' :: (cs.dropWhile (fun c => c ≠ '@')).drop 1 := by
  induction cs with
  | nil => exact absurd h List.not_mem_nil
  | cons c cs ih =>
    by_cases hc : c = '@'
    · simp [hc]
    · have hrest : '@' ∈ cs := by
        rcases List.mem_cons.mp h with h | h
        · exact absurd h.symm hc
        · exact h
      rw [List.takeWhile_cons_of_pos (by simpa using hc),
        List.dropWhile_cons_of_pos (by simpa using hc),
        List.cons_append, ← ih hrest]

theorem emailText_conceals_iff {text : String} (hne : text.toList ≠ [])
    (hstar : '*' ∉ text.toList) :
    ¬ text.toList <:+: (emailText text).toList ↔ text.toList.head? ≠ some '@' := by
  dsimp only [emailText]
  split
  · rename_i hnone
    refine iff_of_true (partialText_conceals hne hstar) (fun hhead => hnone ?_)
    exact List.mem_of_head? hhead
  · rename_i hsome
    have hsplit := split_at_sign (not_not.mp hsome)
    rw [String.toList_ofList]
    have hlocal : ∀ c ∈ text.toList.takeWhile (fun c => c ≠ '@'), c ≠ '@' := by
      intro c hc
      simpa using List.mem_takeWhile_imp hc
    generalize text.toList.takeWhile (fun c => c ≠ '@') = localPart at hsplit hlocal ⊢
    generalize (text.toList.dropWhile (fun c => c ≠ '@')).drop 1 = domain at hsplit ⊢
    -- behind the stars there is room for the domain only
    have hshort : ∀ n c rest, localPart = c :: rest →
        (¬ text.toList <:+: (c :: stars (n + 1)) ++ '@' :: domain ↔
          text.toList.head? ≠ some '@') := by
      intro n c rest hcons
      have hhead : text.toList.head? ≠ some '@' := by
        rw [hsplit, hcons]
        simpa using hlocal c (by rw [hcons]; exact List.mem_cons_self)
      refine iff_of_true ?_ hhead
      have hone := infix_around_stars_iff hne hstar n [c] ('@' :: domain)
      rw [List.singleton_append] at hone
      rw [hone, hsplit, hcons]
      rintro (h | h)
      · have hlength := h.length_le
        simp only [List.length_append, List.length_cons, List.length_nil] at hlength
        omega
      · have hlength := h.length_le
        simp only [List.length_append, List.length_cons] at hlength
        omega
    match localPart, hsplit, hshort with
    | [], hsplit, _ =>
      rw [List.nil_append] at hsplit
      rw [infix_stars_append_iff hne hstar, hsplit]
      simp
    | [c], _, hshort => exact hshort 2 c [] rfl
    | c :: d :: rest, _, hshort =>
      obtain ⟨n, hn⟩ : ∃ n, max (d :: rest).length 3 = n + 1 :=
        ⟨max (d :: rest).length 3 - 1, by omega⟩
      have h := hshort n c (d :: rest) rfl
      rw [← hn] at h
      exact h

/-! ## The value -/

/-- The text of the value does not occur in the masked value. -/
def Conceals (rt : PyRuntime) (maskType : String) (value : PyValue) : Prop :=
  ∀ masked, applyMask rt value (some maskType) = .ok masked →
    ¬ (pyStr rt value).toList <:+: (pyStr rt masked).toList

theorem conceals_maskWith (mask : String → String) {rt : PyRuntime} {maskType : String}
    {value : PyValue} (hmask : maskFunction rt maskType = some (maskWith rt mask))
    (hvalue : value ≠ .none) : Conceals rt maskType value ↔
      ¬ (pyStr rt value).toList <:+: (mask (pyStr rt value)).toList := by
  have happly : applyMask rt value (some maskType) = .ok (.str (mask (pyStr rt value))) := by
    unfold applyMask
    simp only [hmask]
    unfold maskWith
    split
    · exact absurd rfl hvalue
    · rfl
  unfold Conceals
  rw [happly]
  constructor
  · intro h
    exact h _ rfl
  · intro h masked hmasked
    rw [← Except.ok.inj hmasked]
    exact h

/-- A mask shows the value exactly when it is the mask for e-mail addresses and the text of the
value begins with `@`. -/
theorem conceals_iff (rt : PyRuntime) (maskType : String)
    (hmask : maskType ∈ ["full", "partial", "email"]) (value : PyValue) (hvalue : value ≠ .none)
    (hne : (pyStr rt value).toList ≠ []) (hstar : '*' ∉ (pyStr rt value).toList) :
    Conceals rt maskType value ↔
      ¬ (maskType = "email" ∧ (pyStr rt value).toList.head? = some '@') := by
  simp only [List.mem_cons, List.not_mem_nil, or_false] at hmask
  rcases hmask with rfl | rfl | rfl
  · rw [conceals_maskWith (fun _ => "********") rfl hvalue]
    refine iff_of_true (not_infix_stars hne hstar 8) (fun h => ?_)
    exact absurd h.1 (by decide)
  · rw [conceals_maskWith partialText rfl hvalue]
    refine iff_of_true (partialText_conceals hne hstar) (fun h => ?_)
    exact absurd h.1 (by decide)
  · rw [conceals_maskWith emailText rfl hvalue, emailText_conceals_iff hne hstar]
    simp

theorem address_concealed : Conceals plainRuntime "email" (.str "a@b") :=
  (conceals_iff plainRuntime "email" (by decide) (.str "a@b") (by simp) (by decide)
    (by decide)).mpr (by decide)

/-- A handle has an empty local part. -/
theorem handle_shown :
    applyMask plainRuntime (.str "@ann") (some "email") = .ok (.str "***@ann") ∧
      ¬ Conceals plainRuntime "email" (.str "@ann") := by
  have hmasked : applyMask plainRuntime (.str "@ann") (some "email") = .ok (.str "***@ann") := rfl
  refine ⟨hmasked, fun h => h _ hmasked ?_⟩
  exact ⟨"***".toList, [], by decide⟩

end DataChat.Executor
