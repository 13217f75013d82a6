import Mathlib.Data.List.Forall2

/-!
# Successful runs of programs that may raise

Programs that may raise are functions into `Except ε`. The lemmas here read a successful run
backwards: through a sequencing (`bind_ok_iff`), through a loop that carries a state
(`foldlM_ok_induction`, `foldlM_ok_collect`) and through a loop that collects results
(`mapM_ok_iff`).
-/

namespace DataChat.Outcome

variable {ε α β σ : Type}

theorem bind_ok_iff {x : Except ε α} {f : α → Except ε β} {b : β} :
    x >>= f = .ok b ↔ ∃ a, x = .ok a ∧ f a = .ok b := by
  cases x with
  | error e =>
    constructor
    · intro h
      cases h
    · rintro ⟨a, h, -⟩
      cases h
  | ok a =>
    constructor
    · intro h
      exact ⟨a, rfl, h⟩
    · rintro ⟨a', h, hf⟩
      cases h
      exact hf

theorem bind_error_iff {x : Except ε α} {f : α → Except ε β} {e : ε} :
    x >>= f = .error e ↔ x = .error e ∨ ∃ a, x = .ok a ∧ f a = .error e := by
  cases x with
  | error e' =>
    constructor
    · intro h
      exact .inl (congrArg _ (Except.error.inj h))
    · rintro (h | ⟨a, h, -⟩)
      · exact congrArg _ (Except.error.inj h)
      · cases h
  | ok a =>
    constructor
    · intro h
      exact .inr ⟨a, rfl, h⟩
    · rintro (h | ⟨a', h, hf⟩)
      · cases h
      · cases h
        exact hf

theorem mapError_error {ε' : Type} {x : Except ε α} {f : ε → ε'} {e : ε'}
    (h : x.mapError f = .error e) : ∃ e', e = f e' := by
  cases x with
  | error e' => exact ⟨e', (Except.error.inj h).symm⟩
  | ok a => cases h

theorem mapError_ok_iff {ε' : Type} {x : Except ε α} {f : ε → ε'} {a : α} :
    x.mapError f = .ok a ↔ x = .ok a := by
  cases x with
  | error e =>
    constructor
    · intro h
      cases h
    · intro h
      cases h
  | ok a' => exact ⟨fun h => congrArg _ (Except.ok.inj h), fun h => congrArg _ (Except.ok.inj h)⟩

theorem pure_ok_iff {a b : α} : (pure a : Except ε α) = .ok b ↔ a = b :=
  ⟨fun h => Except.ok.inj h, fun h => congrArg _ h⟩

theorem throw_ne_ok {e : ε} {b : α} : (throw e : Except ε α) ≠ .ok b := fun h => by cases h

/-- A check that raises unless its condition is false, followed by the rest. -/
theorem guard_ok_iff {c : Prop} [Decidable c] {e : ε} {rest : Except ε β} {b : β} :
    (if c then throw e else rest) = .ok b ↔ ¬ c ∧ rest = .ok b := by
  split
  · rename_i hc
    exact ⟨fun h => absurd h throw_ne_ok, fun h => absurd hc h.1⟩
  · rename_i hc
    exact ⟨fun h => ⟨hc, h⟩, fun h => h.2⟩

/-- A loop that returns has an invariant of the elements done so far and the state, when every
pass that returns keeps it. -/
theorem foldlM_ok_induction {f : σ → α → Except ε σ} {xs : List α} {s t : σ}
    (I : List α → σ → Prop) (h0 : I [] s)
    (hstep : ∀ done a rest s s', done ++ a :: rest = xs → I done s → f s a = .ok s' →
      I (done ++ [a]) s')
    (hrun : xs.foldlM f s = .ok t) : I xs t := by
  suffices h : ∀ (rest done : List α) (s : σ), done ++ rest = xs → I done s →
      rest.foldlM f s = .ok t → I xs t from h xs [] s rfl h0 hrun
  intro rest
  induction rest with
  | nil =>
    intro done s hsplit hI hrun
    rw [List.foldlM_nil, pure_ok_iff] at hrun
    subst hrun
    rwa [← hsplit, List.append_nil]
  | cons a rest ih =>
    intro done s hsplit hI hrun
    rw [List.foldlM_cons] at hrun
    obtain ⟨s', hs', hrest⟩ := bind_ok_iff.mp hrun
    exact ih (done ++ [a]) s' (by simpa using hsplit) (hstep done a rest s s' hsplit hI hs') hrest

/-- A loop that returns has added what its passes have added, one after the other. -/
theorem foldlM_ok_collect {f : σ → α → Except ε σ} {P : β → α → Prop}
    {Q : σ → List β → σ → Prop} {xs : List α} {s t : σ} (hnil : ∀ s, Q s [] s)
    (hcons : ∀ s b s' bs s'', Q s [b] s' → Q s' bs s'' → Q s (b :: bs) s'')
    (hpass : ∀ a ∈ xs, ∀ s s', f s a = .ok s' → ∃ b, P b a ∧ Q s [b] s')
    (hrun : xs.foldlM f s = .ok t) : ∃ bs, List.Forall₂ P bs xs ∧ Q s bs t := by
  induction xs generalizing s with
  | nil =>
    rw [List.foldlM_nil, pure_ok_iff] at hrun
    subst hrun
    exact ⟨[], .nil, hnil s⟩
  | cons a xs ih =>
    rw [List.foldlM_cons] at hrun
    obtain ⟨s', hs', hrest⟩ := bind_ok_iff.mp hrun
    obtain ⟨b, hb, hfirst⟩ := hpass a List.mem_cons_self s s' hs'
    obtain ⟨bs, hbs, hloop⟩ := ih (fun a' ha' => hpass a' (List.mem_cons_of_mem _ ha')) hrest
    exact ⟨b :: bs, .cons hb hbs, hcons s b s' bs t hfirst hloop⟩

/-- A loop returns when each of its passes returns from any state. -/
theorem foldlM_returns {f : σ → α → Except ε σ} {xs : List α}
    (h : ∀ a ∈ xs, ∀ s, ∃ s', f s a = .ok s') (s : σ) : ∃ t, xs.foldlM f s = .ok t := by
  induction xs generalizing s with
  | nil => exact ⟨s, rfl⟩
  | cons a xs ih =>
    obtain ⟨s', hs'⟩ := h a List.mem_cons_self s
    obtain ⟨t, ht⟩ := ih (fun b hb => h b (List.mem_cons_of_mem _ hb)) s'
    exact ⟨t, by rw [List.foldlM_cons, bind_ok_iff]; exact ⟨s', hs', ht⟩⟩

theorem mapM_ok_iff {f : α → Except ε β} {xs : List α} {ys : List β} :
    xs.mapM f = .ok ys ↔ List.Forall₂ (fun x y => f x = .ok y) xs ys := by
  induction xs generalizing ys with
  | nil =>
    rw [List.mapM_nil, pure_ok_iff, List.forall₂_nil_left_iff]
    exact eq_comm
  | cons x xs ih =>
    rw [List.mapM_cons, bind_ok_iff, List.forall₂_cons_left_iff]
    constructor
    · rintro ⟨y, hy, hrest⟩
      obtain ⟨zs, hzs, hpure⟩ := bind_ok_iff.mp hrest
      exact ⟨y, zs, hy, ih.mp hzs, (pure_ok_iff.mp hpure).symm⟩
    · rintro ⟨y, zs, hy, hzs, rfl⟩
      exact ⟨y, hy, bind_ok_iff.mpr ⟨zs, ih.mpr hzs, rfl⟩⟩

/-- A successful collecting loop has a result for each element, -/
theorem mapM_ok_left {f : α → Except ε β} {xs : List α} {ys : List β} (h : xs.mapM f = .ok ys)
    {x : α} (hx : x ∈ xs) : ∃ y ∈ ys, f x = .ok y := by
  have hall := mapM_ok_iff.mp h
  obtain ⟨i, hi, rfl⟩ := List.getElem_of_mem hx
  have hj : i < ys.length := hall.length_eq ▸ hi
  exact ⟨ys[i], List.getElem_mem hj, (List.forall₂_iff_get.mp hall).2 i hi hj⟩

/-- and nothing but such results. -/
theorem mapM_ok_right {f : α → Except ε β} {xs : List α} {ys : List β} (h : xs.mapM f = .ok ys)
    {y : β} (hy : y ∈ ys) : ∃ x ∈ xs, f x = .ok y := by
  have hall := mapM_ok_iff.mp h
  obtain ⟨i, hi, rfl⟩ := List.getElem_of_mem hy
  have hj : i < xs.length := hall.length_eq ▸ hi
  exact ⟨xs[i], List.getElem_mem hj, (List.forall₂_iff_get.mp hall).2 i hj hi⟩

/-- A collecting loop returns when each of its passes does. -/
theorem mapM_returns_iff {f : α → Except ε β} {xs : List α} :
    (∃ ys, xs.mapM f = .ok ys) ↔ ∀ x ∈ xs, ∃ y, f x = .ok y := by
  constructor
  · rintro ⟨ys, h⟩ x hx
    obtain ⟨y, -, hy⟩ := mapM_ok_left h hx
    exact ⟨y, hy⟩
  · intro h
    induction xs with
    | nil => exact ⟨[], rfl⟩
    | cons x xs ih =>
      obtain ⟨y, hy⟩ := h x List.mem_cons_self
      obtain ⟨ys, hys⟩ := ih (fun x' hx' => h x' (List.mem_cons_of_mem _ hx'))
      exact ⟨y :: ys, mapM_ok_iff.mpr (.cons hy (mapM_ok_iff.mp hys))⟩

end DataChat.Outcome
