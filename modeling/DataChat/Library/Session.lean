import Mathlib.Tactic.TypeStar

/-!
# Sessions of a database

A program runs in a session: it reads and changes what its own transaction sees, and a commit
makes that what is stored. A program that raises keeps the commits it has made. When the session
is closed, what is not committed is lost.

* `exec_bind`, `exec_tryCatch`: how a sequencing and a handler run.
* `exec_bind_ok`: a sequencing that returns, read backwards.
* `onlyRaises_bind`, `onlyRaises_foldlM`: the exceptions that a program may raise.
* `preserves_bind`, `preserves_tryCatch`: what a program leaves as it is, whatever comes of it.
* `follows_bind`, `follows_foldlM`: a program that does in its transaction, statement by statement,
  what a function does at once.
-/

namespace DataChat.Transactions

structure Session (δ : Type) where
  committed : δ
  current : δ

abbrev Program (ε δ α : Type) := ExceptT ε (StateM (Session δ)) α

variable {ε δ α β : Type}

def exec (program : Program ε δ α) (session : Session δ) : Except ε α × Session δ :=
  Id.run (StateT.run (ExceptT.run program) session)

/-- What the transaction sees. -/
def read : Program ε δ δ := do
  let session ← get
  pure session.current

/-- A statement that changes what the transaction sees. -/
def write (f : δ → δ) : Program ε δ Unit :=
  modify (fun session => { session with current := f session.current })

def commit : Program ε δ Unit :=
  modify (fun session => { session with committed := session.current })

def rollback : Program ε δ Unit :=
  modify (fun session => { session with current := session.committed })

/-- A computation that does not touch the data. -/
def returning : Except ε α → Program ε δ α
  | .ok a => pure a
  | .error e => throw e

@[simp]
theorem exec_returning (outcome : Except ε α) (session : Session δ) :
    exec (returning outcome : Program ε δ α) session = (outcome, session) := by
  cases outcome <;> rfl

@[simp]
theorem exec_pure (a : α) (session : Session δ) :
    exec (pure a : Program ε δ α) session = (.ok a, session) := rfl

@[simp]
theorem exec_throw (e : ε) (session : Session δ) :
    exec (throw e : Program ε δ α) session = (.error e, session) := rfl

@[simp]
theorem exec_read (session : Session δ) :
    exec (read : Program ε δ δ) session = (.ok session.current, session) := rfl

@[simp]
theorem exec_write (f : δ → δ) (session : Session δ) :
    exec (write f : Program ε δ Unit) session =
      (.ok (), { session with current := f session.current }) := rfl

@[simp]
theorem exec_commit (session : Session δ) :
    exec (commit : Program ε δ Unit) session =
      (.ok (), { session with committed := session.current }) := rfl

@[simp]
theorem exec_rollback (session : Session δ) :
    exec (rollback : Program ε δ Unit) session =
      (.ok (), { session with current := session.committed }) := rfl

theorem exec_bind (x : Program ε δ α) (f : α → Program ε δ β) (session : Session δ) :
    exec (x >>= f) session =
      match exec x session with
      | (.ok a, session') => exec (f a) session'
      | (.error e, session') => (.error e, session') := by
  show Id.run (StateT.run (ExceptT.run (x >>= f)) session) = _
  rw [ExceptT.run_bind, StateT.run_bind]
  show Id.run (StateT.run (match (exec x session).1 with
    | .ok a => ExceptT.run (f a)
    | .error e => pure (.error e)) (exec x session).2) = _
  rcases exec x session with ⟨e | a, session'⟩
  · rfl
  · rfl

/-- A sequencing that returns, read backwards. -/
theorem exec_bind_ok {x : Program ε δ α} {f : α → Program ε δ β} {session session' : Session δ}
    {b : β} (h : exec (x >>= f) session = (.ok b, session')) :
    ∃ a middle, exec x session = (.ok a, middle) ∧ exec (f a) middle = (.ok b, session') := by
  rw [exec_bind] at h
  rcases hx : exec x session with ⟨e | a, middle⟩
  · rw [hx] at h
    cases h
  · rw [hx] at h
    exact ⟨a, middle, rfl, h⟩

theorem exec_tryCatch (x : Program ε δ α) (handler : ε → Program ε δ α) (session : Session δ) :
    exec (tryCatch x handler) session =
      match exec x session with
      | (.ok a, session') => (.ok a, session')
      | (.error e, session') => exec (handler e) session' := by
  show Id.run (StateT.run (ExceptT.run (tryCatch x handler)) session) = _
  rw [ExceptT.run_tryCatch, StateT.run_bind]
  show Id.run (StateT.run (match (exec x session).1 with
    | .ok a => pure (.ok a)
    | .error e => ExceptT.run (handler e)) (exec x session).2) = _
  rcases exec x session with ⟨e | a, session'⟩
  · rfl
  · rfl

/-! ## The exceptions of a program -/

/-- Every exception that the program raises has the property. -/
def OnlyRaises (P : ε → Prop) (program : Program ε δ α) : Prop :=
  ∀ session e session', exec program session = (.error e, session') → P e

section

variable {P : ε → Prop}

theorem onlyRaises_pure (a : α) : OnlyRaises P (pure a : Program ε δ α) := by
  intro session e session' h
  cases h

theorem onlyRaises_throw {e : ε} (h : P e) : OnlyRaises P (throw e : Program ε δ α) := by
  intro session e' session' hrun
  obtain ⟨he, -⟩ := Prod.mk.inj hrun
  rw [← Except.error.inj he]
  exact h

theorem onlyRaises_write (f : δ → δ) : OnlyRaises P (write f : Program ε δ Unit) := by
  intro session e session' h
  cases h

theorem onlyRaises_read : OnlyRaises P (read : Program ε δ δ) := by
  intro session e session' h
  cases h

theorem onlyRaises_commit : OnlyRaises P (commit : Program ε δ Unit) := by
  intro session e session' h
  cases h

theorem onlyRaises_bind {x : Program ε δ α} {k : α → Program ε δ β} (hx : OnlyRaises P x)
    (hk : ∀ a, OnlyRaises P (k a)) : OnlyRaises P (x >>= k) := by
  intro session e session' h
  rw [exec_bind] at h
  rcases hrun : exec x session with ⟨e' | a, middle⟩
  · rw [hrun] at h
    obtain ⟨he, -⟩ := Prod.mk.inj h
    rw [← Except.error.inj he]
    exact hx session e' middle hrun
  · rw [hrun] at h
    exact hk a middle e session' h

theorem onlyRaises_foldlM {σ : Type} {pass : σ → α → Program ε δ σ}
    (h : ∀ s a, OnlyRaises P (pass s a)) (xs : List α) (s : σ) :
    OnlyRaises P (xs.foldlM pass s) := by
  induction xs generalizing s with
  | nil => exact onlyRaises_pure s
  | cons a xs ih =>
    rw [List.foldlM_cons]
    exact onlyRaises_bind (h s a) ih

end

/-! ## What a program preserves -/

/-- What the program commits and what its transaction sees keep the property, whether it returns or
raises. -/
def Preserves (P : δ → Prop) (program : Program ε δ α) : Prop :=
  ∀ session, P session.committed → P session.current →
    P (exec program session).2.committed ∧ P (exec program session).2.current

section

variable {P : δ → Prop}

theorem preserves_pure (a : α) : Preserves P (pure a : Program ε δ α) :=
  fun _ hcommitted hcurrent => ⟨hcommitted, hcurrent⟩

theorem preserves_throw (e : ε) : Preserves P (throw e : Program ε δ α) :=
  fun _ hcommitted hcurrent => ⟨hcommitted, hcurrent⟩

theorem preserves_read : Preserves P (read : Program ε δ δ) :=
  fun _ hcommitted hcurrent => ⟨hcommitted, hcurrent⟩

theorem preserves_commit : Preserves P (commit : Program ε δ Unit) :=
  fun _ _ hcurrent => ⟨hcurrent, hcurrent⟩

theorem preserves_rollback : Preserves P (rollback : Program ε δ Unit) :=
  fun _ hcommitted _ => ⟨hcommitted, hcommitted⟩

theorem preserves_write {f : δ → δ} (h : ∀ d, P d → P (f d)) :
    Preserves P (write f : Program ε δ Unit) :=
  fun session hcommitted hcurrent => ⟨hcommitted, h session.current hcurrent⟩

theorem preserves_bind {x : Program ε δ α} {k : α → Program ε δ β} (hx : Preserves P x)
    (hk : ∀ a, Preserves P (k a)) : Preserves P (x >>= k) := by
  intro session hcommitted hcurrent
  obtain ⟨hcommitted', hcurrent'⟩ := hx session hcommitted hcurrent
  rw [exec_bind]
  rcases hrun : exec x session with ⟨e | a, middle⟩
  · rw [hrun] at hcommitted' hcurrent'
    exact ⟨hcommitted', hcurrent'⟩
  · rw [hrun] at hcommitted' hcurrent'
    exact hk a middle hcommitted' hcurrent'

theorem preserves_tryCatch {x : Program ε δ α} {handler : ε → Program ε δ α}
    (hx : Preserves P x) (hhandler : ∀ e, Preserves P (handler e)) :
    Preserves P (tryCatch x handler) := by
  intro session hcommitted hcurrent
  obtain ⟨hcommitted', hcurrent'⟩ := hx session hcommitted hcurrent
  rw [exec_tryCatch]
  rcases hrun : exec x session with ⟨e | a, middle⟩
  · rw [hrun] at hcommitted' hcurrent'
    exact hhandler e middle hcommitted' hcurrent'
  · rw [hrun] at hcommitted' hcurrent'
    exact ⟨hcommitted', hcurrent'⟩

theorem preserves_mapM {k : α → Program ε δ β} {as : List α}
    (h : ∀ a ∈ as, Preserves P (k a)) : Preserves P (as.mapM k) := by
  induction as with
  | nil =>
    rw [List.mapM_nil]
    exact preserves_pure []
  | cons a as ih =>
    rw [List.mapM_cons]
    refine preserves_bind (h a List.mem_cons_self) (fun b => ?_)
    refine preserves_bind (ih (fun c hc => h c (List.mem_cons_of_mem _ hc))) (fun bs => ?_)
    exact preserves_pure (b :: bs)

end

/-! ## Programs within one transaction -/

/-- The program commits nothing. When it returns, it has done what the function does that has this
outcome; when it raises and nothing has disturbed it, the function raises the same. -/
structure Follows (undisturbed : Prop) (program : Program ε δ α) (session : Session δ)
    (outcome : Except ε (α × δ)) : Prop where
  returned : ∀ a session', exec program session = (.ok a, session') →
    session'.committed = session.committed ∧ outcome = .ok (a, session'.current)
  raised : ∀ e session', exec program session = (.error e, session') →
    session'.committed = session.committed ∧ (undisturbed → outcome = .error e)

variable {undisturbed : Prop} {session : Session δ}

theorem follows_pure (a : α) :
    Follows undisturbed (pure a : Program ε δ α) session (.ok (a, session.current)) := by
  constructor
  · intro b session' h
    obtain ⟨hb, rfl⟩ := Prod.mk.inj h
    obtain rfl := Except.ok.inj hb
    exact ⟨rfl, rfl⟩
  · intro e session' h
    cases h

theorem follows_bind {τ : Type} {x : Program ε δ α} {k : α → Program ε δ β}
    {outcome : Except ε τ} {split : τ → α × δ} {g : τ → Except ε (β × δ)}
    (hx : Follows undisturbed x session (split <$> outcome))
    (hk : ∀ t, outcome = .ok t →
      Follows undisturbed (k (split t).1) ⟨session.committed, (split t).2⟩ (g t)) :
    Follows undisturbed (x >>= k) session (outcome >>= g) := by
  have hmiddle : ∀ a middle, exec x session = (.ok a, middle) →
      Follows undisturbed (k a) middle (outcome >>= g) := by
    intro a middle hrun
    obtain ⟨hcommitted, hsplit⟩ := hx.returned a middle hrun
    cases outcome with
    | error e => cases hsplit
    | ok t =>
      have hpair : split t = (a, middle.current) := Except.ok.inj hsplit
      have hrest := hk t rfl
      rw [hpair, ← hcommitted] at hrest
      exact hrest
  constructor
  · intro b session' h
    obtain ⟨a, middle, hrun, hrest⟩ := exec_bind_ok h
    obtain ⟨hcommitted, houtcome⟩ := (hmiddle a middle hrun).returned b session' hrest
    exact ⟨hcommitted.trans (hx.returned a middle hrun).1, houtcome⟩
  · intro e session' h
    rw [exec_bind] at h
    rcases hrun : exec x session with ⟨e' | a, middle⟩
    · rw [hrun] at h
      obtain ⟨he, rfl⟩ := Prod.mk.inj h
      obtain rfl := Except.error.inj he
      obtain ⟨hcommitted, houtcome⟩ := hx.raised e' middle hrun
      refine ⟨hcommitted, fun hundisturbed => ?_⟩
      have herror := houtcome hundisturbed
      cases outcome with
      | error e => exact congrArg _ (Except.error.inj herror)
      | ok t => cases herror
    · rw [hrun] at h
      obtain ⟨hcommitted, houtcome⟩ := (hmiddle a middle hrun).raised e session' h
      exact ⟨hcommitted.trans (hx.returned a middle hrun).1, houtcome⟩

/-- What comes after a program that always returns. -/
theorem follows_then {x : Program ε δ α} {k : α → Program ε δ β} {a : α} {data : δ}
    {outcome : Except ε (β × δ)} (hx : Follows undisturbed x session (.ok (a, data)))
    (hk : Follows undisturbed (k a) ⟨session.committed, data⟩ outcome) :
    Follows undisturbed (x >>= k) session outcome := by
  have hreturns : Follows undisturbed x session (id <$> (.ok (a, data) : Except ε (α × δ))) := hx
  have hbind := follows_bind (k := k) (g := fun _ => outcome) hreturns
    (fun t ht => by rw [← Except.ok.inj ht]; exact hk)
  exact hbind

/-- What follows a reading of the data. -/
theorem follows_read {k : δ → Program ε δ α} {outcome : Except ε (α × δ)}
    (h : Follows undisturbed (k session.current) session outcome) :
    Follows undisturbed (read >>= k) session outcome := by
  have hrun : exec (read >>= k) session = exec (k session.current) session := by
    rw [exec_bind, exec_read]
  constructor
  · intro a session' hexec
    exact h.returned a session' (hrun.symm.trans hexec)
  · intro e session' hexec
    exact h.raised e session' (hrun.symm.trans hexec)

/-- A loop follows a loop when each pass follows a pass. -/
theorem follows_foldlM {σ τ : Type} {pass : σ → α → Program ε δ σ} {f : τ → α → Except ε τ}
    {split : τ → σ × δ} {committed : δ}
    (h : ∀ t a, Follows undisturbed (pass (split t).1 a) ⟨committed, (split t).2⟩
      (split <$> f t a)) (xs : List α) (t : τ) :
    Follows undisturbed (xs.foldlM pass (split t).1) ⟨committed, (split t).2⟩
      (split <$> xs.foldlM f t) := by
  induction xs generalizing t with
  | nil => exact follows_pure (split t).1
  | cons a xs ih =>
    rw [List.foldlM_cons, List.foldlM_cons, map_bind]
    exact follows_bind (h t a) (fun t' _ => ih t')

/-- A program with a commit at its end, when it returns, -/
theorem follows_commit_ok {x : Program ε δ α} {outcome : Except ε (α × δ)} {a : α}
    {session' : Session δ} (hx : Follows undisturbed x session outcome)
    (hrun : exec (do let b ← x; commit; pure b) session = (.ok a, session')) :
    outcome = .ok (a, session'.current) ∧ session'.committed = session'.current := by
  obtain ⟨b, middle, hx', hrest⟩ := exec_bind_ok hrun
  obtain ⟨⟨⟩, final, hcommit, hrest⟩ := exec_bind_ok hrest
  obtain ⟨hb, rfl⟩ := Prod.mk.inj hrest
  obtain rfl := Except.ok.inj hb
  obtain ⟨-, rfl⟩ := Prod.mk.inj hcommit
  exact ⟨(hx.returned b middle hx').2, rfl⟩

/-- and when it raises. -/
theorem follows_commit_error {x : Program ε δ α} {outcome : Except ε (α × δ)} {e : ε}
    {session' : Session δ} (hx : Follows undisturbed x session outcome)
    (hrun : exec (do let b ← x; commit; pure b) session = (.error e, session')) :
    session'.committed = session.committed ∧ (undisturbed → outcome = .error e) := by
  rw [exec_bind] at hrun
  rcases hx' : exec x session with ⟨e' | b, middle⟩
  · rw [hx'] at hrun
    obtain ⟨he, rfl⟩ := Prod.mk.inj hrun
    obtain rfl := Except.error.inj he
    exact hx.raised e' middle hx'
  · rw [hx'] at hrun
    cases hrun

/-- A program in a session of its own: what comes of it, and what is stored afterwards. -/
def call (program : Program ε δ α) (stored : δ) : Except ε α × δ :=
  let result := exec program ⟨stored, stored⟩
  (result.1, result.2.committed)

theorem call_preserves {P : δ → Prop} {program : Program ε δ α} (h : Preserves P program)
    {stored : δ} (hstored : P stored) : P (call program stored).2 :=
  (h ⟨stored, stored⟩ hstored hstored).1

theorem call_eq {program : Program ε δ α} {stored : δ} {outcome : Except ε α}
    (h : (call program stored).1 = outcome) :
    call program stored = (outcome, (call program stored).2) := by
  rw [← h]

end DataChat.Transactions
