import DataChat.Auth.Bootstrap
import DataChat.Auth.Protocol

/-!
# Bootstrapping to the end

A run of `scripts/create_admin.py` that is not interrupted, whatever earlier runs have left, and
the login of the administrator.

* `bootstrap_recovers`: the run completes, and a further one changes nothing.
* `initial_login_iff`: when the credentials of the settings are accepted.
-/

namespace DataChat.Auth

open Relational Platform GetOrCreate

variable {τ : Type} {t : AccountTables} {script : Script τ} {store : AccountStore}

/-! ## A run alone -/

def Script.alone (script : Script τ) (state : Progress × AccountStore)
    (choices : List (Uuid × Nat)) : Progress × AccountStore :=
  choices.foldl (fun state choice => script.advance state.2 choice.1 choice.2 state.1) state

/-- The events of a further run that nobody interrupts. -/
def uninterrupted (s : Bootstrapping) (choices : List (Uuid × Nat)) : List BootstrapEvent :=
  .start :: choices.map (fun choice => .advance s.runs.length choice.1 choice.2)

theorem run_advance (script : Script τ) (runs : List Progress) (progress : Progress)
    (store : AccountStore) (choices : List (Uuid × Nat)) :
    Runs.run script.step ⟨store, runs ++ [progress]⟩
        (choices.map (fun choice => .advance runs.length choice.1 choice.2)) =
      ⟨(script.alone (progress, store) choices).2,
        runs ++ [(script.alone (progress, store) choices).1]⟩ := by
  induction choices generalizing progress store with
  | nil => rfl
  | cons choice choices ih =>
    rw [List.map_cons, Runs.run, List.foldl_cons]
    have hstep : script.step ⟨store, runs ++ [progress]⟩
        (.advance runs.length choice.1 choice.2) =
          ⟨(script.advance store choice.1 choice.2 progress).2,
            runs ++ [(script.advance store choice.1 choice.2 progress).1]⟩ := by
      simp [Script.step]
    rw [hstep]
    exact ih _ _

theorem run_uninterrupted (script : Script τ) (s : Bootstrapping) (choices : List (Uuid × Nat)) :
    Runs.run script.step s (uninterrupted s choices) =
      ⟨(script.alone (.start, s.store) choices).2,
        s.runs ++ [(script.alone (.start, s.store) choices).1]⟩ :=
  run_advance script s.runs .start s.store choices

/-! ## Progress -/

/-- How many transactions are left, at most. -/
def Progress.remaining : Progress → Nat
  | .start => 8
  | .noTenant => 7
  | .tenant _ => 6
  | .noRole _ => 5
  | .role _ _ => 4
  | .noAdmin _ _ => 3
  | .admin _ _ _ _ => 2
  | .noAssignment _ _ _ _ => 1
  | _ => 0

/-- The row that a run is about to insert is missing, and no exception was raised. -/
def Script.OnTrack (script : Script τ) (t : AccountTables) : Progress → Prop
  | .noTenant => ∀ tenant ∈ t.tenants, tenant.code ≠ script.initial.initial_tenant_code
  | .noRole tenant => ∀ role ∈ t.roles, ¬ (role.tenant_id = tenant.id ∧ role.name = roleName)
  | .noAdmin tenant _ =>
    ∀ user ∈ t.users, ¬ (user.tenant_id = tenant.id ∧ user.email = script.normalizedEmail)
  | .noAssignment _ role user _ =>
    ∀ assignment ∈ t.user_roles, ¬ (assignment.user_id = user.id ∧ assignment.role_id = role.id)
  | .raised _ => False
  | .invalidPassword _ => False
  | _ => True

/-- No row has the identifier. -/
def Fresh (t : AccountTables) (id : Uuid) : Prop :=
  (∀ tenant ∈ t.tenants, tenant.id ≠ id) ∧ (∀ role ∈ t.roles, role.id ≠ id) ∧
    ∀ user ∈ t.users, user.id ≠ id

/-- A query by a unique key finds the row or none. -/
theorem queried_onTrack {α κ : Type} {key : α → κ} {rows : List α} (hkey : PrimaryKey key rows)
    {p : α → Bool} (hsame : ∀ a b, p a = true → p b = true → key a = key b) (absent : Progress)
    (present : α → Progress) :
    ((∀ row ∈ rows, ¬ p row = true) ∧ queried (rows.filter p) absent present = absent) ∨
      ∃ row, queried (rows.filter p) absent present = present row := by
  by_cases hnone : ∀ row ∈ rows, ¬ p row = true
  · refine .inl ⟨hnone, ?_⟩
    rw [List.filter_eq_nil_iff.mpr hnone]
    rfl
  · simp only [not_forall, not_not] at hnone
    obtain ⟨row, hmem, hp⟩ := hnone
    exact .inr ⟨row, by rw [filter_eq_singleton hkey hsame hmem hp]; rfl⟩

/-! ## Insertions that the constraints accept -/

theorem keys_tenant (h : AccountKeys t) (row : Tenant) (hfresh : Fresh t row.id)
    (hcode : ∀ tenant ∈ t.tenants, tenant.code ≠ row.code) :
    AccountKeys { t with tenants := t.tenants ++ [row] } :=
  { h with
    tenants := (primaryKey_append h.tenants).mpr hfresh.1
    tenant_codes := (primaryKey_append h.tenant_codes).mpr hcode
    users_tenant := foreignKey_parents h.users_tenant (List.subset_append_left _ _)
    roles_tenant := foreignKey_parents h.roles_tenant (List.subset_append_left _ _) }

theorem keys_role (h : AccountKeys t) (row : NamedRole) (hfresh : Fresh t row.id)
    (hname : ∀ role ∈ t.roles, ¬ (role.tenant_id = row.tenant_id ∧ role.name = row.name))
    {tenant : Tenant} (htenant : tenant ∈ t.tenants) (hreference : row.tenant_id = tenant.id) :
    AccountKeys { t with roles := t.roles ++ [row] } :=
  { h with
    roles := (primaryKey_append h.roles).mpr hfresh.2.1
    uq_roles_tenant_name := (primaryKey_append h.uq_roles_tenant_name).mpr
      (fun role hrole heq => hname role hrole (Prod.mk.inj heq))
    roles_tenant := foreignKey_append h.roles_tenant htenant (congrArg some hreference)
    user_roles_role := foreignKey_parents h.user_roles_role (List.subset_append_left _ _) }

theorem keys_user (h : AccountKeys t) (row : Account) (hfresh : Fresh t row.id)
    (hemail : ∀ user ∈ t.users, ¬ (user.tenant_id = row.tenant_id ∧ user.email = row.email))
    {tenant : Tenant} (htenant : tenant ∈ t.tenants) (hreference : row.tenant_id = tenant.id) :
    AccountKeys { t with users := t.users ++ [row] } :=
  { h with
    users := (primaryKey_append h.users).mpr hfresh.2.2
    uq_users_tenant_email := (primaryKey_append h.uq_users_tenant_email).mpr
      (fun user huser heq => hemail user huser (Prod.mk.inj heq))
    users_tenant := foreignKey_append h.users_tenant htenant (congrArg some hreference)
    user_roles_user := foreignKey_parents h.user_roles_user (List.subset_append_left _ _) }

theorem keys_user_role (h : AccountKeys t) {user : Account} (huser : user ∈ t.users)
    {role : NamedRole} (hrole : role ∈ t.roles)
    (hnone : ∀ assignment ∈ t.user_roles,
      ¬ (assignment.user_id = user.id ∧ assignment.role_id = role.id)) :
    AccountKeys { t with user_roles := t.user_roles ++ [⟨user.id, role.id⟩] } :=
  { h with
    user_roles := (primaryKey_append h.user_roles).mpr
      (fun assignment hassignment heq => hnone assignment hassignment (Prod.mk.inj heq))
    user_roles_user := foreignKey_append h.user_roles_user huser rfl
    user_roles_role := foreignKey_append h.user_roles_role hrole rfl }

theorem inserted_of_keys {t : AccountTables} (h : AccountKeys t) (next : Progress) :
    inserted store t next = (next, ⟨t, h⟩) := dif_pos h

/-! ## Completion -/

/-- A transaction brings the run closer to its end. -/
theorem advance_onTrack {progress : Progress} (hsound : script.Sound store.toAccountTables progress)
    (htrack : script.OnTrack store.toAccountTables progress) {id : Uuid}
    (hfresh : Fresh store.toAccountTables id) (salt : Nat) :
    script.OnTrack (script.advance store id salt progress).2.toAccountTables
        (script.advance store id salt progress).1 ∧
      (script.advance store id salt progress).1.remaining ≤ progress.remaining - 1 := by
  have hkeys := store.keys
  cases progress with
  | start =>
    rcases queried_onTrack hkeys.tenant_codes
        (p := fun tenant => tenant.code = script.initial.initial_tenant_code) (by simp_all)
        .noTenant .tenant with ⟨hnone, h⟩ | ⟨tenant, h⟩
    · simp only [Script.advance, h]
      exact ⟨by simpa [Script.OnTrack] using hnone, by simp [Progress.remaining]⟩
    · simp only [Script.advance, h]
      exact ⟨trivial, by simp [Progress.remaining]⟩
  | noTenant =>
    have hinsert := keys_tenant hkeys (script.newTenant id) hfresh htrack
    simp only [Script.advance, inserted_of_keys hinsert]
    exact ⟨trivial, by simp [Progress.remaining]⟩
  | tenant tenant =>
    rcases queried_onTrack hkeys.uq_roles_tenant_name
        (p := fun role => role.tenant_id = tenant.id ∧ role.name = roleName) (by simp_all)
        (.noRole tenant) (.role tenant) with ⟨hnone, h⟩ | ⟨role, h⟩
    · simp only [Script.advance, h]
      exact ⟨by simpa [Script.OnTrack] using hnone, by simp [Progress.remaining]⟩
    · simp only [Script.advance, h]
      exact ⟨trivial, by simp [Progress.remaining]⟩
  | noRole tenant =>
    have hinsert := keys_role hkeys (newRole tenant id) hfresh htrack hsound.1 rfl
    simp only [Script.advance, inserted_of_keys hinsert]
    exact ⟨trivial, by simp [Progress.remaining]⟩
  | role tenant role =>
    rcases queried_onTrack hkeys.uq_users_tenant_email
        (p := fun user => user.tenant_id = tenant.id ∧ user.email = script.normalizedEmail)
        (by simp_all) (.noAdmin tenant role) (fun user => .admin tenant role user false)
        with ⟨hnone, h⟩ | ⟨user, h⟩
    · simp only [Script.advance, h]
      exact ⟨by simpa [Script.OnTrack] using hnone, by simp [Progress.remaining]⟩
    · simp only [Script.advance, h]
      exact ⟨trivial, by simp [Progress.remaining]⟩
  | noAdmin tenant role =>
    have hinsert := keys_user hkeys (script.newAdmin tenant
      (script.context.hash salt script.initial.initial_admin_password) id) hfresh htrack
      hsound.1.1 rfl
    simp only [Script.advance, hashPassword_settings, inserted_of_keys hinsert]
    exact ⟨trivial, by simp [Progress.remaining]⟩
  | admin tenant role user created =>
    rcases queried_onTrack hkeys.user_roles
        (p := fun assignment => assignment.user_id = user.id ∧ assignment.role_id = role.id)
        (by simp_all) (.noAssignment tenant role user created)
        (fun _ => .completed tenant user created) with ⟨hnone, h⟩ | ⟨assignment, h⟩
    · simp only [Script.advance, h]
      exact ⟨by simpa [Script.OnTrack] using hnone, by simp [Progress.remaining]⟩
    · simp only [Script.advance, h]
      exact ⟨trivial, by simp [Progress.remaining]⟩
  | noAssignment tenant role user created =>
    have hinsert := keys_user_role hkeys hsound.2.2.1.1 hsound.2.1.1 htrack
    simp only [Script.advance, inserted_of_keys hinsert]
    exact ⟨trivial, by simp [Progress.remaining]⟩
  | completed tenant user created => exact ⟨trivial, by simp [Script.advance, Progress.remaining]⟩
  | raised e => exact htrack.elim
  | invalidPassword e => exact htrack.elim

theorem fresh_inserted {id : Uuid} (h : Fresh store.toAccountTables id) (h' : Fresh t id)
    (next : Progress) : Fresh (inserted store t next).2.toAccountTables id := by
  rcases inserted_cases store t next with ⟨_, hresult⟩ | hresult
  · rw [hresult]
    exact h'
  · rw [hresult]
    exact h

/-- A transaction uses no identifier but its own. -/
theorem advance_fresh {id other : Uuid} (h : Fresh store.toAccountTables other) (hne : id ≠ other)
    (salt : Nat) (progress : Progress) :
    Fresh (script.advance store id salt progress).2.toAccountTables other := by
  have ⟨htenants, hroles, husers⟩ := h
  cases progress with
  | noTenant =>
    apply fresh_inserted h
    refine ⟨fun tenant htenant => ?_, hroles, husers⟩
    rcases List.mem_append.mp htenant with hmem | hmem
    · exact htenants tenant hmem
    · rw [List.mem_singleton.mp hmem]
      exact hne
  | noRole tenant =>
    apply fresh_inserted h
    refine ⟨htenants, fun role hrole => ?_, husers⟩
    rcases List.mem_append.mp hrole with hmem | hmem
    · exact hroles role hmem
    · rw [List.mem_singleton.mp hmem]
      exact hne
  | noAdmin tenant role =>
    simp only [Script.advance, hashPassword_settings]
    apply fresh_inserted h
    refine ⟨htenants, hroles, fun user huser => ?_⟩
    rcases List.mem_append.mp huser with hmem | hmem
    · exact husers user hmem
    · rw [List.mem_singleton.mp hmem]
      exact hne
  | noAssignment tenant role user created =>
    apply fresh_inserted h
    exact ⟨htenants, hroles, husers⟩
  | _ => exact h

/-- A run alone ends with a completed bootstrap. -/
theorem alone_completes {t : AccountTables} (choices : List (Uuid × Nat)) (progress : Progress)
    {store : AccountStore} (hgrows : script.Grows t store.toAccountTables)
    (hsound : script.Sound store.toAccountTables progress)
    (htrack : script.OnTrack store.toAccountTables progress)
    (hlength : progress.remaining ≤ choices.length) (hnodup : (choices.map Prod.fst).Nodup)
    (hfresh : ∀ choice ∈ choices, Fresh store.toAccountTables choice.1) :
    ∃ tenant user created store', script.alone (progress, store) choices =
        (.completed tenant user created, store') ∧
      script.Grows t store'.toAccountTables ∧
      script.Sound store'.toAccountTables (.completed tenant user created) := by
  induction choices generalizing progress store with
  | nil =>
    cases progress with
    | completed tenant user created => exact ⟨tenant, user, created, store, rfl, hgrows, hsound⟩
    | raised e => exact htrack.elim
    | invalidPassword e => exact htrack.elim
    | _ => simp [Progress.remaining] at hlength
  | cons choice choices ih =>
    rw [List.map_cons, List.nodup_cons] at hnodup
    obtain ⟨htrack', hremaining⟩ :=
      advance_onTrack hsound htrack (hfresh choice List.mem_cons_self) choice.2
    have hkeeps := advance_keeps hgrows hsound choice.1 choice.2
    have hlength' : (script.advance store choice.1 choice.2 progress).1.remaining ≤
        choices.length := by
      rw [List.length_cons] at hlength
      omega
    refine ih _ hkeeps.grows hkeeps.sound htrack' hlength' hnodup.2 (fun other hother => ?_)
    refine advance_fresh (hfresh other (List.mem_cons_of_mem _ hother)) (fun hsame => ?_) _ _
    exact hnodup.1 (hsame ▸ List.mem_map_of_mem hother)

/-! ## A further run -/

theorem alone_completed (choices : List (Uuid × Nat)) (tenant : Tenant) (user : Account)
    (created : Bool) : script.alone (.completed tenant user created, store) choices =
      (.completed tenant user created, store) := by
  induction choices with
  | nil => rfl
  | cons choice choices ih => exact ih

/-- Where everything is there, a run changes nothing. -/
theorem alone_again {tenant : Tenant} {user : Account}
    (h : script.Bootstrapped store.toAccountTables tenant user) {choices : List (Uuid × Nat)}
    (hlength : 4 ≤ choices.length) :
    script.alone (.start, store) choices = (.completed tenant user false, store) := by
  obtain ⟨htenants, husers, role, hroles, hassignments⟩ := h
  match choices, hlength with
  | first :: second :: third :: fourth :: choices, _ =>
    have h1 : script.advance store first.1 first.2 .start = (.tenant tenant, store) := by
      simp only [Script.advance, htenants]
      rfl
    have h2 : script.advance store second.1 second.2 (.tenant tenant) =
        (.role tenant role, store) := by
      simp only [Script.advance, hroles]
      rfl
    have h3 : script.advance store third.1 third.2 (.role tenant role) =
        (.admin tenant role user false, store) := by
      simp only [Script.advance, husers]
      rfl
    have h4 : script.advance store fourth.1 fourth.2 (.admin tenant role user false) =
        (.completed tenant user false, store) := by
      simp only [Script.advance, hassignments]
      rfl
    have hrun : script.alone (.start, store) (first :: second :: third :: fourth :: choices) =
        script.alone (.completed tenant user false, store) choices := by
      simp only [Script.alone, List.foldl_cons, h1, h2, h3, h4]
    rw [hrun, alone_completed]

/-- Whatever earlier runs have done and wherever they were interrupted, a further run completes
with at most eight transactions. It adds only what is missing, and the run after it adds nothing. -/
theorem bootstrap_recovers (script : Script τ) (s : Bootstrapping) (choices : List (Uuid × Nat))
    (hlength : 8 ≤ choices.length) (hnodup : (choices.map Prod.fst).Nodup)
    (hfresh : ∀ choice ∈ choices, Fresh s.store.toAccountTables choice.1) :
    ∃ store tenant user created,
      Runs.run script.step s (uninterrupted s choices) =
        ⟨store, s.runs ++ [.completed tenant user created]⟩ ∧
      script.Grows s.store.toAccountTables store.toAccountTables ∧
      script.Bootstrapped store.toAccountTables tenant user ∧
      ∀ runs choices', 4 ≤ choices'.length →
        Runs.run script.step ⟨store, runs⟩ (uninterrupted ⟨store, runs⟩ choices') =
          ⟨store, runs ++ [.completed tenant user false]⟩ := by
  have hgrows : script.Grows s.store.toAccountTables s.store.toAccountTables :=
    ⟨Grown.refl _ _, Grown.refl _ _, Grown.refl _ _, Grown.refl _ _⟩
  obtain ⟨tenant, user, created, store, hrun, hgrows, hsound⟩ :=
    alone_completes choices .start hgrows trivial trivial hlength hnodup hfresh
  have hbootstrapped := bootstrapped_of_sound hsound
  refine ⟨store, tenant, user, created, ?_, hgrows, hbootstrapped,
    fun runs choices' hlength' => ?_⟩
  · rw [run_uninterrupted, hrun]
  · rw [run_uninterrupted, alone_again hbootstrapped hlength']

def sampleScript : Script JsonObject where
  toServices := sampleServices
  initial := ⟨"Demo Company", "demo", "Admin@example.com", "Platform Administrator", "passphrase",
    by decide⟩

def noAccounts : AccountStore := ⟨⟨[], [], [], []⟩, by decide⟩

def sampleChoices : List (Uuid × Nat) :=
  [("1", 1), ("2", 2), ("3", 3), ("4", 4), ("5", 5), ("6", 6), ("7", 7), ("8", 8)]

theorem bootstrap_recovers_sample : ∃ store tenant user created,
    Runs.run sampleScript.step ⟨noAccounts, []⟩ (uninterrupted ⟨noAccounts, []⟩ sampleChoices) =
      ⟨store, [.completed tenant user created]⟩ := by
  obtain ⟨store, tenant, user, created, hrun, -⟩ := bootstrap_recovers sampleScript
    ⟨noAccounts, []⟩ sampleChoices (by decide) (by decide)
    (fun _ _ => ⟨by simp [noAccounts], by simp [noAccounts], by simp [noAccounts]⟩)
  exact ⟨store, tenant, user, created, hrun⟩

/-! ## The first login -/

/-- A new administrator has the credentials of the settings, in a tenant that is active under the
code as the login reads it. -/
theorem authenticated_newAdmin_iff {tenant : Tenant} {user : Account} (request : LoginRequest)
    (hsound : script.Sound store.toAccountTables (.completed tenant user true))
    (hcode : request.tenant_code = script.initial.initial_tenant_code)
    (hemail : request.email = script.initial.initial_admin_email)
    (hpassword : request.password = script.initial.initial_admin_password) :
    Authenticated script.toServices store.toAccountTables request user ↔
      tenant.status = "active" ∧
        script.py.lower (strip script.initial.initial_tenant_code) =
          script.initial.initial_tenant_code ∧
        script.py.lower (strip script.initial.initial_admin_email) =
          strip (script.py.lower script.initial.initial_admin_email) := by
  obtain ⟨⟨htenant, htenantCode⟩, -, huser, hreference, hnew⟩ := hsound
  obtain ⟨id, salt, hrow⟩ := hnew rfl
  have hone : ∀ other ∈ store.tenants, user.tenant_id = other.id → other = tenant :=
    fun other hother hid => store.keys.tenants.eq_of_key hother htenant (hid.symm.trans hreference)
  constructor
  · rintro ⟨⟨-, -, other, hother, hid, hactive⟩, hread, ⟨other', hother', hid', hcode'⟩, -⟩
    rw [hone other hother hid] at hactive
    rw [hone other' hother' hid', hcode, htenantCode] at hcode'
    rw [hemail, huser.2.1] at hread
    exact ⟨hactive, hcode'.symm, hread.symm⟩
  · rintro ⟨hactive, hcode', hread⟩
    have hnonempty : request.password ≠ "" := by
      intro hempty
      have hlength := request.password_length.1
      rw [hempty] at hlength
      exact absurd hlength (by decide)
    refine ⟨⟨huser.1, by rw [hrow]; rfl, tenant, htenant, hreference, hactive⟩, ?_,
      ⟨tenant, htenant, hreference, ?_⟩, _, by rw [hrow]; rfl, ?_⟩
    · rw [hemail, hread, huser.2.1]
      rfl
    · rw [hcode, hcode', htenantCode]
    · rw [← hpassword, verifyPassword, if_neg (by simp [hnonempty, script.context.hash_nonempty]),
        script.context.verify_hash]
      rfl

/-- Once a run has created the administrator, its credentials are accepted exactly when the tenant
is active and the login reads the code and the email of the settings as the script wrote them. -/
theorem initial_login_iff (script : Script τ) (store : AccountStore)
    (events : List BootstrapEvent) :
    Runs.Throughout script.step (fun s => ∀ tenant user, .completed tenant user true ∈ s.runs →
      ∀ request : LoginRequest, request.tenant_code = script.initial.initial_tenant_code →
        request.email = script.initial.initial_admin_email →
        request.password = script.initial.initial_admin_password →
        (authenticateUser script.py script.context s.store.toAccountTables request.tenant_code
            request.email request.password = .ok user ↔
          tenant.status = "active" ∧
            script.py.lower (strip script.initial.initial_tenant_code) =
              script.initial.initial_tenant_code ∧
            script.py.lower (strip script.initial.initial_admin_email) =
              strip (script.py.lower script.initial.initial_admin_email)))
      ⟨store, []⟩ events := by
  refine (bootstrap_invariant script store events).imp ?_
  rintro s ⟨-, hsound⟩ tenant user hrun request hcode hemail hpassword
  exact (authenticateUser_ok_iff script.toServices s.store.keys request user).trans
    (authenticated_newAdmin_iff request (hsound _ hrun) hcode hemail hpassword)

/-- The same settings with a tenant code that is not in lower case. -/
def capitalScript : Script JsonObject where
  toServices := sampleServices
  initial := ⟨"Demo Company", "Demo", "Admin@example.com", "Platform Administrator", "passphrase",
    by decide⟩

/-- What one run of a script leaves. -/
def afterOne (script : Script JsonObject) : Bootstrapping :=
  Runs.run script.step ⟨noAccounts, []⟩ (uninterrupted ⟨noAccounts, []⟩ sampleChoices)

/-- The first administrator can log in; with the code in capitals nobody can. -/
theorem initial_login_iff_sample :
    (∃ tenant user, .completed tenant user true ∈ (afterOne sampleScript).runs ∧
      authenticateUser asciiCasing sampleServices.context
        (afterOne sampleScript).store.toAccountTables "demo" "Admin@example.com" "passphrase" =
          .ok user) ∧
    (∃ tenant user, .completed tenant user true ∈ (afterOne capitalScript).runs ∧
      authenticateUser asciiCasing sampleServices.context
        (afterOne capitalScript).store.toAccountTables "Demo" "Admin@example.com" "passphrase" ≠
          .ok user) := by
  have hlogin := (initial_login_iff sampleScript noAccounts
    (uninterrupted ⟨noAccounts, []⟩ sampleChoices)).last
  have hrefused := (initial_login_iff capitalScript noAccounts
    (uninterrupted ⟨noAccounts, []⟩ sampleChoices)).last
  refine ⟨⟨_, _, List.mem_singleton.mpr rfl, ?_⟩, ⟨_, _, List.mem_singleton.mpr rfl, ?_⟩⟩
  · refine (hlogin _ _ (List.mem_singleton.mpr rfl)
      ⟨"demo", "Admin@example.com", "passphrase", by decide, by decide⟩ rfl rfl rfl).mpr ?_
    decide
  · intro hok
    have hread := (hrefused _ _ (List.mem_singleton.mpr rfl)
      ⟨"Demo", "Admin@example.com", "passphrase", by decide, by decide⟩ rfl rfl rfl).mp hok
    exact absurd hread (by decide)

end DataChat.Auth
