import DataChat.Auth.Accounts
import DataChat.Library.GetOrCreate
import DataChat.Library.Runs

/-!
# The initial tenant administrator

`scripts/create_admin.py`: a run looks for the tenant, the role, the administrator and the
assignment, one after the other, and creates what it does not find. Each query and each insertion
is a transaction of its own, so several runs interleave; a run that is interrupted takes no further
step.

* `bootstrap_grows`: what all runs together leave in the database.
-/

namespace DataChat.Auth

open Relational Platform GetOrCreate

structure InitialSettings where
  initial_tenant_name : String
  initial_tenant_code : String
  initial_admin_email : String
  initial_admin_full_name : String
  initial_admin_password : String
  password_length : 8 ≤ initial_admin_password.length ∧ initial_admin_password.length ≤ 128

/-- What the script works with, besides the database: it shares it with the endpoints. -/
structure Script (τ : Type) extends Services τ where
  initial : InitialSettings

variable {τ : Type}

def Script.normalizedEmail (script : Script τ) : String :=
  strip (script.py.lower script.initial.initial_admin_email)

def roleName : String := "Tenant Administrator"

def Script.newTenant (script : Script τ) (id : Uuid) : Tenant :=
  ⟨id, script.initial.initial_tenant_name, script.initial.initial_tenant_code, "active"⟩

def newRole (tenant : Tenant) (id : Uuid) : NamedRole :=
  { id := id, tenant_id := tenant.id, name := roleName,
    description := some "Full administrative access within the active tenant." }

def Script.newAdmin (script : Script τ) (tenant : Tenant) (passwordHash : String) (id : Uuid) :
    Account :=
  { id := id, tenant_id := tenant.id, is_tenant_admin := true, email := script.normalizedEmail,
    full_name := some script.initial.initial_admin_full_name, password_hash := some passwordHash,
    status := "active" }

/-! ## One run -/

/-- Where a run is: before its next query, or before an insertion after a query without a row. -/
inductive Progress
  | start
  | noTenant
  | tenant (tenant : Tenant)
  | noRole (tenant : Tenant)
  | role (tenant : Tenant) (role : NamedRole)
  | noAdmin (tenant : Tenant) (role : NamedRole)
  | admin (tenant : Tenant) (role : NamedRole) (user : Account) (created : Bool)
  | noAssignment (tenant : Tenant) (role : NamedRole) (user : Account) (created : Bool)
  | completed (tenant : Tenant) (user : Account) (created : Bool)
  | raised (e : Raised)
  | invalidPassword (e : ValueError)

/-- `scalar_one_or_none()`, and what follows. -/
def queried {α : Type} (rows : List α) (absent : Progress) (present : α → Progress) : Progress :=
  match scalarOneOrNone rows with
  | .ok none => absent
  | .ok (some row) => present row
  | .error e => .raised e

/-- The commit of an insertion: the constraints are checked. -/
def inserted (store : AccountStore) (t : AccountTables) (next : Progress) :
    Progress × AccountStore :=
  if h : AccountKeys t then (next, ⟨t, h⟩) else (.raised .integrityError, store)

/-- The next transaction of a run. An insertion gets a new identifier, a password a new salt. -/
def Script.advance (script : Script τ) (store : AccountStore) (id : Uuid) (salt : Nat) :
    Progress → Progress × AccountStore
  | .start =>
    (queried (store.tenants.filter (fun tenant =>
      tenant.code = script.initial.initial_tenant_code)) .noTenant .tenant, store)
  | .noTenant =>
    let tenant := script.newTenant id
    inserted store { store.toAccountTables with tenants := store.tenants ++ [tenant] }
      (.tenant tenant)
  | .tenant tenant =>
    (queried (store.roles.filter (fun role => role.tenant_id = tenant.id ∧ role.name = roleName))
      (.noRole tenant) (.role tenant), store)
  | .noRole tenant =>
    let role := newRole tenant id
    inserted store { store.toAccountTables with roles := store.roles ++ [role] } (.role tenant role)
  | .role tenant role =>
    (queried (store.users.filter (fun user =>
      user.tenant_id = tenant.id ∧ user.email = script.normalizedEmail)) (.noAdmin tenant role)
      (fun user => .admin tenant role user false), store)
  | .noAdmin tenant role =>
    match hashPassword script.context salt script.initial.initial_admin_password with
    | .error e => (.invalidPassword e, store)
    | .ok passwordHash =>
      let user := script.newAdmin tenant passwordHash id
      inserted store { store.toAccountTables with users := store.users ++ [user] }
        (.admin tenant role user true)
  | .admin tenant role user created =>
    (queried (store.user_roles.filter (fun assignment =>
      assignment.user_id = user.id ∧ assignment.role_id = role.id))
      (.noAssignment tenant role user created) (fun _ => .completed tenant user created), store)
  | .noAssignment tenant role user created =>
    inserted store
      { store.toAccountTables with user_roles := store.user_roles ++ [⟨user.id, role.id⟩] }
      (.completed tenant user created)
  | progress => (progress, store)

/-! ## Several runs -/

structure Bootstrapping where
  store : AccountStore
  runs : List Progress

inductive BootstrapEvent
  | start
  | advance (run : Nat) (id : Uuid) (salt : Nat)

def Script.step (script : Script τ) (s : Bootstrapping) : BootstrapEvent → Bootstrapping
  | .start => { s with runs := s.runs ++ [.start] }
  | .advance run id salt =>
    match s.runs[run]? with
    | none => s
    | some progress =>
      let (next, store) := script.advance s.store id salt progress
      ⟨store, s.runs.set run next⟩

/-! ## What has been created -/

structure Extends (t t' : AccountTables) : Prop where
  tenants : t.tenants ⊆ t'.tenants
  users : t.users ⊆ t'.users
  roles : t.roles ⊆ t'.roles
  user_roles : t.user_roles ⊆ t'.user_roles

theorem Extends.refl (t : AccountTables) : Extends t t :=
  ⟨List.Subset.refl _, List.Subset.refl _, List.Subset.refl _, List.Subset.refl _⟩

theorem extends_tenants (t : AccountTables) (rows : List Tenant) :
    Extends t { t with tenants := t.tenants ++ rows } :=
  { Extends.refl t with tenants := List.subset_append_left _ _ }

theorem extends_roles (t : AccountTables) (rows : List NamedRole) :
    Extends t { t with roles := t.roles ++ rows } :=
  { Extends.refl t with roles := List.subset_append_left _ _ }

theorem extends_users (t : AccountTables) (rows : List Account) :
    Extends t { t with users := t.users ++ rows } :=
  { Extends.refl t with users := List.subset_append_left _ _ }

theorem extends_user_roles (t : AccountTables) (rows : List UserRole) :
    Extends t { t with user_roles := t.user_roles ++ rows } :=
  { Extends.refl t with user_roles := List.subset_append_left _ _ }

section Created

variable (script : Script τ)

/-- It is the identifier of the tenant of the settings. -/
def Script.IsTenant (t : AccountTables) (tenantId : Uuid) : Prop :=
  ∃ tenant ∈ t.tenants, tenant.id = tenantId ∧ tenant.code = script.initial.initial_tenant_code

def Script.IsRole (t : AccountTables) (role : NamedRole) : Prop :=
  role ∈ t.roles ∧ role.name = roleName ∧ script.IsTenant t role.tenant_id

def Script.IsAdmin (t : AccountTables) (user : Account) : Prop :=
  user ∈ t.users ∧ user.email = script.normalizedEmail ∧ script.IsTenant t user.tenant_id

def Script.IsAssignment (t : AccountTables) (assignment : UserRole) : Prop :=
  (∃ user, script.IsAdmin t user ∧ user.id = assignment.user_id) ∧
    ∃ role, script.IsRole t role ∧ role.id = assignment.role_id

/-- The second tables have the rows of the first, and one new row, at most, in each table. -/
structure Script.Grows (t t' : AccountTables) : Prop where
  tenants : Grown (fun tenant => ∃ id, tenant = script.newTenant id) t.tenants t'.tenants
  roles : Grown (fun role => ∃ tenant ∈ t'.tenants,
    tenant.code = script.initial.initial_tenant_code ∧ ∃ id, role = newRole tenant id)
    t.roles t'.roles
  users : Grown (fun user => ∃ tenant ∈ t'.tenants,
    tenant.code = script.initial.initial_tenant_code ∧ ∃ id salt,
      user = script.newAdmin tenant
        (script.context.hash salt script.initial.initial_admin_password) id) t.users t'.users
  user_roles : Grown (script.IsAssignment t') t.user_roles t'.user_roles

/-- What a run has seen or made is in the tables. -/
def Script.Sound (t : AccountTables) : Progress → Prop
  | .tenant tenant | .noRole tenant =>
    tenant ∈ t.tenants ∧ tenant.code = script.initial.initial_tenant_code
  | .role tenant role | .noAdmin tenant role =>
    (tenant ∈ t.tenants ∧ tenant.code = script.initial.initial_tenant_code) ∧
      script.IsRole t role
  | .admin tenant role user created | .noAssignment tenant role user created =>
    (tenant ∈ t.tenants ∧ tenant.code = script.initial.initial_tenant_code) ∧
      script.IsRole t role ∧ script.IsAdmin t user ∧ user.tenant_id = tenant.id ∧
      (created = true → ∃ id salt, user = script.newAdmin tenant
        (script.context.hash salt script.initial.initial_admin_password) id)
  | .completed tenant user created =>
    (tenant ∈ t.tenants ∧ tenant.code = script.initial.initial_tenant_code) ∧
      (∃ role, script.IsRole t role ∧ ⟨user.id, role.id⟩ ∈ t.user_roles) ∧
      script.IsAdmin t user ∧ user.tenant_id = tenant.id ∧
      (created = true → ∃ id salt, user = script.newAdmin tenant
        (script.context.hash salt script.initial.initial_admin_password) id)
  | _ => True

variable {script} {t t' : AccountTables}

theorem Script.IsTenant.mono (h : Extends t t') {tenantId : Uuid}
    (htenant : script.IsTenant t tenantId) : script.IsTenant t' tenantId := by
  obtain ⟨tenant, hmem, hrest⟩ := htenant
  exact ⟨tenant, h.tenants hmem, hrest⟩

theorem Script.IsRole.mono (h : Extends t t') {role : NamedRole} (hrole : script.IsRole t role) :
    script.IsRole t' role :=
  ⟨h.roles hrole.1, hrole.2.1, hrole.2.2.mono h⟩

theorem Script.IsAdmin.mono (h : Extends t t') {user : Account} (huser : script.IsAdmin t user) :
    script.IsAdmin t' user :=
  ⟨h.users huser.1, huser.2.1, huser.2.2.mono h⟩

theorem Script.IsAssignment.mono (h : Extends t t') {assignment : UserRole}
    (hassignment : script.IsAssignment t assignment) : script.IsAssignment t' assignment := by
  obtain ⟨⟨user, huser, huid⟩, role, hrole, hrid⟩ := hassignment
  exact ⟨⟨user, huser.mono h, huid⟩, role, hrole.mono h, hrid⟩

theorem Script.Sound.mono (h : Extends t t') {progress : Progress}
    (hsound : script.Sound t progress) : script.Sound t' progress := by
  cases progress with
  | tenant tenant => exact ⟨h.tenants hsound.1, hsound.2⟩
  | noRole tenant => exact ⟨h.tenants hsound.1, hsound.2⟩
  | role tenant role => exact ⟨⟨h.tenants hsound.1.1, hsound.1.2⟩, hsound.2.mono h⟩
  | noAdmin tenant role => exact ⟨⟨h.tenants hsound.1.1, hsound.1.2⟩, hsound.2.mono h⟩
  | admin tenant role user created =>
    obtain ⟨htenant, hrole, huser, hrest⟩ := hsound
    exact ⟨⟨h.tenants htenant.1, htenant.2⟩, hrole.mono h, huser.mono h, hrest⟩
  | noAssignment tenant role user created =>
    obtain ⟨htenant, hrole, huser, hrest⟩ := hsound
    exact ⟨⟨h.tenants htenant.1, htenant.2⟩, hrole.mono h, huser.mono h, hrest⟩
  | completed tenant user created =>
    obtain ⟨htenant, ⟨role, hrole, hmem⟩, huser, hrest⟩ := hsound
    exact ⟨⟨h.tenants htenant.1, htenant.2⟩, ⟨role, hrole.mono h, h.user_roles hmem⟩,
      huser.mono h, hrest⟩
  | start => trivial
  | noTenant => trivial
  | raised e => trivial
  | invalidPassword e => trivial

/-- The code of a tenant is unique, so that the four rows are. -/
theorem Script.IsTenant.unique (h : AccountKeys t) {tenantId tenantId' : Uuid}
    (htenant : script.IsTenant t tenantId) (htenant' : script.IsTenant t tenantId') :
    tenantId = tenantId' := by
  obtain ⟨tenant, hmem, rfl, hcode⟩ := htenant
  obtain ⟨tenant', hmem', rfl, hcode'⟩ := htenant'
  rw [h.tenant_codes.eq_of_key hmem hmem' (hcode.trans hcode'.symm)]

theorem Script.IsRole.unique (h : AccountKeys t) {role role' : NamedRole}
    (hrole : script.IsRole t role) (hrole' : script.IsRole t role') : role = role' :=
  h.uq_roles_tenant_name.eq_of_key hrole.1 hrole'.1
    (Prod.ext (hrole.2.2.unique h hrole'.2.2) (hrole.2.1.trans hrole'.2.1.symm))

theorem Script.IsAdmin.unique (h : AccountKeys t) {user user' : Account}
    (huser : script.IsAdmin t user) (huser' : script.IsAdmin t user') : user = user' :=
  h.uq_users_tenant_email.eq_of_key huser.1 huser'.1
    (Prod.ext (huser.2.2.unique h huser'.2.2) (huser.2.1.trans huser'.2.1.symm))

theorem Script.IsAssignment.unique (h : AccountKeys t) {assignment assignment' : UserRole}
    (h1 : script.IsAssignment t assignment) (h2 : script.IsAssignment t assignment') :
    (assignment.user_id, assignment.role_id) = (assignment'.user_id, assignment'.role_id) := by
  obtain ⟨⟨user, huser, huid⟩, role, hrole, hrid⟩ := h1
  obtain ⟨⟨user', huser', huid'⟩, role', hrole', hrid'⟩ := h2
  rw [← huid, ← huid', ← hrid, ← hrid', huser.unique h huser', hrole.unique h hrole']

end Created

/-! ## One transaction -/

theorem queried_cases {α : Type} (rows : List α) (absent : Progress) (present : α → Progress) :
    (rows = [] ∧ queried rows absent present = absent) ∨
      (∃ row, rows = [row] ∧ queried rows absent present = present row) ∨
      queried rows absent present = .raised .multipleResultsFound := by
  match rows with
  | [] => exact .inl ⟨rfl, rfl⟩
  | [row] => exact .inr (.inl ⟨row, rfl, rfl⟩)
  | _ :: _ :: _ => exact .inr (.inr rfl)

/-- A query keeps to the rows that it finds. -/
theorem sound_queried {script : Script τ} {t : AccountTables} {α : Type} {rows : List α}
    {absent : Progress} {present : α → Progress} (habsent : script.Sound t absent)
    (hpresent : ∀ row ∈ rows, script.Sound t (present row)) :
    script.Sound t (queried rows absent present) := by
  rcases queried_cases rows absent present with ⟨-, h⟩ | ⟨row, hrows, h⟩ | h
  · rwa [h]
  · rw [h]
    exact hpresent row (by rw [hrows]; exact List.mem_singleton_self row)
  · rw [h]
    trivial

theorem inserted_cases (store : AccountStore) (t : AccountTables) (next : Progress) :
    (∃ h : AccountKeys t, inserted store t next = (next, ⟨t, h⟩)) ∨
      inserted store t next = (.raised .integrityError, store) := by
  unfold inserted
  split
  · rename_i h
    exact .inl ⟨h, rfl⟩
  · exact .inr rfl

section Transactions

variable {script : Script τ} {t : AccountTables} {store : AccountStore}

/-- What a transaction of a run leaves: the tables have grown by the rows of the script only, and
the run knows what it has seen. -/
structure Script.Keeps (script : Script τ) (t : AccountTables) (store : AccountStore)
    (result : Progress × AccountStore) : Prop where
  grows : script.Grows t result.2.toAccountTables
  extended : Extends store.toAccountTables result.2.toAccountTables
  sound : script.Sound result.2.toAccountTables result.1

theorem keeps_same (hgrows : script.Grows t store.toAccountTables) {next : Progress}
    (hsound : script.Sound store.toAccountTables next) : script.Keeps t store (next, store) :=
  ⟨hgrows, Extends.refl _, hsound⟩

/-- An insertion is refused by the constraints, or is the only one. -/
theorem keeps_inserted (hgrows : script.Grows t store.toAccountTables) {t' : AccountTables}
    {next : Progress} (hextended : Extends store.toAccountTables t')
    (hinserted : AccountKeys t' → script.Grows t t') (hsound : script.Sound t' next) :
    script.Keeps t store (inserted store t' next) := by
  rcases inserted_cases store t' next with ⟨hkeys, h⟩ | h
  · rw [h]
    exact ⟨hinserted hkeys, hextended, hsound⟩
  · rw [h]
    exact keeps_same hgrows trivial

theorem grows_tenant (hgrows : script.Grows t store.toAccountTables) (id : Uuid)
    (hkeys : AccountKeys { store.toAccountTables with
      tenants := store.tenants ++ [script.newTenant id] }) :
    script.Grows t { store.toAccountTables with
      tenants := store.tenants ++ [script.newTenant id] } where
  tenants := hgrows.tenants.insert hkeys.tenant_codes ⟨id, rfl⟩ (by rintro _ ⟨id', rfl⟩; rfl)
  roles := hgrows.roles.mono (fun role ⟨tenant, hmem, hrest⟩ =>
    ⟨tenant, List.mem_append_left _ hmem, hrest⟩)
  users := hgrows.users.mono (fun user ⟨tenant, hmem, hrest⟩ =>
    ⟨tenant, List.mem_append_left _ hmem, hrest⟩)
  user_roles := hgrows.user_roles.mono (fun assignment h =>
    h.mono (extends_tenants _ _))

theorem grows_role (hgrows : script.Grows t store.toAccountTables) {tenant : Tenant}
    (htenant : tenant ∈ store.tenants)
    (hcode : tenant.code = script.initial.initial_tenant_code) (id : Uuid)
    (hkeys : AccountKeys { store.toAccountTables with
      roles := store.roles ++ [newRole tenant id] }) :
    script.Grows t { store.toAccountTables with roles := store.roles ++ [newRole tenant id] } where
  tenants := hgrows.tenants
  roles := by
    refine hgrows.roles.insert hkeys.uq_roles_tenant_name ⟨tenant, htenant, hcode, id, rfl⟩ ?_
    rintro _ ⟨tenant', htenant', hcode', id', rfl⟩
    rw [store.keys.tenant_codes.eq_of_key htenant' htenant (hcode'.trans hcode.symm)]
    rfl
  users := hgrows.users
  user_roles := hgrows.user_roles.mono (fun assignment h =>
    h.mono (extends_roles _ _))

theorem grows_admin (hgrows : script.Grows t store.toAccountTables) {tenant : Tenant}
    (htenant : tenant ∈ store.tenants)
    (hcode : tenant.code = script.initial.initial_tenant_code) (id : Uuid) (salt : Nat)
    (hkeys : AccountKeys { store.toAccountTables with
      users := store.users ++ [script.newAdmin tenant
        (script.context.hash salt script.initial.initial_admin_password) id] }) :
    script.Grows t { store.toAccountTables with
      users := store.users ++ [script.newAdmin tenant
        (script.context.hash salt script.initial.initial_admin_password) id] } where
  tenants := hgrows.tenants
  roles := hgrows.roles
  users := by
    refine hgrows.users.insert hkeys.uq_users_tenant_email
      ⟨tenant, htenant, hcode, id, salt, rfl⟩ ?_
    rintro _ ⟨tenant', htenant', hcode', id', salt', rfl⟩
    rw [store.keys.tenant_codes.eq_of_key htenant' htenant (hcode'.trans hcode.symm)]
    rfl
  user_roles := hgrows.user_roles.mono (fun assignment h =>
    h.mono (extends_users _ _))

theorem grows_assignment (hgrows : script.Grows t store.toAccountTables) {user : Account}
    {role : NamedRole} (huser : script.IsAdmin store.toAccountTables user)
    (hrole : script.IsRole store.toAccountTables role)
    (hkeys : AccountKeys { store.toAccountTables with
      user_roles := store.user_roles ++ [⟨user.id, role.id⟩] }) :
    script.Grows t { store.toAccountTables with
      user_roles := store.user_roles ++ [⟨user.id, role.id⟩] } where
  tenants := hgrows.tenants
  roles := hgrows.roles
  users := hgrows.users
  user_roles := by
    have hassignment : script.IsAssignment store.toAccountTables ⟨user.id, role.id⟩ :=
      ⟨⟨user, huser, rfl⟩, role, hrole, rfl⟩
    exact hgrows.user_roles.insert hkeys.user_roles hassignment
      (fun other hother => hother.unique store.keys hassignment)

/-- The password of the settings is long enough to be hashed. -/
theorem hashPassword_settings (script : Script τ) (salt : Nat) :
    hashPassword script.context salt script.initial.initial_admin_password =
      .ok (script.context.hash salt script.initial.initial_admin_password) := by
  have hnonempty : script.initial.initial_admin_password ≠ "" := by
    intro hempty
    have hlength := script.initial.password_length.1
    rw [hempty] at hlength
    exact absurd hlength (by decide)
  rw [hashPassword, if_neg hnonempty]
  rfl

theorem advance_keeps (hgrows : script.Grows t store.toAccountTables) {progress : Progress}
    (hsound : script.Sound store.toAccountTables progress) (id : Uuid) (salt : Nat) :
    script.Keeps t store (script.advance store id salt progress) := by
  cases progress with
  | start =>
    refine keeps_same hgrows (sound_queried trivial (fun tenant htenant => ?_))
    obtain ⟨hmem, hcode⟩ := List.mem_filter.mp htenant
    exact ⟨hmem, of_decide_eq_true hcode⟩
  | noTenant =>
    exact keeps_inserted hgrows (extends_tenants _ _) (grows_tenant hgrows id) ⟨by simp, rfl⟩
  | tenant tenant =>
    refine keeps_same hgrows (sound_queried hsound (fun role hrole => ⟨hsound, ?_⟩))
    obtain ⟨hmem, hcond⟩ := List.mem_filter.mp hrole
    obtain ⟨htenant, hname⟩ := of_decide_eq_true hcond
    exact ⟨hmem, hname, tenant, hsound.1, htenant.symm, hsound.2⟩
  | noRole tenant =>
    exact keeps_inserted hgrows (extends_roles _ _) (grows_role hgrows hsound.1 hsound.2 id)
      ⟨hsound, by simp, rfl, tenant, hsound.1, rfl, hsound.2⟩
  | role tenant role =>
    refine keeps_same hgrows (sound_queried hsound (fun user huser => ⟨hsound.1, hsound.2, ?_⟩))
    obtain ⟨hmem, hcond⟩ := List.mem_filter.mp huser
    obtain ⟨htenant, hemail⟩ := of_decide_eq_true hcond
    exact ⟨⟨hmem, hemail, tenant, hsound.1.1, htenant.symm, hsound.1.2⟩, htenant, by simp⟩
  | noAdmin tenant role =>
    obtain ⟨htenant, hrole⟩ := hsound
    have hextended := extends_users store.toAccountTables [script.newAdmin tenant
      (script.context.hash salt script.initial.initial_admin_password) id]
    simp only [Script.advance, hashPassword_settings]
    exact keeps_inserted hgrows hextended (grows_admin hgrows htenant.1 htenant.2 id salt)
      ⟨htenant, hrole.mono hextended, ⟨by simp, rfl, tenant, htenant.1, rfl, htenant.2⟩, rfl,
        fun _ => ⟨id, salt, rfl⟩⟩
  | admin tenant role user created =>
    obtain ⟨htenant, hrole, huser, hrest⟩ := hsound
    refine keeps_same hgrows (sound_queried ⟨htenant, hrole, huser, hrest⟩
      (fun assignment hassignment => ⟨htenant, ⟨role, hrole, ?_⟩, huser, hrest⟩))
    obtain ⟨hmem, hcond⟩ := List.mem_filter.mp hassignment
    obtain ⟨huid, hrid⟩ := of_decide_eq_true hcond
    rwa [← huid, ← hrid]
  | noAssignment tenant role user created =>
    obtain ⟨htenant, hrole, huser, hrest⟩ := hsound
    have hextended := extends_user_roles store.toAccountTables [⟨user.id, role.id⟩]
    exact keeps_inserted hgrows hextended (grows_assignment hgrows huser hrole)
      ⟨htenant, ⟨role, hrole.mono hextended, by simp⟩, huser.mono hextended, hrest⟩
  | completed tenant user created => exact keeps_same hgrows hsound
  | raised e => exact keeps_same hgrows hsound
  | invalidPassword e => exact keeps_same hgrows hsound

end Transactions

/-! ## All runs -/

theorem bootstrap_invariant (script : Script τ) (store : AccountStore)
    (events : List BootstrapEvent) :
    Runs.Throughout script.step (fun s =>
      script.Grows store.toAccountTables s.store.toAccountTables ∧
        ∀ progress ∈ s.runs, script.Sound s.store.toAccountTables progress)
      ⟨store, []⟩ events := by
  refine Runs.throughout_of_invariant (fun s event h => ?_) ⟨?_, by simp⟩ events
  · obtain ⟨hgrows, hsound⟩ := h
    cases event with
    | start =>
      refine ⟨hgrows, fun progress hprogress => ?_⟩
      rcases List.mem_append.mp hprogress with hmem | hmem
      · exact hsound progress hmem
      · rw [List.mem_singleton.mp hmem]
        trivial
    | advance run id salt =>
      simp only [Script.step]
      split
      · exact ⟨hgrows, hsound⟩
      · rename_i progress hrun
        have hkeeps := advance_keeps hgrows (hsound progress (List.mem_of_getElem? hrun)) id salt
        refine ⟨hkeeps.grows, fun other hother => ?_⟩
        rcases List.mem_or_eq_of_mem_set hother with hmem | rfl
        · exact (hsound other hmem).mono hkeeps.extended
        · exact hkeeps.sound
  · exact ⟨Grown.refl _ _, Grown.refl _ _, Grown.refl _ _, Grown.refl _ _⟩

/-- The tables have one tenant, one role, one administrator and one assignment of the script. -/
def Script.Bootstrapped (script : Script τ) (t : AccountTables) (tenant : Tenant) (user : Account) :
    Prop :=
  t.tenants.filter (fun other => other.code = script.initial.initial_tenant_code) = [tenant] ∧
    t.users.filter (fun other => other.tenant_id = tenant.id ∧
      other.email = script.normalizedEmail) = [user] ∧
    ∃ role, t.roles.filter (fun other => other.tenant_id = tenant.id ∧ other.name = roleName) =
        [role] ∧
      t.user_roles.filter (fun other => other.user_id = user.id ∧ other.role_id = role.id) =
        [⟨user.id, role.id⟩]

theorem bootstrapped_of_sound {script : Script τ} {store : AccountStore} {tenant : Tenant}
    {user : Account} {created : Bool}
    (h : script.Sound store.toAccountTables (.completed tenant user created)) :
    script.Bootstrapped store.toAccountTables tenant user := by
  have hkeys := store.keys
  obtain ⟨⟨htenant, hcode⟩, ⟨role, hrole, hassignment⟩, huser, hreference, -⟩ := h
  have htenantId : role.tenant_id = tenant.id :=
    hrole.2.2.unique hkeys ⟨tenant, htenant, rfl, hcode⟩
  refine ⟨?_, ?_, role, ?_, ?_⟩
  · exact filter_eq_singleton hkeys.tenant_codes (by simp_all) htenant (by simpa using hcode)
  · exact filter_eq_singleton hkeys.uq_users_tenant_email (by simp_all) huser.1
      (by simpa using ⟨hreference, huser.2.1⟩)
  · exact filter_eq_singleton hkeys.uq_roles_tenant_name (by simp_all) hrole.1
      (by simpa using ⟨htenantId, hrole.2.1⟩)
  · exact filter_eq_singleton hkeys.user_roles (by simp_all) hassignment (by simp)

/-- Over all transactions of all runs, one row at most is added to each table, and nothing else
changes; a run that completes leaves the tenant, the role, the administrator and the assignment,
each of them once. -/
theorem bootstrap_grows (script : Script τ) (store : AccountStore) (events : List BootstrapEvent) :
    Runs.Throughout script.step (fun s =>
      script.Grows store.toAccountTables s.store.toAccountTables ∧
        ∀ tenant user created, .completed tenant user created ∈ s.runs →
          script.Bootstrapped s.store.toAccountTables tenant user)
      ⟨store, []⟩ events := by
  refine (bootstrap_invariant script store events).imp ?_
  rintro s ⟨hgrows, hsound⟩
  exact ⟨hgrows, fun tenant user created hrun => bootstrapped_of_sound (hsound _ hrun)⟩

end DataChat.Auth
