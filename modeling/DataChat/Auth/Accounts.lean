import DataChat.Auth.Definitions
import DataChat.Library.GetOrCreate

/-!
# Accounts that are found

The queries of the authentication code, over tables that keep their constraints.

* `findActiveUser_eq`: the account of a token is found exactly while it is active.
* `authenticateUser_ok_iff`: whose credentials are accepted.
-/

namespace DataChat.Auth

open Relational Platform GetOrCreate

/-! ## Queries for one row -/

theorem mem_usersWithTenant {t : AccountTables} {user : Account} {tenant : Tenant} :
    (user, tenant) ∈ t.usersWithTenant ↔
      user ∈ t.users ∧ tenant ∈ t.tenants ∧ user.tenant_id = tenant.id := by
  simp only [AccountTables.usersWithTenant, List.mem_flatMap, List.mem_map, List.mem_filter,
    decide_eq_true_eq, Prod.mk.injEq]
  constructor
  · rintro ⟨user', huser, tenant', ⟨htenant, heq⟩, rfl, rfl⟩
    exact ⟨huser, htenant, heq⟩
  · rintro ⟨huser, htenant, heq⟩
    exact ⟨user, huser, tenant, ⟨htenant, heq⟩, rfl, rfl⟩

/-- Each user has one tenant: the join has the rows of the table. -/
theorem usersWithTenant_map_fst {t : AccountTables} (h : AccountKeys t) :
    t.usersWithTenant.map Prod.fst = t.users := by
  have hone : ∀ user ∈ t.users, (t.tenants.filter (fun tenant => user.tenant_id = tenant.id)).map
      (fun _ => user) = [user] := by
    intro user huser
    obtain ⟨tenant, htenant, hid⟩ := List.mem_map.mp (h.users_tenant user huser _ rfl)
    rw [filter_eq_singleton h.tenants (by simp_all) htenant (by simpa using hid.symm),
      List.map_singleton]
  rw [AccountTables.usersWithTenant, List.map_flatMap]
  conv_rhs => rw [← List.flatMap_singleton' t.users]
  refine List.flatMap_congr (fun user huser => ?_)
  rw [List.map_map]
  exact hone user huser

/-- A query whose condition fits one user at most. -/
theorem scalarOneOrNone_users {t : AccountTables} (h : AccountKeys t)
    (p : Account × Tenant → Bool)
    (hone : ∀ a ∈ t.usersWithTenant, ∀ b ∈ t.usersWithTenant, p a = true → p b = true →
      a.1 = b.1) :
    ∃ found, scalarOneOrNone ((t.usersWithTenant.filter p).map Prod.fst) = .ok found ∧
      ∀ user, found = some user ↔ ∃ tenant, (user, tenant) ∈ t.usersWithTenant ∧
        p (user, tenant) = true := by
  have hnodup : ((t.usersWithTenant.filter p).map Prod.fst).Nodup := by
    have hall : (t.usersWithTenant.map Prod.fst).Nodup := by
      rw [usersWithTenant_map_fst h]
      exact List.Nodup.of_map _ h.users
    exact (List.filter_sublist.map _).nodup hall
  have hmem : ∀ user, user ∈ (t.usersWithTenant.filter p).map Prod.fst ↔
      ∃ tenant, (user, tenant) ∈ t.usersWithTenant ∧ p (user, tenant) = true := by
    simp [List.mem_filter]
  have hsame : ∀ a ∈ (t.usersWithTenant.filter p).map Prod.fst,
      ∀ b ∈ (t.usersWithTenant.filter p).map Prod.fst, a = b := by
    intro a ha b hb
    obtain ⟨_, ha, hpa⟩ := (hmem a).mp ha
    obtain ⟨_, hb, hpb⟩ := (hmem b).mp hb
    exact hone _ ha _ hb hpa hpb
  rcases eq_nil_or_singleton hnodup hsame with hnil | ⟨row, hrow⟩
  · rw [hnil] at hmem ⊢
    exact ⟨none, rfl, fun user => by simpa using hmem user⟩
  · rw [hrow] at hmem ⊢
    refine ⟨some row, rfl, fun user => ?_⟩
    rw [← hmem, List.mem_singleton, Option.some.injEq, eq_comm]

/-! ## Active accounts -/

/-- The account is there and active, and so is its tenant. -/
def Active (t : AccountTables) (user : Account) : Prop :=
  user ∈ t.users ∧ user.status = "active" ∧
    ∃ tenant ∈ t.tenants, user.tenant_id = tenant.id ∧ tenant.status = "active"

/-- The query of a token finds the account while it is active, and never two. -/
theorem findActiveUser_eq {t : AccountTables} (h : AccountKeys t) (userId tenantId : Uuid) :
    ∃ found, findActiveUser t userId tenantId = .ok found ∧
      ∀ user, found = some user ↔ Active t user ∧ user.id = userId ∧ user.tenant_id = tenantId := by
  obtain ⟨found, hfound, hsome⟩ := scalarOneOrNone_users h (fun row =>
    row.1.id = userId ∧ row.1.tenant_id = tenantId ∧ row.1.status = "active" ∧
      row.2.status = "active") (by
    intro a ha b hb hpa hpb
    have hida := (of_decide_eq_true hpa).1
    have hidb := (of_decide_eq_true hpb).1
    exact h.users.eq_of_key (mem_usersWithTenant.mp ha).1 (mem_usersWithTenant.mp hb).1
      (hida.trans hidb.symm))
  refine ⟨found, hfound, fun user => ?_⟩
  rw [hsome]
  simp only [mem_usersWithTenant, decide_eq_true_eq, Active]
  constructor
  · rintro ⟨tenant, ⟨huser, htenant, hid⟩, huid, htid, hactive, htactive⟩
    exact ⟨⟨huser, hactive, tenant, htenant, hid, htactive⟩, huid, htid⟩
  · rintro ⟨⟨huser, hactive, tenant, htenant, hid, htactive⟩, huid, htid⟩
    exact ⟨tenant, ⟨huser, htenant, hid⟩, huid, htid, hactive, htactive⟩

/-! ## Credentials -/

variable {τ : Type}

/-- An active account of an active tenant, with this code, this email and this password. -/
structure Authenticated (services : Services τ) (t : AccountTables) (request : LoginRequest)
    (user : Account) : Prop where
  active : Active t user
  email : user.email = services.py.lower (strip request.email)
  tenant_code : ∃ tenant ∈ t.tenants, user.tenant_id = tenant.id ∧
    tenant.code = services.py.lower (strip request.tenant_code)
  password : ∃ passwordHash, user.password_hash = some passwordHash ∧
    verifyPassword services.context request.password passwordHash = true

/-- The two descriptions of the tenant are of one tenant. -/
theorem active_with_code_iff {t : AccountTables} (h : AccountKeys t) {user : Account}
    {code : String} : (∃ tenant, (user, tenant) ∈ t.usersWithTenant ∧ tenant.code = code ∧
        tenant.status = "active" ∧ user.status = "active") ↔
      Active t user ∧ ∃ tenant ∈ t.tenants, user.tenant_id = tenant.id ∧ tenant.code = code := by
  simp only [mem_usersWithTenant, Active]
  constructor
  · rintro ⟨tenant, ⟨huser, htenant, hid⟩, hcode, htactive, hactive⟩
    exact ⟨⟨huser, hactive, tenant, htenant, hid, htactive⟩, tenant, htenant, hid, hcode⟩
  · rintro ⟨⟨huser, hactive, tenant, htenant, hid, htactive⟩, tenant', htenant', hid', hcode⟩
    have hsame : tenant' = tenant := h.tenants.eq_of_key htenant' htenant (hid'.symm.trans hid)
    subst hsame
    exact ⟨tenant', ⟨huser, htenant', hid'⟩, hcode, htactive, hactive⟩

theorem credentialsQuery_eq (services : Services τ) {t : AccountTables} (h : AccountKeys t)
    (request : LoginRequest) :
    ∃ found, scalarOneOrNone ((t.usersWithTenant.filter (fun row =>
        row.2.code = services.py.lower (strip request.tenant_code) ∧ row.2.status = "active" ∧
          row.1.email = services.py.lower (strip request.email) ∧ row.1.status = "active")).map
            Prod.fst) = .ok found ∧
      ∀ user, found = some user ↔ Active t user ∧
        user.email = services.py.lower (strip request.email) ∧
        ∃ tenant ∈ t.tenants, user.tenant_id = tenant.id ∧
          tenant.code = services.py.lower (strip request.tenant_code) := by
  obtain ⟨found, hfound, hsome⟩ := scalarOneOrNone_users h (fun row =>
    row.2.code = services.py.lower (strip request.tenant_code) ∧ row.2.status = "active" ∧
      row.1.email = services.py.lower (strip request.email) ∧ row.1.status = "active") (by
    intro a ha b hb hpa hpb
    obtain ⟨hcodea, -, hemaila, -⟩ := of_decide_eq_true hpa
    obtain ⟨hcodeb, -, hemailb, -⟩ := of_decide_eq_true hpb
    obtain ⟨huser, htenant, hid⟩ := mem_usersWithTenant.mp ha
    obtain ⟨huser', htenant', hid'⟩ := mem_usersWithTenant.mp hb
    have hsame : a.2 = b.2 := h.tenant_codes.eq_of_key htenant htenant' (hcodea.trans hcodeb.symm)
    refine h.uq_users_tenant_email.eq_of_key huser huser' (Prod.ext ?_ ?_)
    · exact hid.trans ((congrArg Tenant.id hsame).trans hid'.symm)
    · exact hemaila.trans hemailb.symm)
  refine ⟨found, hfound, fun user => (hsome user).trans ?_⟩
  rw [and_left_comm, ← active_with_code_iff h]
  simp only [decide_eq_true_eq]
  constructor
  · rintro ⟨tenant, hmem, hcode, htactive, hemail, hactive⟩
    exact ⟨hemail, tenant, hmem, hcode, htactive, hactive⟩
  · rintro ⟨hemail, tenant, hmem, hcode, htactive, hactive⟩
    exact ⟨tenant, hmem, hcode, htactive, hemail, hactive⟩

theorem authenticateUser_ok_iff (services : Services τ) {t : AccountTables} (h : AccountKeys t)
    (request : LoginRequest) (user : Account) :
    authenticateUser services.py services.context t request.tenant_code request.email
      request.password = .ok user ↔ Authenticated services t request user := by
  obtain ⟨found, hfound, hsome⟩ := credentialsQuery_eq services h request
  rw [authenticateUser, Outcome.bind_ok_iff]
  constructor
  · rintro ⟨found', hfound', hrest⟩
    obtain rfl := Except.ok.inj (hfound.symm.trans hfound')
    cases found with
    | none => exact absurd hrest Outcome.throw_ne_ok
    | some account =>
      obtain ⟨hactive, hemail, hcode⟩ := (hsome account).mp rfl
      dsimp only at hrest
      split at hrest
      · exact absurd hrest Outcome.throw_ne_ok
      · rename_i passwordHash hhash
        split at hrest
        · rename_i hverified
          obtain rfl := Outcome.pure_ok_iff.mp hrest
          exact ⟨hactive, hemail, hcode, passwordHash, hhash, hverified⟩
        · exact absurd hrest Outcome.throw_ne_ok
  · rintro ⟨hactive, hemail, hcode, passwordHash, hhash, hverified⟩
    refine ⟨found, hfound, ?_⟩
    rw [(hsome user).mpr ⟨hactive, hemail, hcode⟩]
    simp only [hhash, hverified, if_true]
    rfl

end DataChat.Auth
