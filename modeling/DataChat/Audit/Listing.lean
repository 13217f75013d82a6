import DataChat.Chat.Definitions
import DataChat.Library.OrderBy

/-!
# Listing audit logs

`list_audit_logs` and `repositories/audit_logs.py`. The events of a tenant are sorted from the
latest to the earliest. Events of one time may come in either order, so the sorted rows are an
argument.
-/

namespace DataChat.Audit

open Platform Chat

structure AuditLogRow extends Stored AuditLog where
  request_id : Option String
  client_ip : Option String
  updated_at : Datetime

/-- The filters of a listing; `none` is no filter. -/
structure AuditFilters where
  action : Option String
  outcome : Option String
  user_id : Option Uuid

/-- The `WHERE` clause. -/
def isListed (tenantId : Uuid) (filters : AuditFilters) (row : AuditLogRow) : Bool :=
  decide (row.fields.tenant_id = tenantId ∧
    (∀ action ∈ filters.action, row.fields.action = action) ∧
    (∀ outcome ∈ filters.outcome, row.fields.outcome = outcome) ∧
    (∀ userId ∈ filters.user_id, row.fields.user_id = some userId))

/-- The rows of `list_audit_log_records`, in no order. -/
def listedRows (logs : List AuditLogRow) (tenantId : Uuid) (filters : AuditFilters) :
    List AuditLogRow :=
  logs.filter (isListed tenantId filters)

/-- `ORDER BY created_at DESC`. -/
def latestFirst (row : AuditLogRow) : OrderDual Datetime := OrderDual.toDual row.created_at

def listAuditLogs (logs : List AuditLogRow) (currentUser : User) (filters : AuditFilters)
    (offset limit : Nat) (sorted : List AuditLogRow) : Service (List AuditLogRow × Nat) := do
  requireTenantAdministrator currentUser
  pure ((sorted.drop offset).take limit,
    (listedRows logs currentUser.tenant_id filters).length)

end DataChat.Audit
