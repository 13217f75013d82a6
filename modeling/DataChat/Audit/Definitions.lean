import DataChat.Core.Permissions
import DataChat.Library.Text

/-!
# Audit metadata

`services/audit_service.py`: what is left of the metadata of an event when its secrets are taken
out.
-/

namespace DataChat.Audit

def sensitiveMetadataKeys : List String :=
  ["access_token", "authorization", "connection_string", "encrypted_connection_string",
    "encrypted_password", "fernet_key", "jwt_secret_key", "password", "password_hash",
    "refresh_token", "secret", "token"]

mutual

def sanitizeAuditMetadata (py : Casing) : List (String × Json) → List (String × Json)
  | [] => []
  | (key, value) :: metadata =>
    (key, if py.lower key ∈ sensitiveMetadataKeys then .string "[REDACTED]"
      else sanitizeAuditValue py value) :: sanitizeAuditMetadata py metadata

def sanitizeAuditValue (py : Casing) : Json → Json
  | .object fields => .object (sanitizeAuditMetadata py fields)
  | .array items => .array (sanitizeAuditItems py items)
  | value => value

/-- The items of a list: dictionaries are sanitised, and all else is kept. -/
def sanitizeAuditItems (py : Casing) : List Json → List Json
  | [] => []
  | .object fields :: items =>
    .object (sanitizeAuditMetadata py fields) :: sanitizeAuditItems py items
  | item :: items => item :: sanitizeAuditItems py items

end

end DataChat.Audit
