import DataChat.Core.Permissions
import DataChat.Library.Outcome
import DataChat.Library.Relational
import DataChat.Library.Text
import DataChat.Platform.Definitions

/-!
# Authentication

`core/security.py`, `services/auth_service.py`, `app/dependencies.py` and `api/routes/auth.py`: the
tokens, the accounts they are made for, and the endpoints that make and accept them.

A point in time is a number of microseconds; `jose` writes the times of a token in whole seconds.
`jose` and `passlib` are not part of the repository: a `Jose` signs and verifies with the secret key
and the algorithm of the settings, a `PasswordContext` hashes and verifies passwords. The text of a
token goes to `jose` and nowhere else, so the type of tokens is left open.
-/

namespace DataChat.Auth

open Relational Platform

/-! ## Tokens -/

inductive TokenType
  | access
  | refresh
deriving DecidableEq, Repr

def TokenType.value : TokenType → String
  | .access => "access"
  | .refresh => "refresh"

/-- `timegm(value.utctimetuple())`. -/
def timestamp (value : Datetime) : Int := value / 1000000

def jsonOfInt (n : Int) : Json := .number (decide (n < 0)) (toString n.natAbs)

/-- An integer is written in digits only. -/
def intOfJson : Json → Option Int
  | .number negative magnitude =>
    if magnitude ≠ "" ∧ magnitude.toList.all Char.isDigit then
      let n := Nat.ofDigitChars 10 magnitude.toList 0
      some (if negative then -n else n)
    else none
  | _ => none

def textOfJson : Json → Option String
  | .string text => some text
  | _ => none

/-- The claims that `jose` checks against arguments that `decode_token` does not give, or by rules
of their own. -/
def joseChecks : List String := ["aud", "nbf", "jti", "at_hash"]

/-- Signed claims that `jose` accepts at a time. -/
structure Acceptable (now : Int) (claims : JsonObject) : Prop where
  nodup : (claims.map Prod.fst).Nodup
  sub : ∃ text, claims.get "sub" = some (.string text)
  iat : ∃ issued, claims.get "iat" = some (jsonOfInt issued)
  exp : ∃ expires, claims.get "exp" = some (jsonOfInt expires) ∧ now ≤ expires
  others : ∀ key ∈ joseChecks, claims.get key = none

/-- `jwt.encode`, and `jwt.decode` at a time in whole seconds. -/
structure Jose (τ : Type) where
  encode : JsonObject → τ
  decode : Int → τ → Option JsonObject
  /-- `not token`. -/
  isEmpty : τ → Bool
  encode_nonempty : ∀ claims, isEmpty (encode claims) = false
  decode_encode : ∀ now claims, Acceptable now claims → decode now (encode claims) = some claims
  decode_signed : ∀ now claims claims', decode now (encode claims) = some claims' →
    claims' = claims
  decode_expired : ∀ now token claims expires, decode now token = some claims →
    claims.get "exp" = some (jsonOfInt expires) → now ≤ expires

variable {τ : Type}

structure TokenPayload where
  sub : Uuid
  tenant_id : Uuid
  type : TokenType
  iat : Datetime
  exp : Datetime
deriving DecidableEq

structure InvalidTokenError where
  message : String
deriving DecidableEq

/-- `raise ValueError(message)`. -/
structure ValueError where
  message : String
deriving DecidableEq

def protectedClaims : List String := ["sub", "tenant_id", "type", "iat", "exp"]

def ownClaims (userId tenantId : Uuid) (tokenType : TokenType) (now expiresAt : Datetime) :
    JsonObject :=
  [("sub", .string userId), ("tenant_id", .string tenantId), ("type", .string tokenType.value),
    ("iat", jsonOfInt (timestamp now)), ("exp", jsonOfInt (timestamp expiresAt))]

/-- The `payload` of `create_token`. An update with claims that are not there yet appends them. -/
def tokenClaims (userId tenantId : Uuid) (tokenType : TokenType) (now expiresDelta : Datetime)
    (additionalClaims : Dict String Json) : Except ValueError JsonObject :=
  if additionalClaims.keys.any (fun key => key ∈ protectedClaims) then
    throw ⟨"Additional claims cannot override protected token claims."⟩
  else
    pure (ownClaims userId tenantId tokenType now (now + expiresDelta) ++ additionalClaims.items)

/-- No additional claims are an empty dictionary. -/
def createToken (jose : Jose τ) (userId tenantId : Uuid) (tokenType : TokenType)
    (now expiresDelta : Datetime) (additionalClaims : Dict String Json) :
    Except ValueError τ := do
  let claims ← tokenClaims userId tenantId tokenType now expiresDelta additionalClaims
  pure (jose.encode claims)

/-- How pydantic reads an integer as a `datetime`: as seconds, and above `2 * 10 ^ 10` as
milliseconds. The times of a token come from `datetime`s, which end with the year 9999; they stay
within the range of a `datetime` either way. -/
def readTimestamp (n : Int) : Datetime :=
  if n.natAbs ≤ 20000000000 then n * 1000000 else n * 1000

/-- `TokenPayload.model_validate`. -/
def validatePayload (claims : JsonObject) : Option TokenPayload := do
  let sub ← (claims.get "sub").bind textOfJson
  let tenantId ← (claims.get "tenant_id").bind textOfJson
  let type ← (claims.get "type").bind textOfJson
  let tokenType ← [TokenType.access, .refresh].find? (fun t => t.value = type)
  let iat ← (claims.get "iat").bind intOfJson
  let exp ← (claims.get "exp").bind intOfJson
  pure ⟨sub, tenantId, tokenType, readTimestamp iat, readTimestamp exp⟩

def decodeToken (jose : Jose τ) (now : Datetime) (token : τ) (expectedType : Option TokenType) :
    Except InvalidTokenError TokenPayload :=
  if jose.isEmpty token then throw ⟨"Token is required."⟩
  else
    match (jose.decode (timestamp now) token).bind validatePayload with
    | none => throw ⟨"Token is invalid or expired."⟩
    | some payload =>
      if ∃ expected ∈ expectedType, payload.type ≠ expected then
        throw ⟨"Token type is invalid."⟩
      else pure payload

/-! ## Passwords -/

/-- `CryptContext(schemes=["argon2"])`. A hash also depends on a salt; `verify` may raise. -/
structure PasswordContext where
  hash : Nat → String → String
  verify : String → String → Option Bool
  hash_nonempty : ∀ salt password, hash salt password ≠ ""
  verify_hash : ∀ salt password, verify password (hash salt password) = some true

def hashPassword (context : PasswordContext) (salt : Nat) (password : String) :
    Except ValueError String :=
  if password = "" then throw ⟨"Password cannot be empty."⟩
  else pure (context.hash salt password)

def verifyPassword (context : PasswordContext) (plainPassword passwordHash : String) : Bool :=
  if plainPassword = "" ∨ passwordHash = "" then false
  else (context.verify plainPassword passwordHash).getD false

/-! ## Accounts -/

structure Tenant where
  id : Uuid
  name : String
  code : String
  status : String
deriving DecidableEq

structure Account extends User where
  email : String
  full_name : Option String
  password_hash : Option String
  status : String

structure NamedRole extends Role where
  name : String
  description : Option String

structure AccountTables where
  tenants : List Tenant
  users : List Account
  roles : List NamedRole
  user_roles : List UserRole

@[mk_iff]
structure AccountKeys (t : AccountTables) : Prop where
  tenants : PrimaryKey Tenant.id t.tenants
  tenant_codes : PrimaryKey Tenant.code t.tenants
  users : PrimaryKey (fun user => user.id) t.users
  uq_users_tenant_email : PrimaryKey (fun user => (user.tenant_id, user.email)) t.users
  roles : PrimaryKey (fun role => role.id) t.roles
  uq_roles_tenant_name : PrimaryKey (fun role => (role.tenant_id, role.name)) t.roles
  user_roles : PrimaryKey (fun r => (r.user_id, r.role_id)) t.user_roles
  users_tenant : ForeignKey (fun user => some user.tenant_id) t.users Tenant.id t.tenants
  roles_tenant : ForeignKey (fun role => some role.tenant_id) t.roles Tenant.id t.tenants
  user_roles_user : ForeignKey (fun r => some r.user_id) t.user_roles (fun user => user.id) t.users
  user_roles_role : ForeignKey (fun r => some r.role_id) t.user_roles (fun role => role.id) t.roles

instance (t : AccountTables) : Decidable (AccountKeys t) := decidable_of_iff' _ (accountKeys_iff t)

structure AccountStore extends AccountTables where
  keys : AccountKeys toAccountTables

/-- The exceptions of a query for one row or none, and of a refused insertion. -/
inductive Raised
  | invalidCredentialsError (message : String)
  | multipleResultsFound
  | integrityError
deriving DecidableEq

/-- `result.scalar_one_or_none()`. -/
def scalarOneOrNone {α : Type} : List α → Except Raised (Option α)
  | [] => pure none
  | [row] => pure (some row)
  | _ => throw .multipleResultsFound

/-- `select(User).join(Tenant, User.tenant_id == Tenant.id)`. -/
def AccountTables.usersWithTenant (t : AccountTables) : List (Account × Tenant) :=
  t.users.flatMap (fun user =>
    (t.tenants.filter (fun tenant => user.tenant_id = tenant.id)).map (fun tenant => (user, tenant)))

/-- The query of `get_current_user` and of `refresh_access_token`. -/
def findActiveUser (t : AccountTables) (userId tenantId : Uuid) :
    Except Raised (Option Account) :=
  scalarOneOrNone ((t.usersWithTenant.filter (fun row =>
    row.1.id = userId ∧ row.1.tenant_id = tenantId ∧ row.1.status = "active" ∧
      row.2.status = "active")).map Prod.fst)

def authenticateUser (py : Casing) (context : PasswordContext) (t : AccountTables)
    (tenantCode email password : String) : Except Raised Account := do
  let normalizedTenantCode := py.lower (strip tenantCode)
  let normalizedEmail := py.lower (strip email)
  let found ← scalarOneOrNone ((t.usersWithTenant.filter (fun row =>
    row.2.code = normalizedTenantCode ∧ row.2.status = "active" ∧
      row.1.email = normalizedEmail ∧ row.1.status = "active")).map Prod.fst)
  match found with
  | none => throw (.invalidCredentialsError "Invalid tenant code, email, or password.")
  | some user =>
    match user.password_hash with
    | none => throw (.invalidCredentialsError "Invalid tenant code, email, or password.")
    | some passwordHash =>
      if verifyPassword context password passwordHash then pure user
      else throw (.invalidCredentialsError "Invalid tenant code, email, or password.")

/-! ## Endpoints -/

structure TokenSettings where
  access_token_expire_minutes : Nat
  refresh_token_expire_days : Nat
  access_positive : 0 < access_token_expire_minutes
  refresh_positive : 0 < refresh_token_expire_days

/-- The `expires_delta` of `create_access_token` and of `create_refresh_token`. -/
def TokenSettings.lifetime (settings : TokenSettings) : TokenType → Datetime
  | .access => settings.access_token_expire_minutes * 60 * 1000000
  | .refresh => settings.refresh_token_expire_days * 86400 * 1000000

/-- `HTTPException`. -/
structure HttpException where
  status_code : Nat
  detail : String
  headers : List (String × String)
deriving DecidableEq

/-- How a request fails: with an answer, or with an exception that nobody catches. -/
inductive Failure
  | http (e : HttpException)
  | unhandled (e : Raised)
deriving DecidableEq

abbrev Endpoint := Except Failure

def unauthorized (detail : String) : Failure :=
  .http ⟨401, detail, [("WWW-Authenticate", "Bearer")]⟩

structure LoginRequest where
  tenant_code : String
  email : String
  password : String
  tenant_code_length : 2 ≤ tenant_code.length ∧ tenant_code.length ≤ 100
  password_length : 8 ≤ password.length ∧ password.length ≤ 128

structure TokenResponse (τ : Type) where
  access_token : τ
  refresh_token : τ
  token_type : String
  expires_in : Nat

structure AccessTokenResponse (τ : Type) where
  access_token : τ
  token_type : String
  expires_in : Nat

/-- What the endpoints work with, besides the database. -/
structure Services (τ : Type) where
  py : Casing
  jose : Jose τ
  context : PasswordContext
  settings : TokenSettings

/-- `create_access_token` and `create_refresh_token` give no additional claims. -/
def Services.claimsFor (services : Services τ) (user : Account) (tokenType : TokenType)
    (now : Datetime) : JsonObject :=
  ownClaims user.id user.tenant_id tokenType now (now + services.settings.lifetime tokenType)

def Services.tokenFor (services : Services τ) (user : Account) (tokenType : TokenType)
    (now : Datetime) : τ :=
  services.jose.encode (services.claimsFor user tokenType now)

/-- `login`. The two tokens are made one after the other. -/
def login (services : Services τ) (t : AccountTables) (now later : Datetime)
    (request : LoginRequest) : Endpoint (TokenResponse τ) :=
  match authenticateUser services.py services.context t request.tenant_code request.email
      request.password with
  | .error (.invalidCredentialsError _) =>
    throw (unauthorized "Invalid tenant code, email, or password.")
  | .error e => throw (.unhandled e)
  | .ok user =>
    pure
      { access_token := services.tokenFor user .access now
        refresh_token := services.tokenFor user .refresh later
        token_type := "bearer"
        expires_in := services.settings.access_token_expire_minutes * 60 }

/-- A token of a type, and the account that it names. -/
def accountOfToken (services : Services τ) (t : AccountTables) (now : Datetime) (token : τ)
    (expectedType : TokenType) (invalid unavailable : String) : Endpoint Account :=
  match decodeToken services.jose now token (some expectedType) with
  | .error _ => throw (unauthorized invalid)
  | .ok payload =>
    match findActiveUser t payload.sub payload.tenant_id with
    | .error e => throw (.unhandled e)
    | .ok none => throw (unauthorized unavailable)
    | .ok (some user) => pure user

/-- `refresh_access_token`. -/
def refreshAccessToken (services : Services τ) (t : AccountTables) (now later : Datetime)
    (refreshToken : τ) : Endpoint (AccessTokenResponse τ) := do
  let user ← accountOfToken services t now refreshToken .refresh
    "Invalid or expired refresh token." "Refresh token user is unavailable."
  pure
    { access_token := services.tokenFor user .access later
      token_type := "bearer"
      expires_in := services.settings.access_token_expire_minutes * 60 }

def getCurrentUser (services : Services τ) (t : AccountTables) (now : Datetime)
    (token : τ) : Endpoint Account :=
  accountOfToken services t now token .access "Invalid or expired authentication token."
    "Authenticated user is unavailable."

end DataChat.Auth
