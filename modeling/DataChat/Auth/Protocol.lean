import DataChat.Auth.Accounts
import DataChat.Auth.Tokens
import DataChat.Library.Logs

/-!
# Sessions

Any number of clients log in, renew their access and make requests, in any order, while accounts
come, change and go. An endpoint reads the database once, and this is the moment when it happens;
it reads a token some time before and signs tokens some time after.

* `request_traces_to_login`: whom a request is answered as.
* `issued_token_answers`: what becomes of a token that was handed out.
-/

namespace DataChat.Auth

open Relational Platform Logs

variable {τ : Type}

structure Now where
  accounts : AccountStore
  clock : Datetime

inductive Event (τ : Type)
  | wait (duration : Nat)
  /-- The accounts are changed, in whatever way. -/
  | administer (accounts : AccountStore)
  | login (request : LoginRequest) (untilSigned between : Nat)
  | refresh (token : τ) (sinceRead untilSigned : Nat)
  | request (token : τ) (sinceRead : Nat)

inductive Answer (τ : Type)
  | none
  | login (response : Endpoint (TokenResponse τ))
  | refresh (response : Endpoint (AccessTokenResponse τ))
  | request (response : Endpoint Account)

def step (services : Services τ) : Logs.Step Now (Event τ) (Answer τ)
  | s, .wait duration => (.none, { s with clock := s.clock + duration })
  | s, .administer accounts => (.none, { s with accounts := accounts })
  | s, .login request untilSigned between =>
    (.login (login services s.accounts.toAccountTables (s.clock + untilSigned)
      (s.clock + untilSigned + between) request), s)
  | s, .refresh token sinceRead untilSigned =>
    (.refresh (refreshAccessToken services s.accounts.toAccountTables (s.clock - sinceRead)
      (s.clock + untilSigned) token), s)
  | s, .request token sinceRead =>
    (.request (getCurrentUser services s.accounts.toAccountTables (s.clock - sinceRead) token), s)

abbrev SessionEntry (τ : Type) := Entry Now (Event τ) (Answer τ)

/-! ## Who holds which tokens -/

def Event.presented : Event τ → List τ
  | .refresh token _ _ => [token]
  | .request token _ => [token]
  | _ => []

def Answer.tokens : Answer τ → List τ
  | .login (.ok response) => [response.access_token, response.refresh_token]
  | .refresh (.ok response) => [response.access_token]
  | _ => []

/-- Nobody else has the secret key: `jose` reads nothing in a token that is presented but what it
reads in one that was handed out before. -/
def Unforgeable (jose : Jose τ) : List (SessionEntry τ) → Prop :=
  Entrywise (fun before entry => ∀ token ∈ entry.event.presented, ∀ now claims,
    jose.decode now token = some claims →
      ∃ earlier ∈ before, ∃ issued ∈ earlier.answer.tokens, jose.decode now issued = some claims)

/-- The entry hands out a token of this type, for this account, that is signed at this time. -/
inductive Issues (services : Services τ) (entry : SessionEntry τ) :
    TokenType → Account → Datetime → Prop
  | loginAccess {request : LoginRequest} {untilSigned between : Nat} {account : Account}
      (event : entry.event = .login request untilSigned between)
      (authenticated : Authenticated services entry.state.accounts.toAccountTables request account) :
      Issues services entry .access account (entry.state.clock + untilSigned)
  | loginRefresh {request : LoginRequest} {untilSigned between : Nat} {account : Account}
      (event : entry.event = .login request untilSigned between)
      (authenticated : Authenticated services entry.state.accounts.toAccountTables request account) :
      Issues services entry .refresh account (entry.state.clock + untilSigned + between)
  | refreshAccess {token : τ} {sinceRead untilSigned : Nat} {account : Account}
      (event : entry.event = .refresh token sinceRead untilSigned)
      (accepted : accountOfToken services entry.state.accounts.toAccountTables
        (entry.state.clock - sinceRead) token .refresh "Invalid or expired refresh token."
        "Refresh token user is unavailable." = .ok account) :
      Issues services entry .access account (entry.state.clock + untilSigned)

/-! ## Endpoints -/

theorem login_ok_iff (services : Services τ) (t : AccountStore) (now later : Datetime)
    (request : LoginRequest) (response : TokenResponse τ) :
    login services t.toAccountTables now later request = .ok response ↔
      ∃ user, Authenticated services t.toAccountTables request user ∧
        response = ⟨services.tokenFor user .access now, services.tokenFor user .refresh later,
          "bearer", services.settings.access_token_expire_minutes * 60⟩ := by
  have hiff := authenticateUser_ok_iff services t.keys request
  unfold login
  split
  · rename_i message herror
    simp [Outcome.throw_ne_ok, ← hiff, herror]
  · rename_i e _ herror
    simp [Outcome.throw_ne_ok, ← hiff, herror]
  · rename_i user hok
    simp only [← hiff, hok, Except.ok.injEq, Outcome.pure_ok_iff]
    constructor
    · rintro rfl
      exact ⟨user, rfl, rfl⟩
    · rintro ⟨_, rfl, rfl⟩
      rfl

theorem accountOfToken_ok_iff (services : Services τ) (t : AccountStore) (now : Datetime)
    (token : τ) (expectedType : TokenType) (invalid unavailable : String) (user : Account) :
    accountOfToken services t.toAccountTables now token expectedType invalid unavailable =
        .ok user ↔
      Active t.toAccountTables user ∧ ∃ payload,
        decodeToken services.jose now token (some expectedType) = .ok payload ∧
          user.id = payload.sub ∧ user.tenant_id = payload.tenant_id := by
  unfold accountOfToken
  split
  · rename_i e herror
    simp [Outcome.throw_ne_ok, herror]
  · rename_i payload hok
    obtain ⟨found, hfound, hsome⟩ := findActiveUser_eq t.keys payload.sub payload.tenant_id
    rw [hfound]
    cases found with
    | none =>
      have hnobody := (hsome user).not.mp (by simp)
      simpa [Outcome.throw_ne_ok, hok] using hnobody
    | some account =>
      simp only [Outcome.pure_ok_iff, hok, Except.ok.injEq, exists_eq_left']
      rw [← hsome, Option.some.injEq]

/-! ## Tracing a token back -/

theorem issues_of_mem_tokens {services : Services τ} {entry : SessionEntry τ}
    (hanswer : entry.answer = (step services entry.state entry.event).1) {token : τ}
    (hmem : token ∈ entry.answer.tokens) :
    ∃ tokenType account signed, Issues services entry tokenType account signed ∧
      token = services.tokenFor account tokenType signed := by
  rw [hanswer] at hmem
  cases hevent : entry.event with
  | wait duration => simp [hevent, step, Answer.tokens] at hmem
  | administer accounts => simp [hevent, step, Answer.tokens] at hmem
  | request token sinceRead => simp [hevent, step, Answer.tokens] at hmem
  | login request untilSigned between =>
    rw [hevent] at hmem
    simp only [step] at hmem
    cases hlogin : login services entry.state.accounts.toAccountTables
        (entry.state.clock + untilSigned) (entry.state.clock + untilSigned + between) request with
    | error e => simp [hlogin, Answer.tokens] at hmem
    | ok response =>
      obtain ⟨user, hauthenticated, hresponse⟩ := (login_ok_iff ..).mp hlogin
      simp only [hlogin, hresponse, Answer.tokens, List.mem_cons, List.not_mem_nil, or_false] at hmem
      rcases hmem with rfl | rfl
      · exact ⟨_, user, _, .loginAccess hevent hauthenticated, rfl⟩
      · exact ⟨_, user, _, .loginRefresh hevent hauthenticated, rfl⟩
  | refresh presented sinceRead untilSigned =>
    rw [hevent] at hmem
    simp only [step] at hmem
    cases hrefresh : refreshAccessToken services entry.state.accounts.toAccountTables
        (entry.state.clock - sinceRead) (entry.state.clock + untilSigned) presented with
    | error e => simp [hrefresh, Answer.tokens] at hmem
    | ok response =>
      obtain ⟨user, haccepted, hresponse⟩ := Outcome.bind_ok_iff.mp hrefresh
      simp only [hrefresh, ← Outcome.pure_ok_iff.mp hresponse, Answer.tokens,
        List.mem_singleton] at hmem
      exact ⟨_, user, _, .refreshAccess hevent haccepted, hmem⟩

/-- A token that is accepted was handed out before, and has not expired. -/
theorem accepted_traces {services : Services τ} {s : Now} {events : List (Event τ)}
    {before rest : List (SessionEntry τ)} {entry : SessionEntry τ}
    (hlog : log (step services) s events = before ++ entry :: rest)
    (h : Unforgeable services.jose (log (step services) s events)) {token : τ}
    (hpresented : token ∈ entry.event.presented) {now : Datetime} {expectedType : TokenType}
    {invalid unavailable : String} {user : Account}
    (haccepted : accountOfToken services entry.state.accounts.toAccountTables now token
      expectedType invalid unavailable = .ok user) :
    ∃ issuer ∈ before, ∃ account signed, Issues services issuer expectedType account signed ∧
      account.id = user.id ∧ account.tenant_id = user.tenant_id ∧
      timestamp now ≤ timestamp (signed + services.settings.lifetime expectedType) := by
  obtain ⟨-, payload, hdecoded, hid, htenant⟩ := (accountOfToken_ok_iff ..).mp haccepted
  obtain ⟨-, ⟨claims, hclaims, hpayload⟩, htype⟩ := decodeToken_ok_iff.mp hdecoded
  obtain ⟨issuer, hissuer, issued, hissued, hsame⟩ :=
    h before entry rest hlog token hpresented _ _ hclaims
  have hanswer := mem_log (hlog ▸ List.mem_append_left _ hissuer)
  obtain ⟨tokenType, account, signed, hissues, rfl⟩ := issues_of_mem_tokens hanswer hissued
  have hread : decodeToken services.jose now (services.tokenFor account tokenType signed)
      (some expectedType) = .ok payload :=
    decodeToken_ok_iff.mpr ⟨services.jose.encode_nonempty _, ⟨claims, hsame, hpayload⟩, htype⟩
  rw [decodeToken_tokenFor] at hread
  split at hread
  · rename_i hnow
    split at hread
    · rename_i hexpected
      subst hexpected
      obtain rfl := Except.ok.inj hread
      exact ⟨issuer, hissuer, account, signed, hissues, hid.symm, htenant.symm, hnow⟩
    · cases hread
  · cases hread

/-! ## Requests -/

/-- Somebody has logged in with the password of the account, and the access has not expired since,
or it was renewed once, before the refresh token expired and while the account was active. -/
def LoggedIn (services : Services τ) (before : List (SessionEntry τ)) (user : Account)
    (now : Datetime) : Prop :=
  ∃ early login late, before = early ++ login :: late ∧
    ∃ request, ∃ untilSigned between : Nat, ∃ account,
      login.event = .login request untilSigned between ∧
      Authenticated services login.state.accounts.toAccountTables request account ∧
      account.id = user.id ∧ account.tenant_id = user.tenant_id ∧
      (timestamp now ≤ timestamp (login.state.clock + untilSigned +
          services.settings.lifetime .access) ∨
        ∃ refresh ∈ late, ∃ token, ∃ sinceRead untilSigned' : Nat, ∃ account',
          refresh.event = .refresh token sinceRead untilSigned' ∧
          Active refresh.state.accounts.toAccountTables account' ∧
          account'.id = user.id ∧ account'.tenant_id = user.tenant_id ∧
          timestamp (refresh.state.clock - sinceRead) ≤ timestamp (login.state.clock +
            untilSigned + between + services.settings.lifetime .refresh) ∧
          timestamp now ≤ timestamp (refresh.state.clock + untilSigned' +
            services.settings.lifetime .access))

/-- Whoever a request is answered as is active, and has logged in. -/
theorem request_traces_to_login (services : Services τ) (s : Now) (events : List (Event τ))
    (h : Unforgeable services.jose (log (step services) s events)) :
    Entrywise (fun before entry => ∀ token sinceRead user,
      entry.event = .request token sinceRead → entry.answer = .request (.ok user) →
        Active entry.state.accounts.toAccountTables user ∧
          LoggedIn services before user (entry.state.clock - sinceRead))
      (log (step services) s events) := by
  intro before entry rest hlog token sinceRead user hevent hanswer
  have hstep := mem_log (hlog ▸ List.mem_append_right before List.mem_cons_self :
    entry ∈ log (step services) s events)
  rw [hevent] at hstep
  have haccepted := Answer.request.inj (hstep.symm.trans hanswer)
  refine ⟨((accountOfToken_ok_iff ..).mp haccepted).1, ?_⟩
  obtain ⟨issuer, hissuer, account, signed, hissues, hid, htenant, hnow⟩ :=
    accepted_traces hlog h (by simp [hevent, Event.presented]) haccepted
  obtain ⟨early, late, rfl⟩ := List.append_of_mem hissuer
  cases hissues with
  | @loginAccess request untilSigned between _ hlogin hauthenticated =>
    exact ⟨early, issuer, late, rfl, request, untilSigned, between, account, hlogin,
      hauthenticated, hid, htenant, .inl hnow⟩
  | @refreshAccess token' sinceRead' untilSigned' _ hrefresh haccepted' =>
    -- The access token comes from a refresh: its refresh token comes from a login before that.
    have hlog' : log (step services) s events = early ++ issuer :: (late ++ entry :: rest) := by
      rw [hlog]
      simp
    obtain ⟨login, hlogin, first, signed', hissues', hid', htenant', hnow'⟩ :=
      accepted_traces hlog' h (by simp [hrefresh, Event.presented]) haccepted'
    obtain ⟨earlier, between, rfl⟩ := List.append_of_mem hlogin
    cases hissues' with
    | @loginRefresh request untilSigned pause _ hlogin hauthenticated =>
      exact ⟨earlier, login, between ++ issuer :: late, by simp, request, untilSigned, pause,
        first, hlogin, hauthenticated, hid'.trans hid, htenant'.trans htenant,
        .inr ⟨issuer, by simp, token', sinceRead', untilSigned', account, hrefresh,
          ((accountOfToken_ok_iff ..).mp haccepted').1, hid, htenant, hnow', hnow⟩⟩

/-- Clients that present the tokens they were given do not forge any. -/
theorem unforgeable_of_handed_out {jose : Jose τ} {entries : List (SessionEntry τ)}
    (h : Entrywise (fun before entry => ∀ token ∈ entry.event.presented,
      ∃ earlier ∈ before, token ∈ earlier.answer.tokens) entries) : Unforgeable jose entries := by
  intro before entry rest hsplit token hpresented now claims hclaims
  obtain ⟨earlier, hearlier, htoken⟩ := h before entry rest hsplit token hpresented
  exact ⟨earlier, hearlier, token, htoken, hclaims⟩

def sampleServices : Services JsonObject where
  py := asciiCasing
  jose := plainJose
  context :=
    { hash := fun _ password => "$" ++ password
      verify := fun password passwordHash => some (passwordHash = "$" ++ password)
      hash_nonempty := by simp
      verify_hash := by simp }
  settings := ⟨30, 7, by decide, by decide⟩

def sampleUser : Account :=
  { id := "u", tenant_id := "t", is_tenant_admin := true, email := "admin@example.com",
    full_name := none, password_hash := some "$password", status := "active" }

def sampleAccounts : AccountStore :=
  { tenants := [⟨"t", "Demo", "demo", "active"⟩], users := [sampleUser], roles := [],
    user_roles := [], keys := by decide }

def sampleRequest : LoginRequest :=
  ⟨"demo", "admin@example.com", "password", by decide, by decide⟩

def sampleEvents : List (Event JsonObject) :=
  [.login sampleRequest 0 0, .wait 60000000,
    .request (sampleServices.tokenFor sampleUser .access 0) 0]

theorem sample_unforgeable :
    Unforgeable plainJose (log (step sampleServices) ⟨sampleAccounts, 0⟩ sampleEvents) := by
  refine unforgeable_of_handed_out (fun before entry rest hsplit token htoken => ?_)
  match before with
  | [] =>
    obtain ⟨rfl, -⟩ := List.cons.inj hsplit
    cases htoken
  | [first] =>
    obtain ⟨-, hrest⟩ := List.cons.inj hsplit
    obtain ⟨rfl, -⟩ := List.cons.inj hrest
    cases htoken
  | [first, second] =>
    obtain ⟨rfl, hrest⟩ := List.cons.inj hsplit
    obtain ⟨-, hrest⟩ := List.cons.inj hrest
    obtain ⟨rfl, -⟩ := List.cons.inj hrest
    obtain rfl := List.mem_singleton.mp htoken
    exact ⟨_, List.mem_cons_self, List.mem_cons_self⟩
  | _ :: _ :: _ :: _ => simp [log, sampleEvents] at hsplit

theorem request_traces_to_login_sample :
    ∃ before, LoggedIn sampleServices before sampleUser 60000000 :=
  ⟨_, (request_traces_to_login sampleServices ⟨sampleAccounts, 0⟩ sampleEvents sample_unforgeable
    [_, _] _ [] rfl _ 0 sampleUser rfl rfl).2⟩

/-! ## The tokens of a login -/

theorem accountOfToken_tokenFor (services : Services τ) (t : AccountStore) (account : Account)
    (tokenType : TokenType) (signed now : Datetime) (invalid unavailable : String)
    (user : Account) :
    accountOfToken services t.toAccountTables now (services.tokenFor account tokenType signed)
        tokenType invalid unavailable = .ok user ↔
      Active t.toAccountTables user ∧ user.id = account.id ∧ user.tenant_id = account.tenant_id ∧
        timestamp now ≤ timestamp (signed + services.settings.lifetime tokenType) := by
  rw [accountOfToken_ok_iff, decodeToken_tokenFor]
  by_cases hnow : timestamp now ≤ timestamp (signed + services.settings.lifetime tokenType) <;>
    simp [hnow]

theorem accountOfToken_other (services : Services τ) (t : AccountStore) (account : Account)
    {tokenType expectedType : TokenType} (htype : tokenType ≠ expectedType)
    (signed now : Datetime) (invalid unavailable : String) :
    accountOfToken services t.toAccountTables now (services.tokenFor account tokenType signed)
      expectedType invalid unavailable = .error (unauthorized invalid) := by
  rw [accountOfToken, decodeToken_tokenFor, if_neg htype]
  by_cases hnow : timestamp now ≤ timestamp (signed + services.settings.lifetime tokenType) <;>
    simp only [hnow, if_true, if_false] <;> rfl

/-- Whatever happens in between, the tokens of a login are good for their own endpoint, until they
expire and while the account is active, and for no other. -/
theorem login_tokens_answer (services : Services τ) (s : Now) (events : List (Event τ)) :
    ∀ entry ∈ log (step services) s events, ∀ request untilSigned between response,
      entry.event = .login request untilSigned between → entry.answer = .login (.ok response) →
      ∃ account, Authenticated services entry.state.accounts.toAccountTables request account ∧
        ∀ other ∈ log (step services) s events,
          (∀ sinceRead, other.event = .request response.access_token sinceRead →
            ∀ user, other.answer = .request (.ok user) ↔
              Active other.state.accounts.toAccountTables user ∧ user.id = account.id ∧
                user.tenant_id = account.tenant_id ∧
                timestamp (other.state.clock - sinceRead) ≤ timestamp (entry.state.clock +
                  untilSigned + services.settings.lifetime .access)) ∧
          (∀ sinceRead untilSigned',
            other.event = .refresh response.refresh_token sinceRead untilSigned' →
            ((∃ renewed, other.answer = .refresh (.ok renewed)) ↔
              (∃ user, Active other.state.accounts.toAccountTables user ∧ user.id = account.id ∧
                user.tenant_id = account.tenant_id) ∧
              timestamp (other.state.clock - sinceRead) ≤ timestamp (entry.state.clock +
                untilSigned + between + services.settings.lifetime .refresh))) ∧
          (∀ sinceRead, other.event = .request response.refresh_token sinceRead →
            other.answer = .request (.error
              (unauthorized "Invalid or expired authentication token."))) ∧
          (∀ sinceRead untilSigned',
            other.event = .refresh response.access_token sinceRead untilSigned' →
            other.answer = .refresh (.error
              (unauthorized "Invalid or expired refresh token."))) := by
  intro entry hentry request untilSigned between response hevent hanswer
  have hlogin := mem_log hentry
  rw [hevent] at hlogin
  obtain ⟨account, hauthenticated, rfl⟩ := (login_ok_iff ..).mp
    (Answer.login.inj (hlogin.symm.trans hanswer))
  refine ⟨account, hauthenticated, fun other hother => ⟨?_, ?_, ?_, ?_⟩⟩
  · intro sinceRead hrequest user
    rw [mem_log hother, hrequest]
    simp only [step, Answer.request.injEq, getCurrentUser]
    exact accountOfToken_tokenFor ..
  · intro sinceRead untilSigned' hrefresh
    rw [mem_log hother, hrefresh]
    simp only [step, Answer.refresh.injEq, refreshAccessToken, Outcome.bind_ok_iff,
      Outcome.pure_ok_iff, accountOfToken_tokenFor]
    constructor
    · rintro ⟨_, user, ⟨hactive, hid, htenant, hnow⟩, -⟩
      exact ⟨⟨user, hactive, hid, htenant⟩, hnow⟩
    · rintro ⟨⟨user, hactive, hid, htenant⟩, hnow⟩
      exact ⟨_, user, ⟨hactive, hid, htenant, hnow⟩, rfl⟩
  · intro sinceRead hrequest
    rw [mem_log hother, hrequest]
    simp only [step, getCurrentUser]
    rw [accountOfToken_other services _ account (by decide)]
  · intro sinceRead untilSigned' hrefresh
    rw [mem_log hother, hrefresh]
    simp only [step, refreshAccessToken]
    rw [accountOfToken_other services _ account (by decide)]
    rfl

def sessionEvents : List (Event JsonObject) :=
  [.login sampleRequest 0 0, .wait 60000000,
    .request (sampleServices.tokenFor sampleUser .access 0) 0,
    .request (sampleServices.tokenFor sampleUser .refresh 0) 0, .wait 3600000000,
    .request (sampleServices.tokenFor sampleUser .access 0) 0,
    .refresh (sampleServices.tokenFor sampleUser .refresh 0) 0 0]

def session : List (SessionEntry JsonObject) :=
  log (step sampleServices) ⟨sampleAccounts, 0⟩ sessionEvents

/-- One minute after the login the access token is accepted and the refresh token is not; an hour
later the access token has expired, and it can be renewed. -/
theorem login_tokens_answer_sample :
    ∃ account, Authenticated sampleServices sampleAccounts.toAccountTables sampleRequest account ∧
      session[2].answer = .request (.ok account) ∧
      session[3].answer =
        .request (.error (unauthorized "Invalid or expired authentication token.")) ∧
      (∀ user, session[5].answer ≠ .request (.ok user)) ∧
      ∃ renewed, session[6].answer = .refresh (.ok renewed) := by
  obtain ⟨account, hauthenticated, hothers⟩ := login_tokens_answer sampleServices
    ⟨sampleAccounts, 0⟩ sessionEvents session[0] (List.getElem_mem _) sampleRequest 0 0 _ rfl rfl
  refine ⟨account, hauthenticated, ?_, ?_, fun user hanswer => ?_, ?_⟩
  · exact ((hothers session[2] (List.getElem_mem _)).1 0 rfl account).mpr
      ⟨hauthenticated.active, rfl, rfl, by decide⟩
  · exact (hothers session[3] (List.getElem_mem _)).2.2.1 0 rfl
  · have hnow := (((hothers session[5] (List.getElem_mem _)).1 0 rfl user).mp hanswer).2.2.2
    exact absurd hnow (by decide)
  · exact ((hothers session[6] (List.getElem_mem _)).2.1 0 0 rfl).mpr
      ⟨⟨account, hauthenticated.active, rfl, rfl⟩, by decide⟩

end DataChat.Auth
