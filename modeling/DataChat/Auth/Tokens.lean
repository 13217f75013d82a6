import DataChat.Auth.Definitions

/-!
# Tokens

What `decode_token` says of a token that `create_token` has made.

* `decodeToken_createToken`: the answer at any time, for any expected type.
* `decodeToken_tokenFor`: the same for the tokens that the endpoints hand out.
* `decodeToken_ok_iff`: what an accepted token says.
-/

namespace DataChat.Auth

open Platform

variable {τ : Type}

/-! ## Claims -/

theorem intOfJson_jsonOfInt (n : Int) : intOfJson (jsonOfInt n) = some n := by
  have htext : (toString n.natAbs).toList = Nat.toDigits 10 n.natAbs := Nat.toList_repr
  have hnonempty : toString n.natAbs ≠ "" := by
    intro hempty
    rw [hempty] at htext
    exact Nat.toDigits_ne_nil htext.symm
  have hdigits : (Nat.toDigits 10 n.natAbs).all Char.isDigit = true := by
    rw [List.all_eq_true]
    intro c hc
    exact Nat.isDigit_of_mem_toDigits (by omega) (by omega) hc
  simp only [intOfJson, jsonOfInt]
  rw [htext, if_pos ⟨hnonempty, hdigits⟩, Nat.ofDigitChars_ten_toDigits]
  simp only [decide_eq_true_eq, Option.some.injEq]
  split <;> omega

theorem find_tokenType (tokenType : TokenType) :
    [TokenType.access, .refresh].find? (fun t => t.value = tokenType.value) = some tokenType := by
  cases tokenType <;> rfl

section Claims

variable {userId tenantId : Uuid} {tokenType : TokenType} {issued expires : Datetime}
  {additional : JsonObject}

theorem get_exp : JsonObject.get
    (ownClaims userId tenantId tokenType issued expires ++ additional) "exp" =
      some (jsonOfInt (timestamp expires)) := rfl

theorem validatePayload_ownClaims :
    validatePayload (ownClaims userId tenantId tokenType issued expires ++ additional) =
      some ⟨userId, tenantId, tokenType, readTimestamp (timestamp issued),
        readTimestamp (timestamp expires)⟩ := by
  have hiat : JsonObject.get (ownClaims userId tenantId tokenType issued expires ++ additional)
      "iat" = some (jsonOfInt (timestamp issued)) := rfl
  have htype : JsonObject.get (ownClaims userId tenantId tokenType issued expires ++ additional)
      "type" = some (.string tokenType.value) := rfl
  have hsub : JsonObject.get (ownClaims userId tenantId tokenType issued expires ++ additional)
      "sub" = some (.string userId) := rfl
  have htenant : JsonObject.get (ownClaims userId tenantId tokenType issued expires ++ additional)
      "tenant_id" = some (.string tenantId) := rfl
  simp [validatePayload, hsub, htenant, htype, hiat, get_exp, textOfJson, find_tokenType,
    intOfJson_jsonOfInt]

theorem joseChecks_disjoint : joseChecks.Disjoint protectedClaims := by
  simp [joseChecks, protectedClaims]

/-- `jose` accepts the claims until they expire, when nothing is added that it checks. -/
theorem acceptable_ownClaims (hnodup : (additional.map Prod.fst).Nodup)
    (hprotected : ∀ key ∈ additional.map Prod.fst, key ∉ protectedClaims)
    (hchecks : ∀ key ∈ joseChecks, key ∉ additional.map Prod.fst) {now : Int}
    (hnow : now ≤ timestamp expires) :
    Acceptable now (ownClaims userId tenantId tokenType issued expires ++ additional) where
  nodup := by
    rw [List.map_append, List.nodup_append]
    refine ⟨by simp [ownClaims], hnodup, fun key hkey key' hkey' heq => ?_⟩
    subst heq
    exact hprotected key hkey' (by simpa [ownClaims, protectedClaims] using hkey)
  sub := ⟨userId, rfl⟩
  iat := ⟨timestamp issued, rfl⟩
  exp := ⟨timestamp expires, rfl, hnow⟩
  others := by
    intro key hkey
    rw [JsonObject.get, List.lookup_eq_none_iff]
    intro claim hclaim
    rcases List.mem_append.mp hclaim with hown | hadded
    · have hname : claim.1 ∈ protectedClaims := List.mem_map_of_mem hown
      simpa using fun heq : key = claim.1 => joseChecks_disjoint hkey (heq ▸ hname)
    · have hmem : claim.1 ∈ additional.map Prod.fst := List.mem_map_of_mem hadded
      simpa using fun heq : key = claim.1 => hchecks key hkey (heq ▸ hmem)

end Claims

/-! ## Decoding -/

/-- Whether the type of a token is the expected one, if one is expected. -/
def typeChecked (payload : TokenPayload) (expectedType : Option TokenType) :
    Except InvalidTokenError TokenPayload :=
  if ∃ expected ∈ expectedType, payload.type ≠ expected then
    throw ⟨"Token type is invalid."⟩
  else pure payload

theorem decodeToken_ok_iff {jose : Jose τ} {now : Datetime} {token : τ}
    {expectedType : Option TokenType} {payload : TokenPayload} :
    decodeToken jose now token expectedType = .ok payload ↔
      jose.isEmpty token = false ∧
        (∃ claims, jose.decode (timestamp now) token = some claims ∧
          validatePayload claims = some payload) ∧
        ∀ expected ∈ expectedType, payload.type = expected := by
  unfold decodeToken
  split
  · rename_i hempty
    simp [hempty, Outcome.throw_ne_ok]
  · rename_i hempty
    rw [Bool.not_eq_true] at hempty
    rw [← Option.bind_eq_some_iff, hempty]
    cases (jose.decode (timestamp now) token).bind validatePayload with
    | none => simp [Outcome.throw_ne_ok]
    | some found =>
      simp only [Outcome.guard_ok_iff, Outcome.pure_ok_iff, Option.some.injEq, ne_eq, true_and,
        not_exists, not_and, not_not]
      constructor
      · rintro ⟨htype, rfl⟩
        exact ⟨rfl, htype⟩
      · rintro ⟨rfl, htype⟩
        exact ⟨htype, rfl⟩

/-- The answer to a token that was signed here. -/
theorem decodeToken_encode (jose : Jose τ) (userId tenantId : Uuid) (tokenType : TokenType)
    (issued expires : Datetime) {additional : JsonObject}
    (hnodup : (additional.map Prod.fst).Nodup)
    (hprotected : ∀ key ∈ additional.map Prod.fst, key ∉ protectedClaims)
    (hchecks : ∀ key ∈ joseChecks, key ∉ additional.map Prod.fst) (now : Datetime)
    (expectedType : Option TokenType) :
    decodeToken jose now
        (jose.encode (ownClaims userId tenantId tokenType issued expires ++ additional))
        expectedType =
      if timestamp now ≤ timestamp expires then
        typeChecked ⟨userId, tenantId, tokenType, readTimestamp (timestamp issued),
          readTimestamp (timestamp expires)⟩ expectedType
      else throw ⟨"Token is invalid or expired."⟩ := by
  unfold decodeToken
  rw [jose.encode_nonempty, if_neg Bool.false_ne_true]
  by_cases hnow : timestamp now ≤ timestamp expires
  · rw [if_pos hnow, jose.decode_encode _ _ (acceptable_ownClaims hnodup hprotected hchecks hnow),
      Option.bind_some, validatePayload_ownClaims]
    rfl
  · have hnone : jose.decode (timestamp now)
        (jose.encode (ownClaims userId tenantId tokenType issued expires ++ additional)) = none := by
      rw [Option.eq_none_iff_forall_ne_some]
      intro claims hclaims
      obtain rfl := jose.decode_signed _ _ _ hclaims
      exact hnow (jose.decode_expired _ _ _ _ hclaims get_exp)
    rw [if_neg hnow, hnone]
    rfl

/-- Tokens that are not encrypted, signed or encoded. -/
def plainJose : Jose JsonObject where
  encode claims := claims
  decode now claims :=
    if ((claims.get "exp").bind intOfJson).all (fun expires => now ≤ expires) then some claims
    else none
  isEmpty _ := false
  encode_nonempty _ := rfl
  decode_encode := by
    intro now claims h
    obtain ⟨expires, hexp, hnow⟩ := h.exp
    simp [hexp, intOfJson_jsonOfInt, hnow]
  decode_signed := by
    intro now claims claims' h
    simp only [Option.ite_none_right_eq_some, Option.some.injEq] at h
    exact h.2.symm
  decode_expired := by
    intro now token claims expires h hexp
    simp only [Option.ite_none_right_eq_some, Option.some.injEq] at h
    obtain ⟨hall, rfl⟩ := h
    simpa [hexp, intOfJson_jsonOfInt] using hall

def deviceClaims : Dict String Json := ⟨[("device", .string "phone")], by decide⟩

theorem decodeToken_tokenFor (services : Services τ) (user : Account) (tokenType : TokenType)
    (issued now : Datetime) (expectedType : TokenType) :
    decodeToken services.jose now (services.tokenFor user tokenType issued) (some expectedType) =
      if timestamp now ≤ timestamp (issued + services.settings.lifetime tokenType) then
        if tokenType = expectedType then
          .ok ⟨user.id, user.tenant_id, tokenType, readTimestamp (timestamp issued),
            readTimestamp (timestamp (issued + services.settings.lifetime tokenType))⟩
        else .error ⟨"Token type is invalid."⟩
      else .error ⟨"Token is invalid or expired."⟩ := by
  have hnodup : (([] : JsonObject).map Prod.fst).Nodup := List.nodup_nil
  have hread := decodeToken_encode services.jose user.id user.tenant_id tokenType issued
    (issued + services.settings.lifetime tokenType) hnodup (by simp) (by simp) now
    (some expectedType)
  rw [List.append_nil] at hread
  refine hread.trans ?_
  by_cases htype : tokenType = expectedType <;> simp [typeChecked, htype] <;> rfl

end DataChat.Auth
