import Stratos.Jetstream.PortalProxy
import Stratos.Lib.Base64

/-!
# The claims of a JWT

The parts of a JWT are in base64url, and `GetUserTokenInfo` decodes the second with
`base64.RawStdEncoding`, whose alphabet has `+` and `/` in place of `-` and `_`. So the claims of a
token are read if and only if its payload has neither of these (`getUserTokenInfo_jwt_iff`), which
is a matter of the bits of the claims : `us?` as a user is enough to fail
(`not_getUserTokenInfo_jwt_underscore`).
-/

open Lib

namespace Stratos

/-- The portal proxy with the decoder that `GetUserTokenInfo` uses. -/
def PortalProxy.withRawStdEncoding (P : PortalProxy) : PortalProxy :=
  { P with decodeBase64 := Base64.std.decode }

/-- A JWT with the claims `claims`, after a scheme if it has one. -/
def jwt (scheme header claims signature : Bytes) : Bytes :=
  scheme ++ (header ++ '.'.toUInt8 :: (Base64.url.encode claims ++ '.'.toUInt8 :: signature))

/-- What `GetUserTokenInfo` makes of the second part. -/
def PortalProxy.payloadInfo (P : PortalProxy) (payload : Bytes) :
    Except GoError JWTUserTokenInfo :=
  match P.decodeBase64 payload with
  | none => .error (.new "Unable to decode token string.")
  | some decoded =>
    match P.unmarshalUserTokenInfo decoded with
    | none => .error (.new "Failed to unmarshall decoded token.")
    | some u => .ok u

/-- A prefix without a dot is taken from the first part only. -/
theorem exists_trimPrefix {pre header : Bytes} (rest : Bytes) (hpre : '.'.toUInt8 ∉ pre)
    (hheader : '.'.toUInt8 ∉ header) : ∃ header', '.'.toUInt8 ∉ header' ∧
      trimPrefix (header ++ '.'.toUInt8 :: rest) pre = header' ++ '.'.toUInt8 :: rest := by
  rw [trimPrefix]
  split_ifs with h
  · obtain ⟨t, ht⟩ := List.isPrefixOf_iff_prefix.1 h
    rw [← ht, List.drop_left]
    obtain ⟨a, hpre', hrest⟩ | ⟨a, rfl, rfl⟩ := List.append_eq_append_iff.1 ht.symm
    · rcases a with _ | ⟨b, a⟩
      · exact ⟨[], List.not_mem_nil, by simpa using hrest.symm⟩
      · obtain ⟨rfl, -⟩ := List.cons.inj hrest
        exact absurd (by simp [hpre']) hpre
    · exact ⟨a, fun ha => hheader (List.mem_append_right pre ha), rfl⟩
  · exact ⟨header, hheader, rfl⟩

theorem dot_notMem_encode (claims : Bytes) : '.'.toUInt8 ∉ Base64.url.encode claims := by
  intro h
  obtain ⟨i, -, hi⟩ := List.mem_map.1 h
  have hchar : ∀ i, Base64.url.char i ≠ '.'.toUInt8 := by decide
  exact hchar i hi

section Jwt

variable {P : PortalProxy} {scheme header claims signature : Bytes} {u : JWTUserTokenInfo}

theorem getUserTokenInfo_jwt (hscheme : '.'.toUInt8 ∉ scheme) (hheader : '.'.toUInt8 ∉ header) :
    P.getUserTokenInfo (jwt scheme header claims signature) =
      P.payloadInfo (Base64.url.encode claims) := by
  have hbearer : '.'.toUInt8 ∉ goBytes "bearer " := by decide
  have hfirst : '.'.toUInt8 ∉ scheme ++ header := by simp [hscheme, hheader]
  obtain ⟨header', hheader', htrim⟩ := exists_trimPrefix
    (Base64.url.encode claims ++ '.'.toUInt8 :: signature) hbearer hfirst
  obtain ⟨s, rest, hsignature⟩ := List.exists_cons_of_ne_nil
    (List.splitOn_ne_nil '.'.toUInt8 signature)
  have hsplit : (header' ++ '.'.toUInt8 :: (Base64.url.encode claims ++
      '.'.toUInt8 :: signature)).splitOn '.'.toUInt8 =
        header' :: Base64.url.encode claims :: s :: rest := by
    rw [List.splitOn_append_cons_self_of_not_mem hheader',
      List.splitOn_append_cons_self_of_not_mem (dot_notMem_encode claims), hsignature]
  rw [PortalProxy.getUserTokenInfo, jwt, ← List.append_assoc, htrim]
  rw [hsplit]
  rfl

/-- A token is read exactly where the text of its claims has neither of the two characters in which
the alphabets differ. -/
theorem getUserTokenInfo_jwt_iff (hscheme : scheme = [] ∨ scheme = goBytes "bearer ")
    (hheader : '.'.toUInt8 ∉ header) (hclaims : P.unmarshalUserTokenInfo claims = some u) :
    P.withRawStdEncoding.getUserTokenInfo (jwt scheme header claims signature) = .ok u ↔
      '-'.toUInt8 ∉ Base64.url.encode claims ∧ '_'.toUInt8 ∉ Base64.url.encode claims := by
  have hdot : '.'.toUInt8 ∉ scheme := by
    rcases hscheme with rfl | rfl <;> decide
  rw [getUserTokenInfo_jwt hdot hheader]
  obtain ⟨hdecode, h⟩ | ⟨hdecode, h⟩ := Base64.std_decode_url_encode claims
  · refine iff_of_true ?_ h
    simp [PortalProxy.payloadInfo, PortalProxy.withRawStdEncoding, hdecode, hclaims]
  · refine iff_of_false ?_ h
    simp [PortalProxy.payloadInfo, PortalProxy.withRawStdEncoding, hdecode]

/-- The claims of `sampleInfo` are read. -/
theorem getUserTokenInfo_jwt_sample :
    samplePortalProxy.withRawStdEncoding.getUserTokenInfo
      (jwt (goBytes "bearer ") (goBytes "e30") sampleClaims (goBytes "e30")) = .ok sampleInfo :=
  (getUserTokenInfo_jwt_iff (Or.inr rfl) (by decide) (by decide)).2 (by decide)

/-- `{"user_id":"us?"}`, whose base64url has a `_`. -/
def questionClaims : Bytes := goBytes "\x7b\"user_id\":\"us?\"\x7d"

/-- A portal proxy that reads `questionClaims`. -/
def questionPortalProxy : PortalProxy :=
  { samplePortalProxy with
    unmarshalUserTokenInfo := fun b =>
      if b = questionClaims then some ⟨"us?", "", 0, []⟩ else none }

/-- A question mark in the name of a user, and the token is not read. -/
theorem not_getUserTokenInfo_jwt_underscore :
    questionPortalProxy.unmarshalUserTokenInfo questionClaims = some ⟨"us?", "", 0, []⟩ ∧
    questionPortalProxy.withRawStdEncoding.getUserTokenInfo
      (jwt [] (goBytes "e30") questionClaims (goBytes "e30")) =
        .error (.new "Unable to decode token string.") := by
  refine ⟨by decide, ?_⟩
  rw [getUserTokenInfo_jwt List.not_mem_nil (by decide)]
  have hdecode : questionPortalProxy.withRawStdEncoding.decodeBase64
      (Base64.url.encode questionClaims) = none := by decide
  rw [PortalProxy.payloadInfo, hdecode]

end Jwt

end Stratos
