import Stratos.Lib.GoText
import Stratos.Lib.Lists

/-!
# The answer of a proxied request

A request can go to many endpoints. `buildJSONResponse` of `passthrough.go` makes an entry for
each of them : the body of its response, or an error object. `sendProxiedResponse` encodes the
entries as one JSON object.

`AnswersAll` says that the answer is a JSON object with one entry for each endpoint, an error
object for each error and the value of the body for the others. `answersAll_iff` says for which
responses that is so. One body that is no JSON leaves the client without an answer
(`not_answersAll_html`), and the body of an error is quoted in the syntax of Go, which the encoder
may reject.
-/

open Lib Lib.Json Lib.GoText

namespace Stratos

/-! ## Responses -/

/-- The guid of an endpoint, a text in UTF-8. -/
abbrev CnsiGuid := { guid : List UInt8 // sanitize guid = guid }

/-- The fields of a `CNSIRequest` that its response sets. -/
structure CNSIRequest where
  statusCode : ℤ
  status : List UInt8
  response : Option (List UInt8)
  /-- The text of the error. -/
  error : Option (List UInt8)

/-- `map[string]*interfaces.CNSIRequest` -/
structure CNSIResponses where
  entries : List (CnsiGuid × CNSIRequest)
  nodup : (entries.map Prod.fst).Nodup

/-- The response of an endpoint. -/
def CNSIResponses.get? (responses : CNSIResponses) (guid : CnsiGuid) : Option CNSIRequest :=
  (responses.entries.find? fun e => e.1 = guid).map Prod.snd

/-- The status of an endpoint that answered with an error. -/
structure PassthroughErrorStatus where
  statusCode : ℤ
  status : List UInt8

/-- `json.RawMessage`. The slice may be `nil`. -/
abbrev RawMessage := Option (List UInt8)

/-- What is told about an endpoint that answered with an error. -/
structure PassthroughError where
  error : PassthroughErrorStatus
  errorResponse : RawMessage

/-- A text in ASCII. -/
def asciiBytes (s : String) : List UInt8 := s.toList.map fun c => UInt8.ofNat c.toNat

/-- The text `null`. -/
def nullTokens : List RawToken := [.word ⟨nullBytes, by decide⟩]

/-- What the encoder writes of a raw message. -/
def rawTokens : RawMessage → Option (List RawToken)
  | none => some nullTokens
  | some bytes => compact bytes

/-- The name of a property as a string. -/
def key (name : String) : List StrItem := encodeString (asciiBytes name)

/-- `json.Marshal`. The status code is not negative where it is called. -/
def PassthroughError.marshal (e : PassthroughError) : Option (List UInt8) :=
  (rawTokens e.errorResponse).map fun errorResponse => write <| objectTokens
    [(key "error", objectTokens
        [(key "statusCode", [.word (number e.error.statusCode.toNat)]),
          (key "status", [.str (encodeString e.error.status)])]),
      (key "errorResponse", errorResponse)]

section Build

-- `isPrint` is `strconv.IsPrint` above ASCII. `inRange` says that a number fits in a `float64`.
variable (isPrint : ℕ → Bool) (inRange : List UInt8 → Bool)

/-- `json.Unmarshal` returns no error. -/
def isValidJSON (data : List UInt8) : Bool :=
  (read data).isSome && ((lex data).getD []).all fun t =>
    match t with
    | .word w => isLiteral w.1 || inRange w.1
    | _ => true

/-- The status of the error, with a negative code when there is none. -/
def errorStatus (cnsiResponse : CNSIRequest) : PassthroughErrorStatus :=
  if 400 ≤ cnsiResponse.statusCode then
    if cnsiResponse.statusCode ≤ 0 then ⟨500, asciiBytes "Failed to proxy request"⟩
    else ⟨cnsiResponse.statusCode, cnsiResponse.status⟩
  else match cnsiResponse.error with
    | some text => ⟨500, text⟩
    | none => ⟨-1, []⟩

/-- The body of a response that is an error, as a string if it is no JSON. -/
def errorResponse (cnsiResponse : CNSIRequest) : RawMessage :=
  if 400 ≤ cnsiResponse.statusCode then
    let body := cnsiResponse.response.getD []
    some (if isValidJSON inRange body then body else quote isPrint body)
  else none

/-- The entry of a response. It is a pointer to a raw message. -/
def endpointEntry (cnsiResponse : CNSIRequest) : Option RawMessage :=
  let status := errorStatus cnsiResponse
  if 0 ≤ status.statusCode then
    -- The error of `json.Marshal` is not looked at.
    some (PassthroughError.marshal ⟨status, errorResponse isPrint inRange cnsiResponse⟩)
  else
    -- The error is `nil` here.
    let response := cnsiResponse.response.getD []
    if 0 < response.length then some (some response) else none

/-- One turn of the loop. A response that is missing is dereferenced. -/
def buildEntry (cnsiResponse : Option CNSIRequest) : Option (Option RawMessage) :=
  cnsiResponse.map (endpointEntry isPrint inRange)

/-- The guids are different from each other. -/
def buildJSONResponse (cnsiList : List CnsiGuid) (responses : CNSIResponses) :
    Option (List (CnsiGuid × Option RawMessage)) :=
  cnsiList.mapM fun guid =>
    (buildEntry isPrint inRange (responses.get? guid)).map fun entry => (guid, entry)

/-- The value of an entry of a map. -/
def entryTokens : Option RawMessage → Option (List RawToken)
  | none => some nullTokens
  | some raw => rawTokens raw

/-- The encoder writes the keys of a map in order. -/
def sortedEntries {α : Type} (m : List (CnsiGuid × α)) : List (CnsiGuid × α) :=
  m.mergeSort fun e e' => decide (e.1.1 ≤ e'.1.1)

/-- `json.NewEncoder(w).Encode(m)`. Nothing is written when there is an error. -/
def encode (m : List (CnsiGuid × Option RawMessage)) : Option (List UInt8) := do
  let fields ← (sortedEntries m).mapM fun e =>
    (entryTokens e.2).map fun tokens => (encodeString e.1.1, tokens)
  return write (objectTokens fields) ++ [0x0a]

/-- What the client gets. -/
inductive ProxiedAnswer
  /-- The response of the first endpoint. -/
  | passthrough (statusCode : ℤ) (body : List UInt8)
  | json (body : List UInt8)
  /-- The answer could not be encoded. -/
  | failed
  | timedOut

/-- `none` is a panic. `cnsiList` has the keys of the map, in any order. -/
def sendProxiedResponse (shouldPassthrough : Bool) (cnsiList : List CnsiGuid)
    (responses : CNSIResponses) : Option ProxiedAnswer :=
  if shouldPassthrough then do
    let cnsiGUID ← cnsiList.head?
    match responses.get? cnsiGUID with
    | none => return .timedOut
    | some res => return .passthrough res.statusCode (res.response.getD [])
  else do
    let jsonResponse ← buildJSONResponse isPrint inRange cnsiList responses
    match encode jsonResponse with
    | some body => return .json body
    | none => return .failed

end Build

/-! ## The property -/

/-- The endpoint could not be reached, or answered with an error. -/
def CNSIRequest.IsError (r : CNSIRequest) : Prop := r.error.isSome ∨ 400 ≤ r.statusCode

/-- The object of an error with its status. -/
def errorValue (status : PassthroughErrorStatus) (response : Value) : Value := .obj
  [(textOf (asciiBytes "error"), .obj
      [(textOf (asciiBytes "statusCode"), .word (number status.statusCode.toNat)),
        (textOf (asciiBytes "status"), .str (textOf status.status))]),
    (textOf (asciiBytes "errorResponse"), response)]

/-- What is answered for an endpoint : the error with its status code and text, or the value of
the body. -/
def EntryIs (r : CNSIRequest) (v : Value) : Prop :=
  (r.IsError → ∃ response, v = errorValue (errorStatus r) response) ∧
    (¬r.IsError → ∀ body, read (r.response.getD []) = some body → v = body)

section Property

variable (isPrint : ℕ → Bool) (inRange : List UInt8 → Bool) (responses : CNSIResponses)

/-- The answer is an object with an entry for each endpoint. -/
def AnswersAll : Prop :=
  ∀ cnsiList, cnsiList.Perm (responses.entries.map Prod.fst) → ∃ out fields,
    sendProxiedResponse isPrint inRange false cnsiList responses = some (.json out) ∧
    read out = some (.obj fields) ∧
    (fields.map Prod.fst).Perm (responses.entries.map fun e => textOf e.1.1) ∧
    ∀ e ∈ responses.entries, ∃ v, (textOf e.1.1, v) ∈ fields ∧ EntryIs e.2 v

/-- The body is empty or JSON where it is passed through ; where it comes with an error, it is
JSON, or Go quotes it with the escapes of JSON. -/
structure EntrySafe (r : CNSIRequest) : Prop where
  body : ¬r.IsError → r.response.getD [] = [] ∨ (read (r.response.getD [])).isSome
  error : 400 ≤ r.statusCode → isValidJSON inRange (r.response.getD []) = true ∨
    ∀ rune ∈ runes (r.response.getD []), Escapes isPrint rune

end Property

/-! ## Entries -/

section Entries

variable {isPrint : ℕ → Bool} {inRange : List UInt8 → Bool} {r : CNSIRequest}

theorem isValue_nullTokens : IsValue nullTokens := by
  rfl

theorem isValue_rawTokens {raw : RawMessage} {ts : List RawToken} (h : rawTokens raw = some ts) :
    IsValue ts := by
  rcases raw with _ | bytes
  · rw [← Option.some.inj h]
    exact isValue_nullTokens
  · rcases hread : read bytes with _ | v
    · rw [rawTokens, compact_of_not_read hread] at h
      cases h
    · obtain ⟨ts', hcompact, hparse⟩ := compact_of_read hread
      obtain rfl := Option.some.inj (hcompact.symm.trans h)
      rw [IsValue, hparse]
      rfl

theorem isValue_entryTokens {entry : Option RawMessage} {ts : List RawToken}
    (h : entryTokens entry = some ts) : IsValue ts := by
  rcases entry with _ | raw
  · rw [← Option.some.inj h]
    exact isValue_nullTokens
  · exact isValue_rawTokens h

/-- The value that an entry is written as. -/
def entryValue (entry : Option RawMessage) : Value := valueOf ((entryTokens entry).getD nullTokens)

/-- A body that is a value is passed through. -/
theorem entryValue_of_read {bytes : List UInt8} {v : Value} (h : read bytes = some v) :
    (entryTokens (some (some bytes))).isSome ∧ entryValue (some (some bytes)) = v := by
  obtain ⟨ts, hcompact, hparse⟩ := compact_of_read h
  have htokens : entryTokens (some (some bytes)) = some ts := hcompact
  refine ⟨by rw [htokens]; rfl, ?_⟩
  rw [entryValue, htokens, Option.getD_some, valueOf, hparse]
  rfl

theorem meaning_key (name : String) : meaning (key name) = textOf (asciiBytes name) :=
  meaning_encodeString _

theorem marshal_spec (e : PassthroughError) {ts : List RawToken}
    (h : rawTokens e.errorResponse = some ts) : ∃ bytes, e.marshal = some bytes ∧
      read bytes = some (errorValue e.error (valueOf ts)) := by
  have hstatus : ∀ f ∈ [(key "statusCode", [(.word (number e.error.statusCode.toNat) : RawToken)]),
      (key "status", [.str (encodeString e.error.status)])], IsValue f.2 := by
    intro f hf
    rcases List.mem_cons.1 hf with rfl | hf
    · rfl
    · rw [List.mem_singleton.1 hf]
      rfl
  have hfields : ∀ f ∈ [(key "error", objectTokens
      [(key "statusCode", [(.word (number e.error.statusCode.toNat) : RawToken)]),
        (key "status", [.str (encodeString e.error.status)])]),
      (key "errorResponse", ts)], IsValue f.2 := by
    intro f hf
    rcases List.mem_cons.1 hf with rfl | hf
    · exact isValue_objectTokens hstatus
    · rw [List.mem_singleton.1 hf]
      exact isValue_rawTokens h
  refine ⟨_, by rw [PassthroughError.marshal, h]; rfl, ?_⟩
  have hcode : valueOf [(.word (number e.error.statusCode.toNat) : RawToken)] =
      .word (number e.error.statusCode.toNat) := rfl
  have htext : valueOf [(.str (encodeString e.error.status) : RawToken)] =
      .str (textOf e.error.status) := by
    rw [← meaning_encodeString]
    rfl
  rw [read_write (parse_objectTokens hfields)]
  simp only [List.map_cons, List.map_nil, valueOf_objectTokens hstatus, meaning_key, hcode, htext]
  rfl

/-- An error that cannot be marshalled is a null. -/
theorem marshal_of_none {e : PassthroughError} (h : rawTokens e.errorResponse = none) :
    e.marshal = none := by
  rw [PassthroughError.marshal, h]
  rfl

theorem entryValue_nil : entryValue (some none) = .word ⟨nullBytes, by decide⟩ :=
  rfl

/-! ### The status of an error -/

theorem errorStatus_nonneg_iff (r : CNSIRequest) : 0 ≤ (errorStatus r).statusCode ↔ r.IsError := by
  unfold errorStatus CNSIRequest.IsError
  split_ifs with hcode hneg
  · omega
  · simp only [hcode, or_true, iff_true]
    omega
  · rcases r.error with _ | text
    · simp [hcode]
    · simp

theorem endpointEntry_of_isError (h : r.IsError) : endpointEntry isPrint inRange r =
    some (PassthroughError.marshal ⟨errorStatus r, errorResponse isPrint inRange r⟩) :=
  if_pos ((errorStatus_nonneg_iff r).2 h)

theorem endpointEntry_of_not_isError (h : ¬r.IsError) : endpointEntry isPrint inRange r =
    if 0 < (r.response.getD []).length then some (some (r.response.getD [])) else none :=
  if_neg (mt (errorStatus_nonneg_iff r).1 h)

theorem read_quote_isSome_iff (body : List UInt8) :
    (read (quote isPrint body)).isSome ↔ ∀ rune ∈ runes body, Escapes isPrint rune := by
  constructor
  · intro h
    by_contra hescapes
    rw [Json.read, lex_quote_of_not_escapes isPrint hescapes] at h
    cases h
  · intro h
    obtain ⟨items, hlex⟩ := lex_quote_of_escapes isPrint h
    rw [Json.read, hlex]
    rfl

theorem rawTokens_isSome_iff (bytes : List UInt8) :
    (rawTokens (some bytes)).isSome ↔ (read bytes).isSome := by
  rw [rawTokens, compact]
  constructor
  · intro h
    by_contra hread
    rw [if_neg hread] at h
    cases h
  · intro h
    obtain ⟨v, hv⟩ := Option.isSome_iff_exists.1 h
    obtain ⟨ts, hts, -⟩ := Option.bind_eq_some_iff.1 hv
    rw [if_pos h, hts]
    rfl

theorem errorResponse_isSome_iff (r : CNSIRequest) :
    (rawTokens (errorResponse isPrint inRange r)).isSome ↔ (400 ≤ r.statusCode →
      isValidJSON inRange (r.response.getD []) = true ∨
        ∀ rune ∈ runes (r.response.getD []), Escapes isPrint rune) := by
  unfold errorResponse
  split_ifs with hcode
  · dsimp only
    rw [rawTokens_isSome_iff]
    simp only [hcode, true_imp_iff]
    by_cases hvalid : isValidJSON inRange (r.response.getD []) = true
    · have hread : (read (r.response.getD [])).isSome := by
        rw [isValidJSON, Bool.and_eq_true] at hvalid
        exact hvalid.1
      rw [if_pos hvalid]
      exact iff_of_true hread (Or.inl hvalid)
    · rw [if_neg hvalid, read_quote_isSome_iff]
      exact (or_iff_right hvalid).symm
  · exact iff_of_true rfl fun h => absurd h hcode

/-- An entry is written, and is what it should be, exactly when the response is safe. -/
theorem entryIs_iff (r : CNSIRequest) :
    ((entryTokens (endpointEntry isPrint inRange r)).isSome ∧
      EntryIs r (entryValue (endpointEntry isPrint inRange r))) ↔ EntrySafe isPrint inRange r := by
  by_cases herror : r.IsError
  · rw [endpointEntry_of_isError herror]
    have hsafe : EntrySafe isPrint inRange r ↔
        (rawTokens (errorResponse isPrint inRange r)).isSome := by
      rw [errorResponse_isSome_iff]
      exact ⟨fun h => h.error, fun h => ⟨fun hno => absurd herror hno, h⟩⟩
    rw [hsafe]
    rcases htokens : rawTokens (errorResponse isPrint inRange r) with _ | ts
    · rw [marshal_of_none htokens]
      refine iff_of_false ?_ (by simp)
      rintro ⟨-, hentry⟩
      obtain ⟨response, hvalue⟩ := hentry.1 herror
      rw [entryValue_nil] at hvalue
      cases hvalue
    · obtain ⟨bytes, hmarshal, hread⟩ :=
        marshal_spec ⟨errorStatus r, errorResponse isPrint inRange r⟩ htokens
      obtain ⟨hsome, hvalue⟩ := entryValue_of_read hread
      rw [hmarshal]
      refine iff_of_true ⟨hsome, fun _ => ⟨valueOf ts, hvalue⟩, fun hno => absurd herror hno⟩ rfl
  · rw [endpointEntry_of_not_isError herror]
    have hcode : ¬400 ≤ r.statusCode := fun h => herror (Or.inr h)
    have hsafe : EntrySafe isPrint inRange r ↔
        r.response.getD [] = [] ∨ (read (r.response.getD [])).isSome :=
      ⟨fun h => h.body herror, fun h => ⟨fun _ => h, fun h => absurd h hcode⟩⟩
    rw [hsafe]
    rcases hbody : r.response.getD [] with _ | ⟨b, bs⟩
    · refine iff_of_true ⟨rfl, fun h => absurd h herror, fun _ body hread => ?_⟩ (Or.inl rfl)
      rw [hbody] at hread
      cases hread
    · rw [if_pos (by simp)]
      rcases hread : read (b :: bs) with _ | v
      · have hnone : entryTokens (some (some (b :: bs))) = none := compact_of_not_read hread
        rw [hnone]
        exact iff_of_false (by simp) (by simp)
      · obtain ⟨hsome, hvalue⟩ := entryValue_of_read hread
        refine iff_of_true ⟨hsome, fun h => absurd h herror, fun _ body hbody' => ?_⟩ (Or.inr rfl)
        rw [hbody, hread] at hbody'
        rw [hvalue]
        exact Option.some.inj hbody'

end Entries

/-! ## The answer -/

section Answer

variable {isPrint : ℕ → Bool} {inRange : List UInt8 → Bool} {responses : CNSIResponses}
  {cnsiList : List CnsiGuid}

theorem get?_of_mem {e : CnsiGuid × CNSIRequest} (h : e ∈ responses.entries) :
    responses.get? e.1 = some e.2 := by
  rcases hfind : responses.entries.find? fun e' => decide (e'.1 = e.1) with _ | e'
  · have hno := List.find?_eq_none.1 hfind e h
    simp at hno
  · have hkey : e'.1 = e.1 := by simpa using List.find?_some hfind
    have hmem := List.mem_of_find?_eq_some hfind
    rw [CNSIResponses.get?, hfind, List.inj_on_of_nodup_map responses.nodup hmem h hkey]
    rfl

/-- The entries in the order of the map, with the text of the keys. -/
theorem buildJSONResponse_spec (isPrint : ℕ → Bool) (inRange : List UInt8 → Bool)
    (h : cnsiList.Perm (responses.entries.map Prod.fst)) :
    ∃ m, buildJSONResponse isPrint inRange cnsiList responses = some m ∧
      m.Perm (responses.entries.map fun e => (e.1, endpointEntry isPrint inRange e.2)) := by
  let entryOf (guid : CnsiGuid) : Option RawMessage :=
    (buildEntry isPrint inRange (responses.get? guid)).getD none
  have hentry : ∀ e ∈ responses.entries, buildEntry isPrint inRange (responses.get? e.1) =
      some (endpointEntry isPrint inRange e.2) := by
    intro e he
    rw [get?_of_mem he]
    rfl
  refine ⟨cnsiList.map fun guid => (guid, entryOf guid), mapM_eq_map fun guid hguid => ?_, ?_⟩
  · obtain ⟨e, he, rfl⟩ := List.mem_map.1 (h.subset hguid)
    simp only [entryOf, hentry e he, Option.map_some, Option.getD_some]
  · refine (h.map _).trans (List.Perm.of_eq ?_)
    rw [List.map_map]
    refine List.map_congr_left fun e he => ?_
    simp only [entryOf, Function.comp_apply, hentry e he, Option.getD_some]

theorem textOf_injective {guid guid' : CnsiGuid} (h : textOf guid.1 = textOf guid'.1) :
    guid = guid' := by
  have hbyte : Function.Injective TextUnit.byte := fun a b hab => TextUnit.byte.inj hab
  have hsanitize : sanitize guid.1 = sanitize guid'.1 := List.map_injective_iff.2 hbyte h
  rw [guid.2, guid'.2] at hsanitize
  exact Subtype.ext hsanitize

theorem sortedEntries_perm {α : Type} (m : List (CnsiGuid × α)) : (sortedEntries m).Perm m :=
  List.mergeSort_perm _ _

/-- The encoder writes an object with the value of each entry. -/
theorem encode_spec {m : List (CnsiGuid × Option RawMessage)}
    (h : ∀ e ∈ m, (entryTokens e.2).isSome) : ∃ out fields, encode m = some out ∧
      read out = some (.obj fields) ∧
      fields.Perm (m.map fun e => (textOf e.1.1, entryValue e.2)) := by
  let field (e : CnsiGuid × Option RawMessage) : List StrItem × List RawToken :=
    (encodeString e.1.1, (entryTokens e.2).getD nullTokens)
  have htokens : ∀ e ∈ sortedEntries m,
      (entryTokens e.2).map (fun tokens => (encodeString e.1.1, tokens)) = some (field e) := by
    intro e he
    obtain ⟨tokens, hsome⟩ := Option.isSome_iff_exists.1 (h e ((sortedEntries_perm m).subset he))
    simp only [field, hsome, Option.map_some, Option.getD_some]
  have hvalues : ∀ f ∈ (sortedEntries m).map field, IsValue f.2 := by
    intro f hf
    obtain ⟨e, he, rfl⟩ := List.mem_map.1 hf
    obtain ⟨tokens, hsome⟩ := Option.isSome_iff_exists.1 (h e ((sortedEntries_perm m).subset he))
    simp only [field, hsome, Option.getD_some]
    exact isValue_entryTokens hsome
  refine ⟨write (objectTokens ((sortedEntries m).map field)) ++ [0x0a], _, ?_,
    read_write_space (by decide) (parse_objectTokens hvalues), ?_⟩
  · rw [encode, mapM_eq_map htokens]
    rfl
  · rw [List.map_map]
    refine List.Perm.trans (List.Perm.of_eq ?_) ((sortedEntries_perm m).map _)
    refine List.map_congr_left fun e _ => ?_
    simp only [field, Function.comp_apply, meaning_encodeString, entryValue]

/-- One entry that cannot be written is enough for no answer. -/
theorem encode_eq_none {m : List (CnsiGuid × Option RawMessage)} {e : CnsiGuid × Option RawMessage}
    (he : e ∈ m) (h : entryTokens e.2 = none) : encode m = none := by
  rcases hfields : (sortedEntries m).mapM
      fun e => (entryTokens e.2).map fun tokens => (encodeString e.1.1, tokens) with _ | fields
  · rw [encode, hfields]
    rfl
  · have hsome := mapM_isSome.1 (by rw [hfields]; rfl) e ((sortedEntries_perm m).mem_iff.2 he)
    rw [h] at hsome
    cases hsome

/-- The answer has the value of the entry of each endpoint. -/
theorem answer_spec (hlist : cnsiList.Perm (responses.entries.map Prod.fst))
    (h : ∀ e ∈ responses.entries, (entryTokens (endpointEntry isPrint inRange e.2)).isSome) :
    ∃ out fields, sendProxiedResponse isPrint inRange false cnsiList responses = some (.json out) ∧
      read out = some (.obj fields) ∧ fields.Perm (responses.entries.map fun e =>
        (textOf e.1.1, entryValue (endpointEntry isPrint inRange e.2))) := by
  obtain ⟨m, hbuild, hperm⟩ := buildJSONResponse_spec isPrint inRange hlist
  have hm : ∀ e ∈ m, (entryTokens e.2).isSome := by
    intro e he
    obtain ⟨e', he', rfl⟩ := List.mem_map.1 (hperm.subset he)
    exact h e' he'
  obtain ⟨out, fields, hencode, hread, hfields⟩ := encode_spec hm
  refine ⟨out, fields, ?_, hread, hfields.trans ?_⟩
  · simp only [sendProxiedResponse, hbuild, Bool.false_eq_true, if_false, Option.bind_eq_bind,
      Option.bind_some, hencode]
    rfl
  · have hvalues := hperm.map fun e : CnsiGuid × Option RawMessage => (textOf e.1.1, entryValue e.2)
    rwa [List.map_map] at hvalues

/-- The body of one endpoint takes the answers of all. -/
theorem answer_failed (hlist : cnsiList.Perm (responses.entries.map Prod.fst))
    {e : CnsiGuid × CNSIRequest} (he : e ∈ responses.entries)
    (h : entryTokens (endpointEntry isPrint inRange e.2) = none) :
    sendProxiedResponse isPrint inRange false cnsiList responses = some .failed := by
  obtain ⟨m, hbuild, hperm⟩ := buildJSONResponse_spec isPrint inRange hlist
  have hmem := hperm.mem_iff.2 (List.mem_map_of_mem he)
  have hencode : encode m = none := encode_eq_none hmem h
  simp only [sendProxiedResponse, hbuild, Bool.false_eq_true, if_false, Option.bind_eq_bind,
    Option.bind_some, hencode]
  rfl

/-- The answer is there for all endpoints exactly when each of them is safe. -/
theorem answersAll_iff (isPrint : ℕ → Bool) (inRange : List UInt8 → Bool)
    (responses : CNSIResponses) : AnswersAll isPrint inRange responses ↔
      ∀ e ∈ responses.entries, EntrySafe isPrint inRange e.2 := by
  constructor
  · intro hanswers e he
    refine (entryIs_iff e.2).1 ?_
    obtain ⟨out, fields, hsend, hread, -, hentries⟩ :=
      hanswers (responses.entries.map Prod.fst) (List.Perm.refl _)
    have hsome : ∀ e ∈ responses.entries,
        (entryTokens (endpointEntry isPrint inRange e.2)).isSome := by
      intro e he
      by_contra hnone
      rw [answer_failed (List.Perm.refl _) he (Option.not_isSome_iff_eq_none.1 hnone)] at hsend
      cases hsend
    obtain ⟨out', fields', hsend', hread', hfields⟩ := answer_spec (List.Perm.refl _) hsome
    obtain rfl : out = out' := by
      have := hsend.symm.trans hsend'
      simpa using this
    obtain rfl : fields = fields' := by
      have := hread.symm.trans hread'
      simpa using this
    obtain ⟨v, hv, hentry⟩ := hentries e he
    obtain ⟨e', he', heq⟩ := List.mem_map.1 (hfields.subset hv)
    have hkey : e'.1 = e.1 := textOf_injective (congrArg Prod.fst heq)
    obtain rfl := List.inj_on_of_nodup_map responses.nodup he' he hkey
    obtain rfl : _ = v := congrArg Prod.snd heq
    exact ⟨hsome e' he', hentry⟩
  · intro hsafe cnsiList hlist
    obtain ⟨out, fields, hsend, hread, hfields⟩ :=
      answer_spec hlist fun e he => ((entryIs_iff e.2).2 (hsafe e he)).1
    refine ⟨out, fields, hsend, hread, ?_, fun e he => ?_⟩
    · have hkeys := hfields.map Prod.fst
      rwa [List.map_map] at hkeys
    · exact ⟨_, hfields.mem_iff.2 (List.mem_map_of_mem he),
        ((entryIs_iff e.2).2 (hsafe e he)).2⟩

/-! ### A page in place of JSON -/

/-- One endpoint answers with JSON, the other with a page. -/
def htmlResponses : CNSIResponses where
  entries :=
    [(⟨asciiBytes "a", by decide⟩, ⟨200, asciiBytes "200 OK", some (asciiBytes "{}"), none⟩),
      (⟨asciiBytes "b", by decide⟩, ⟨200, asciiBytes "200 OK", some (asciiBytes "<html>"), none⟩)]
  nodup := by decide

/-- A body that `%q` quotes in a way that JSON has not. -/
theorem not_answersAll_html : ¬∀ (isPrint : ℕ → Bool) (inRange : List UInt8 → Bool)
    (responses : CNSIResponses), AnswersAll isPrint inRange responses := by
  intro h
  obtain ⟨out, fields, hsend, -⟩ := h (fun _ => true) (fun _ => true) htmlResponses
    (htmlResponses.entries.map Prod.fst) (List.Perm.refl _)
  have hfailed : sendProxiedResponse (fun _ => true) (fun _ => true) false
      (htmlResponses.entries.map Prod.fst) htmlResponses = some .failed :=
    answer_failed (List.Perm.refl _) (List.mem_cons_of_mem _ List.mem_cons_self) rfl
  rw [hfailed] at hsend
  cases hsend

end Answer

end Stratos
