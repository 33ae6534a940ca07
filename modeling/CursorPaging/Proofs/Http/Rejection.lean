import CursorPaging.Proofs.Http.Traffic
import CursorPaging.Proofs.Listing.Response

/-!
# Rejected credentials

A console rejects the credentials of a request with status 401 or 403. The list fails then, but by
which error depends on the body: an error object in it takes the place of the status, and nothing of
the status is left. So the code of the object has to say again what the status has said.

* `Client.outcome_of_errorStatus`: an error status becomes an error with the text of the body;
* `Promoted`, `promoted_promote`: what becomes of this error;
* `list_of_errorStatus`: both, for a list that was answered with an error status;
* `isUnauthorized_list_iff`: when the error of a list still shows that credentials were rejected.
-/

namespace CursorPaging.Http

variable {status : Nat} {body : List UInt8} {complete : Bool}

theorem Request.method_of_prepare {s : Settings} {method path : String} {body : Option Json}
    {r : Request} (h : prepare s method path body = .ok r) : r.method = method := by
  unfold prepare at h
  split at h
  · cases h
  · rename_i url _
    cases hh : url.hasHost with
    | false =>
      rw [hh] at h
      cases h
    | true =>
      simp only [hh, Bool.not_true, Bool.false_eq_true, if_false] at h
      generalize signed url = u at h
      generalize (u.2.addAll? s.defaultHeaders.entries).bind
        (fun hs => withToken? hs s.accessToken) = headers at h
      cases headers with
      | none => cases h
      | some hs =>
        cases hu : isReachable u.1 with
        | false =>
          simp only [hu] at h
          cases h
        | true =>
          simp only [hu] at h
          cases h
          rfl

/-- The text of an error answer; a body that breaks off has none. -/
def answerText (body : List UInt8) (complete : Bool) : String :=
  if complete then String.ofList (Text.Utf8.decodeLossy body) else ""

/-- What comes of an answer with an error status is this status and the text of the body. -/
theorem Client.outcome_of_errorStatus (c : Client) {r : Request} (hpost : r.method = "POST")
    (herror : 400 ≤ status ∧ status < 600) (body : List UInt8) (complete : Bool) :
    c.outcome r (.answer status body complete) =
      .error (.httpStatus status (answerText body complete)) := by
  have hbody : Response.isBodiless r.method status = false := by
    have h204 : status ≠ 204 := by omega
    have h304 : status ≠ 304 := by omega
    simp [Response.isBodiless, hpost, h204, h304]
  have hjudge : Response.isError ⟨status, body, complete⟩ = true := by
    simp [Response.isError, herror]
  simp only [outcome, Response.ofAnswer, hbody, Bool.false_eq_true, if_false, judge, hjudge,
    if_true]
  cases complete <;> rfl

namespace ListService

/-! ## Error objects in error answers -/

/-- A text that holds an error object. -/
def HoldsError (text : String) (e : Entries Json) : Prop :=
  ∃ fields : Entries Json,
    Json.ofString? text = some (.obj fields) ∧ fields.get? "Error" = some (.obj e)

theorem HoldsError.unique {text : String} {e e' : Entries Json} (h : HoldsError text e)
    (h' : HoldsError text e') : e = e' := by
  obtain ⟨fields, hread, he⟩ := h
  obtain ⟨fields', hread', he'⟩ := h'
  cases hread.symm.trans hread'
  cases he.symm.trans he'
  rfl

/-- What becomes of an error status with a text. -/
inductive Promoted (status : Nat) (text : String) : Error → Prop where
  /-- The object counts, and the status is lost. -/
  | object {e : Entries Json} (held : HoldsError text e) : Promoted status text (errorOf e)
  | plain (free : ∀ e, ¬HoldsError text e) : Promoted status text (.httpStatus status text)

/-- Every answer with an error status is promoted in one of the two ways. -/
theorem promoted_promote (status : Nat) (text : String) :
    Promoted status text (promote (.httpStatus status text)) := by
  cases hread : Json.ofString? text with
  | none =>
    have free : ∀ e, ¬HoldsError text e := by
      rintro e ⟨fields, h, -⟩
      cases hread.symm.trans h
    rw [promote, hread]
    exact .plain free
  | some v =>
    simp only [promote, hread, Option.bind_some]
    cases v with
    | obj fields =>
      by_cases herror : HasError fields
      · obtain ⟨e, he⟩ := herror
        rw [apiError?_of_error he]
        exact .object ⟨fields, hread, he⟩
      · rw [apiError?_of_not_hasError herror]
        refine .plain fun e ⟨fields', h, he⟩ => herror ⟨e, ?_⟩
        cases hread.symm.trans h
        exact he
    | _ =>
      refine .plain fun e ⟨fields', h, he⟩ => ?_
      cases hread.symm.trans h

/-- An error status of the answer makes a list fail, whatever else the answer says. -/
theorem list_of_errorStatus {σ α : Type} {l : ListService} {net : Network σ} {s : σ}
    (item : Json → Except DecodeError α) {request : ListRequest} {r : Request}
    (ready : l.prepare request.toJson = .ok r)
    (answered : (net s r).1 = .answer status body complete)
    (herror : 400 ≤ status ∧ status < 600) :
    ∃ e, (l.list net item s request).1 = .error e ∧
      Promoted status (answerText body complete) e := by
  refine ⟨_, ?_, promoted_promote status (answerText body complete)⟩
  have hpost : r.method = "POST" := Request.method_of_prepare ready
  rw [list_of_prepared item ready, answered, Client.outcome_of_errorStatus _ hpost herror]
  -- an error has no body to be read as a page, so it is promoted and nothing else
  rfl

/-! ## Rejections -/

/-- The codes that an error object may have for a rejection to be recognised. -/
def rejectionCodes : List String := ["401", "403"]

/-- A rejection is recognised unless the body holds an error with a code of another kind. -/
theorem Promoted.isUnauthorized_iff {text : String} {e : Error} (h : Promoted status text e)
    (rejects : status = 401 ∨ status = 403) :
    e.isUnauthorized = true ↔
      ∀ fields, HoldsError text fields → errorCode (fields.get? "code") ∈ rejectionCodes := by
  cases h with
  | @object fields held =>
    have hcode : ∀ code m, (Error.api code m).isUnauthorized = true ↔ code ∈ rejectionCodes := by
      simp [Error.isUnauthorized, rejectionCodes]
    rw [errorOf, hcode]
    exact ⟨fun h fields' held' => held.unique held' ▸ h, fun h => h fields held⟩
  | plain free =>
    have hstatus : (Error.httpStatus status text).isUnauthorized = true := by
      simpa [Error.isUnauthorized] using rejects
    exact ⟨fun _ fields held => absurd held (free fields), fun _ => hstatus⟩

/-- A list that is answered with 401 or 403 fails. Its error shows the rejection exactly if the body
holds no error object, or one whose code is that of a rejection. -/
theorem isUnauthorized_list_iff {σ α : Type} {l : ListService} {net : Network σ} {s : σ}
    (item : Json → Except DecodeError α) {request : ListRequest} {r : Request}
    (ready : l.prepare request.toJson = .ok r)
    (answered : (net s r).1 = .answer status body complete)
    (rejects : status = 401 ∨ status = 403) :
    ∃ e, (l.list net item s request).1 = .error e ∧
      Promoted status (answerText body complete) e ∧
      (e.isUnauthorized = true ↔ ∀ fields, HoldsError (answerText body complete) fields →
        errorCode (fields.get? "code") ∈ rejectionCodes) := by
  have herror : 400 ≤ status ∧ status < 600 := by omega
  obtain ⟨e, he, promoted⟩ := list_of_errorStatus item ready answered herror
  exact ⟨e, he, promoted, promoted.isUnauthorized_iff rejects⟩

/-- The network that gives every request the same answer. -/
def answering (status : Nat) (text : String) : Network Unit := fun s _ =>
  (.answer status (Text.Utf8.encode text.toList) true, s)

/-- The sessions of a console on this host. -/
def localSessions : ListService :=
  ⟨⟨{ Settings.default with baseUrl := some "http://localhost" }⟩, .sessions⟩

/-- A request for sessions without any wishes. -/
def firstTwenty : ListRequest := ⟨20, none, none, .empty, .empty⟩

/-- The body that denies access by a name instead of a number. -/
def accessDenied : Json :=
  .object [("Error", .object [("code", .str "AccessDenied"), ("message", .str "Not authorized")])]

theorem isUnauthorized_list_iff_expired :
    ∃ r, localSessions.prepare firstTwenty.toJson = .ok r ∧
      (answering 401 "expired token" () r).1 =
        .answer 401 (Text.Utf8.encode "expired token".toList) true ∧
      (401 = 401 ∨ 401 = 403) ∧
      ∃ e, (localSessions.list (answering 401 "expired token") .ok () firstTwenty).1 = .error e ∧
        e.isUnauthorized = true := by
  have hok : (localSessions.prepare firstTwenty.toJson).isOk = true := by decide +kernel
  cases hr : localSessions.prepare firstTwenty.toJson with
  | error e => rw [hr] at hok; cases hok
  | ok r =>
    have answered : (answering 401 "expired token" () r).1 =
        .answer 401 (Text.Utf8.encode "expired token".toList) true := rfl
    obtain ⟨e, he, -, iff⟩ := isUnauthorized_list_iff .ok hr answered (.inl rfl)
    refine ⟨r, rfl, answered, .inl rfl, e, he, iff.mpr ?_⟩
    rintro fields ⟨v, hread, -⟩
    have hsome : (Json.ofString?
        (answerText (Text.Utf8.encode "expired token".toList) true)).isSome = false := by
      decide +kernel
    rw [hread] at hsome
    cases hsome

/-- The answer has status 401, and the error of the list says that access is denied, but not by one
of the codes. -/
theorem list_hides_rejection :
    (localSessions.list (answering 401 accessDenied.compact) .ok () firstTwenty).1 =
        .error (.api "AccessDenied" "Not authorized") ∧
      (Error.api "AccessDenied" "Not authorized").isUnauthorized = false := by
  have denied : (match (localSessions.list (answering 401 accessDenied.compact) .ok ()
      firstTwenty).1 with
    | .error e => some e
    | .ok _ => none) = some (.api "AccessDenied" "Not authorized") := by decide +kernel
  cases hlist : (localSessions.list (answering 401 accessDenied.compact) .ok () firstTwenty).1 with
  | ok page => rw [hlist] at denied; cases denied
  | error e =>
    rw [hlist] at denied
    cases denied
    exact ⟨rfl, rfl⟩

end ListService

end CursorPaging.Http
