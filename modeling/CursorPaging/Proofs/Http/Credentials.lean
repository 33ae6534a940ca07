import CursorPaging.Proofs.Http.Traffic
import CursorPaging.Proofs.Paging.Simulation

/-!
# Where the access token goes

The access token is the last value of the field for credentials in every request, and it is in
nothing else. So two clients that differ in the token send requests that differ in this value, as
long as both tokens can be sent at all:

* `headers_completed`: header fields are filled in beside the token;
* `prepare_tokens`: two requests, or the same failure;
* `Network.Blind`: networks that do not look at the token, such as that of a server with a script
  (`blind_server`), also if they keep the requests (`Blind.recording`);
* `list_alike_of_blind`: over such a network, list services with different tokens answer alike.
-/

namespace CursorPaging.Http

variable {σ : Type} {token token' : String}

/-- The text can be the value of a header field. -/
def IsHeaderValue (s : String) : Prop := s.toList.all isValueChar = true

/-- The header fields are the same but for the token, which is the last value of the field for
credentials. -/
structure Headers.SameButToken (token token' : String) (hs hs' : Headers) : Prop where
  others : ∀ name, name ≠ authorization → hs'.get? name = hs.get? name
  credentials : ∃ configured,
    hs.get? authorization = some (configured ++ [unpadded (bearer token)]) ∧
    hs'.get? authorization = some (configured ++ [unpadded (bearer token')])

/-- The requests are the same but for the token in their header fields. -/
structure Request.SameButToken (token token' : String) (r r' : Request) : Prop where
  method : r'.method = r.method
  url : r'.url = r.url
  headers : r.headers.SameButToken token token' r'.headers
  body : r'.body = r.body

/-! ## Header fields -/

namespace Headers

variable {hs hs' : Headers}

theorem get?_add (hs : Headers) (name value name' : String) :
    (hs.add name value).get? name' =
      if name = name' then some ((hs.get? name).getD [] ++ [value]) else hs.get? name' :=
  Dictionary.get?_insert hs name name' _

theorem sameButToken_add (hs : Headers) (token token' : String) :
    (hs.add authorization (unpadded (bearer token))).SameButToken token token'
      (hs.add authorization (unpadded (bearer token'))) where
  others name hne := by rw [get?_add, get?_add, if_neg hne.symm, if_neg hne.symm]
  credentials := ⟨_, by rw [get?_add, if_pos rfl], by rw [get?_add, if_pos rfl]⟩

theorem SameButToken.addDefault (h : hs.SameButToken token token' hs') {name : String}
    (hne : name ≠ authorization) (value : String) :
    (hs.addDefault name value).SameButToken token token' (hs'.addDefault name value) := by
  have hhas : hs'.has name = hs.has name := by rw [has, has, h.others name hne]
  unfold Headers.addDefault
  rw [hhas]
  split
  · exact h
  · obtain ⟨configured, hc, hc'⟩ := h.credentials
    refine ⟨fun name' hne' => ?_, configured, ?_, ?_⟩
    · rw [get?_add, get?_add, h.others name hne, h.others name' hne']
    · rw [get?_add, if_neg hne, hc]
    · rw [get?_add, if_neg hne, hc']

end Headers

/-- The settings with another access token. -/
def Settings.withToken (s : Settings) (token : String) : Settings := { s with accessToken := token }

namespace Request

/-- What is filled in does not depend on the token. -/
theorem headers_completed {hs hs' : Headers} (h : hs.SameButToken token token' hs') (s : Settings)
    (body : Option Json) :
    (completed s body hs).SameButToken token token' (completed s body hs') := by
  unfold completed
  refine Headers.SameButToken.addDefault ?_ (by decide) _
  split
  · exact h.addDefault (by decide) _
  · exact h

theorem withToken?_of_isHeaderValue (hs : Headers) (h : IsHeaderValue token) :
    withToken? hs (some token) = some (hs.add authorization (unpadded (bearer token))) := by
  have hvalue : (bearer token).toList.all isValueChar = true := by
    rw [bearer, String.toList_append, List.all_append,
      show token.toList.all isValueChar = true from h]
    rfl
  rw [withToken?, Headers.add?, show headerName? authorization = some authorization by decide,
    headerValue?, if_pos hvalue]
  rfl

/-- The two ways in which requests with different tokens can be prepared. -/
inductive Twins (token token' : String) :
    Except Failure Request → Except Failure Request → Prop where
  | error (e : Failure) : Twins token token' (.error e) (.error e)
  | ok {r r' : Request} (same : r.SameButToken token token' r') :
    Twins token token' (.ok r) (.ok r')

/-- A request can be prepared with both tokens or with none of them. -/
theorem prepare_tokens (s : Settings) (method path : String) (body : Option Json)
    (h : IsHeaderValue token) (h' : IsHeaderValue token') :
    Twins token token' (prepare (s.withToken token) method path body)
      (prepare (s.withToken token') method path body) := by
  have haddress (t : String) : (s.withToken t).address path = s.address path := rfl
  unfold prepare
  rw [haddress, haddress]
  cases Url.parse (s.address path) with
  | error e => exact .error _
  | ok url =>
    dsimp only
    cases url.hasHost with
    | false => exact .error _
    | true =>
      simp only [Bool.not_true, Bool.false_eq_true, if_false, Settings.withToken]
      generalize signed url = u
      cases u.2.addAll? s.defaultHeaders.entries with
      | none => exact .error _
      | some hs =>
        simp only [Option.bind_some, withToken?_of_isHeaderValue hs h,
          withToken?_of_isHeaderValue hs h']
        cases isReachable u.1 with
        | false => exact .error _
        | true =>
          have headers := headers_completed (hs.sameButToken_add token token') s body
          exact .ok ⟨rfl, rfl, headers, rfl⟩

end Request

/-! ## Networks -/

/-- The network does not look at the token: in related states, requests that are the same but for it
get the same reply and lead to related states. -/
def Network.Blind (token token' : String) (R : σ → σ → Prop) (net : Network σ) : Prop :=
  ∀ s s' r r', R s s' → r.SameButToken token token' r' →
    (net s r).1 = (net s' r').1 ∧ R (net s r).2 (net s' r').2

/-- What went over a network: the requests are the same but for the token, and the replies are the
same. -/
def SameTraffic (token token' : String) : List (Request × Reply) → List (Request × Reply) → Prop :=
  List.Forall₂ fun x x' => x.1.SameButToken token token' x'.1 ∧ x.2 = x'.2

/-- Networks with a record of what went over them. -/
def Recorded (token token' : String) (R : σ → σ → Prop) (s s' : List (Request × Reply) × σ) :
    Prop :=
  SameTraffic token token' s.1 s'.1 ∧ R s.2 s'.2

/-- A network that keeps a log of the requests is as blind as the one behind it. -/
theorem Network.Blind.recording {R : σ → σ → Prop} {net : Network σ}
    (h : net.Blind token token' R) :
    Network.Blind token token' (Recorded token token' R) net.recording := by
  intro s s' r r' ⟨log, states⟩ same
  obtain ⟨reply, after⟩ := h s.2 s'.2 r r' states same
  exact ⟨reply, .cons ⟨same, reply⟩ log, after⟩

/-- The servers are the same but for the requests that they got. -/
structure Server.Like (s s' : Server) : Prop where
  host : s'.host = s.host
  port : s'.port = s.port
  script : s'.script = s.script

/-- A server that answers from a script is blind to tokens. -/
theorem blind_server : Network.Blind token token' Server.Like Server.network := by
  intro s s' r r' same requests
  have hfor : s'.isFor r' = s.isFor r := by
    simp only [Server.isFor, requests.url, same.host, same.port]
  unfold Server.network
  rw [hfor, same.script]
  split
  · exact ⟨rfl, same.host, same.port, rfl⟩
  · exact ⟨rfl, same⟩

/-! ## List services -/

namespace ListService

/-- The list service with another access token. -/
def withToken (l : ListService) (token : String) : ListService :=
  { l with client := ⟨l.client.settings.withToken token⟩ }

/-- List services with different tokens over a blind network answer alike. -/
theorem list_alike_of_blind {R : σ → σ → Prop} {net : Network σ} (blind : net.Blind token token' R)
    (h : IsHeaderValue token) (h' : IsHeaderValue token') (l : ListService) :
    Paging.Alike R ((l.withToken token).list net .ok) ((l.withToken token').list net .ok) := by
  intro s s' request hs
  have twins : Request.Twins token token' ((l.withToken token).prepare request.toJson)
      ((l.withToken token').prepare request.toJson) := Request.prepare_tokens _ _ _ _ h h'
  generalize hp : (l.withToken token).prepare request.toJson = p at twins
  generalize hp' : (l.withToken token').prepare request.toJson = p' at twins
  cases twins with
  | error e =>
    rw [list_of_unready hp, list_of_unready hp']
    exact ⟨rfl, hs⟩
  | @ok r r' same =>
    obtain ⟨reply, after⟩ := blind s s' r r' hs same
    rw [list_of_ready hp, list_of_ready hp']
    refine ⟨?_, after⟩
    have houtcome : (l.withToken token').client.outcome r' (net s' r').1 =
        (l.withToken token).client.outcome r (net s r).1 := by
      rw [← reply]
      unfold Client.outcome
      rw [same.url, same.method]
      rfl
    show pageOf l.resource .ok _ = pageOf l.resource .ok _
    rw [houtcome]

end ListService

end CursorPaging.Http
