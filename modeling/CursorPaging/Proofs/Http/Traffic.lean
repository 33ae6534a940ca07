import CursorPaging.Http.ListService
import CursorPaging.Proofs.Paging.Rounds

/-!
# What a list service sends

A list service turns every request for a page into a request over the network, unless its settings
allow none. Apart from their bodies, these requests are all the same:

* `Network.recording`: a network that keeps what went over it;
* `prepare_eq_map`: the body has no influence on anything else;
* `list_of_unready`, `list_of_prepared`: one list, without and with a request;
* `recorded_of_ready`, `recorded_of_unready`: what went over the network for a list of fetches.
-/

namespace CursorPaging.Http

open Paging (Exchange Replies)

variable {σ : Type}

/-- The network that keeps the requests it got and what became of them, the latest first. -/
def Network.recording (net : Network σ) : Network (List (Request × Reply) × σ) := fun (log, s) r =>
  let (reply, s') := net s r
  (reply, ((r, reply) :: log, s'))

namespace Request

/-- The request with another body. -/
def withBody (r : Request) (body : Json) : Request := { r with body := body.compact }

theorem prepare_eq_map (s : Settings) (method path : String) (body body' : Json) :
    prepare s method path (some body) =
      (prepare s method path (some body')).map fun r => r.withBody body := by
  unfold prepare
  split
  · rfl
  · rename_i url _
    cases hh : url.hasHost with
    | false => rfl
    | true =>
      simp only [Bool.not_true, Bool.false_eq_true, if_false]
      generalize signed url = u
      cases (u.2.addAll? s.defaultHeaders.entries).bind fun hs => withToken? hs s.accessToken with
      | none => rfl
      | some hs => cases isReachable u.1 <;> rfl

end Request

namespace ListService

variable {l : ListService} {net : Network σ}

/-- What a reply to a request of the service amounts to. -/
def read (l : ListService) (exchange : Request × Reply) : Except Error (ListPage Json) :=
  pageOf l.resource .ok (Client.decoded (l.client.outcome exchange.1 exchange.2))

/-- The request of the service with a body, if the settings allow one. -/
def prepare (l : ListService) (body : Json) : Except Failure Request :=
  Request.prepare l.client.settings "POST" l.resource.endpoint (some body)

theorem list_of_unready {s : σ} {request : ListRequest} {e : Failure}
    (h : l.prepare request.toJson = .error e) :
    l.list net .ok s request = (.error (.http e), s) := by
  unfold prepare at h
  simp only [list, Client.postJson, Client.request, h]
  rfl

/-- A request that is allowed is sent once, and its reply is all that the list depends on. -/
theorem list_of_prepared {α : Type} (item : Json → Except DecodeError α) {s : σ}
    {request : ListRequest} {r : Request} (h : l.prepare request.toJson = .ok r) :
    l.list net item s request =
      (pageOf l.resource item (Client.decoded (l.client.outcome r (net s r).1)), (net s r).2) := by
  unfold prepare at h
  simp only [list, Client.postJson, Client.request, h]

theorem list_of_ready {s : σ} {request : ListRequest} {r : Request}
    (h : l.prepare request.toJson = .ok r) :
    l.list net .ok s request = (l.read (r, (net s r).1), (net s r).2) :=
  list_of_prepared .ok h

/-- Without a request that could be sent, every fetch fails and the network is left alone. -/
theorem recorded_of_unready {e : Failure} (h : l.prepare .null = .error e)
    {s s' : List (Request × Reply) × σ} {xs : List (Exchange Json)}
    (hr : Replies (l.list net.recording .ok) s xs s') :
    s' = s ∧ ∀ x ∈ xs, ∃ err, x.answer = .error err := by
  induction hr with
  | nil => exact ⟨rfl, by simp⟩
  | @cons x xs s s₁ s' reply rest ih =>
    have hx : l.prepare x.fetch.params.toRequest.toJson = .error e := by
      rw [prepare, Request.prepare_eq_map _ _ _ _ .null, ← prepare, h]
      rfl
    rw [list_of_unready hx, Prod.mk.injEq] at reply
    obtain ⟨ha, rfl⟩ := reply
    exact ⟨ih.1, List.forall_mem_cons.mpr ⟨⟨_, ha.symm⟩, ih.2⟩⟩

/-- Each fetch sends one request, and its answer is what became of it. -/
theorem recorded_of_ready {first : Request} (h : l.prepare .null = .ok first)
    {s s' : List (Request × Reply) × σ} {xs : List (Exchange Json)}
    (hr : Replies (l.list net.recording .ok) s xs s') :
    ∃ sent : List (Request × Reply), s'.1 = sent.reverse ++ s.1 ∧
      sent.map Prod.fst = xs.map (fun x => first.withBody x.fetch.params.toRequest.toJson) ∧
      sent.map l.read = xs.map Exchange.answer := by
  induction hr with
  | nil => exact ⟨[], rfl, rfl, rfl⟩
  | @cons x xs s s₁ s' reply rest ih =>
    obtain ⟨sent, hs, hq, ha⟩ := ih
    have hx : l.prepare x.fetch.params.toRequest.toJson =
        .ok (first.withBody x.fetch.params.toRequest.toJson) := by
      rw [prepare, Request.prepare_eq_map _ _ _ _ .null, ← prepare, h]
      rfl
    rw [list_of_ready hx, Prod.mk.injEq] at reply
    obtain ⟨hanswer, rfl⟩ := reply
    refine ⟨(first.withBody x.fetch.params.toRequest.toJson,
      (net s.2 (first.withBody x.fetch.params.toRequest.toJson)).1) :: sent, ?_, ?_, ?_⟩
    · rw [hs, List.reverse_cons, List.append_assoc]
      rfl
    · rw [List.map_cons, List.map_cons, hq]
    · rw [List.map_cons, List.map_cons, ha, ← hanswer]
      rfl

end ListService

end CursorPaging.Http
