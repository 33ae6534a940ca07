import CursorPaging.Proofs.Listing
import CursorPaging.Proofs.Paging.History
import CursorPaging.Proofs.Query.Builder
import CursorPaging.Session.Opening

/-!
# Tables that are opened

The table of a command is a fresh one (`openTable_eq_ok`). Filters do not get in the way of the
token of a page, since no resource has a property of that name; a parameter of a request could
(`leavesToken_of_opened`).
-/

namespace CursorPaging

namespace CommandLine

/-- No parameter is called like the token of a page. -/
def QueryOptions.LeavesToken (q : QueryOptions) : Prop :=
  ∀ p ∈ q.params, ∀ v, parseParam p ≠ .ok (ListRequest.nextTokenKey, v)

/-- Parameters are sent under the keys that are given. -/
theorem mem_parseParams {read params : Dictionary String} {given : List String}
    (h : parseParams read given = .ok params) {e : String × String} (he : e ∈ params.entries) :
    e ∈ read.entries ∨ ∃ p ∈ given, ∃ v, parseParam p = .ok (e.1, v) := by
  induction given generalizing read with
  | nil => cases h; exact .inl he
  | cons p given ih =>
    obtain ⟨⟨key, value⟩, hp, h⟩ := bind_eq_ok h
    rcases ih h with hmem | ⟨p', hp', v, hv⟩
    · rcases Entries.mem_key_insert hmem with hkey | hmem
      · exact .inr ⟨p, List.mem_cons_self, value, by rw [hp, hkey]⟩
      · exact .inl hmem
    · exact .inr ⟨p', List.mem_cons_of_mem _ hp', v, hv⟩

end CommandLine

namespace Session

open CommandLine (Invocation QueryOptions)

variable {σ : Type} {host : Host} {i : Invocation} {resource : Resource} {q : QueryOptions} {s : σ}
  {o : Opened σ}

theorem openTable_eq_ok (h : openTable host i resource q s = .ok o) :
    ∃ pageSize query params,
      Query.ofExpressions resource host.dateOffset q.filters q.or = .ok query ∧
      CommandLine.parseParams .empty q.params = .ok params ∧
      o.table.controller = .start pageSize (sortingOf resource q) query params ∧
      o.table.source = s ∧ o.service.resource = resource := by
  obtain ⟨config, -, h⟩ := bind_eq_ok h
  obtain ⟨client, -, h⟩ := bind_eq_ok h
  obtain ⟨query, hquery, h⟩ := bind_eq_ok h
  obtain ⟨pageSize, -, h⟩ := bind_eq_ok h
  obtain ⟨params, hparams, h⟩ := bind_eq_ok h
  cases h
  exact ⟨pageSize, query, params, hquery, hparams, rfl, rfl, rfl⟩

theorem leavesToken_of_opened (h : openTable host i resource q s = .ok o)
    (hq : q.LeavesToken) : o.table.controller.params.toRequest.LeavesToken := by
  obtain ⟨pageSize, query, params, hquery, hparams, hc, -, -⟩ := openTable_eq_ok h
  rw [hc]
  constructor
  · intro e he hkey
    obtain ⟨t, ht, het⟩ := FilterQuery.mem_grouped he
    have haccepts := Query.accepts_ofExpressions hquery t ht
    rw [← het, hkey, resource.not_accepts_reservedKeys _ (by decide)] at haccepts
    cases haccepts
  · intro e he hkey
    obtain ⟨p, hp, v, hv⟩ := (CommandLine.mem_parseParams hparams he).resolve_left nofun
    exact hq p hp v (by rw [hv, hkey])

end Session

end CursorPaging
