import CursorPaging.Proofs.Http.Traffic
import CursorPaging.Proofs.Session.Opening
import CursorPaging.Proofs.Session.Printing
import CursorPaging.Session

/-!
# Listing over a network

What the command that lists a resource prints, and what it sends (`Listed`). Every page that it
fetches is printed when it is fetched first: the requests of the log are those for the pages that
are printed, and then some that go back over these pages because the page after them has no items.

The argument joins a trace of the walk with what went over the network for its fetches
(`listed_of_trace`): either each of them sent a request (`listed_of_sent`), or the settings allow no
request at all (`listed_of_unsent`).
-/

namespace CursorPaging.Session

open CommandLine (Invocation QueryOptions)
open Http (ListService Network Reply Request)

variable {σ : Type} {l : ListService} {limit : Option Nat} {moves : Nat} {base : ListRequest}
  {xs : List (Paging.Exchange Json)} {pages : List (ListPage Json)} {ms : List Message}
  {ending : Ending} {log : List (Request × Reply)}

/-- What a list command prints, which requests it sends, and how it ends: `log` is what went over
the network, `pages` are those that are printed, and `body` is the body of the first request. -/
structure Listed (l : ListService) (limit : Option Nat) (moves : Nat)
    (log : List (Request × Reply)) (ms : List Message) (ending : Ending)
    (pages : List (ListPage Json)) (body : Dictionary Json) : Prop where
  /-- The pages that are printed are the first answers. -/
  answered : pages.map .ok <+: log.map l.read
  /-- Only the first page is printed when it has no items. -/
  full : ∀ p ∈ pages, p.items ≠ [] ∨ pages = [p]
  /-- The answers after them print nothing: the first of them is an error, or a page without items
  after one that was printed. -/
  unprinted : Unprinted pages.length ((log.drop pages.length).map l.read)
  /-- The requests after that one repeat those for the pages that were printed, the last one
  first. -/
  returns : (log.drop pages.length).map Prod.fst <+:
    ((log.take (pages.length + 1)).map Prod.fst).reverse
  /-- If every answer is printed, the end of the command is that of the list or the limit. -/
  complete : ending = .completed → log.length = pages.length →
    (∃ p, pages.getLast? = some p ∧ p.Final) ∨ limit = some pages.length
  /-- They are numbered from one on. -/
  numbers : ms.filterMap Message.pageNumber? = List.range' 1 pages.length
  /-- Their rows stand in order, each under the number of its page. -/
  rows : ms.filterMap Message.row? = numberedRows 1 pages
  tokenless : body.get? ListRequest.nextTokenKey = none
  first : ∀ x, log[0]? = some x → x.1 = x.1.withBody (.obj body.entries)
  /-- The request after a page has its token, and is like the first one otherwise. -/
  later : ∀ k p x y, pages[k]? = some p → log[0]? = some x → log[k + 1]? = some y →
    ∃ t, p.nextToken = some t ∧
      y.1 = x.1.withBody (.obj (body.insert ListRequest.nextTokenKey (.str t)).entries)
  /-- The command fails when a fetch does, if only because nothing can be sent. -/
  failed_iff : (∃ e, ending = .failed e) ↔ log = [] ∨ ∃ x ∈ log, ∃ e, l.read x = .error e
  /-- At its end there is one summary, unless it fails. -/
  summed : ∃ shown closing, ms = shown ++ closing ∧ (∀ m ∈ shown, m.isSummary = false) ∧
    Summed l.resource pages.length (ms.filterMap Message.row?).length ending closing
  /-- A limit bounds pages, requests and moves. -/
  limited : ∀ n, limit = some n →
    pages.length ≤ n ∧ log.length < 2 * n ∧ (n ≤ moves + 1 → ending ≠ .unfinished)
  unfinished : ending = .unfinished → pages.length = moves + 1

/-- A fetch at a place of the log. -/
theorem fetch_of_sent {first : Request}
    (sent : log.map Prod.fst = xs.map fun x => first.withBody x.fetch.params.toRequest.toJson)
    {k : Nat} {x : Request × Reply} (hx : log[k]? = some x) :
    ∃ y, xs[k]? = some y ∧ x.1 = first.withBody y.fetch.params.toRequest.toJson := by
  have hk := congrArg (·[k]?) sent
  simp only [List.getElem?_map, hx, Option.map_some] at hk
  obtain ⟨y, hy, he⟩ := Option.map_eq_some_iff.mp hk.symm
  exact ⟨y, hy, he.symm⟩

/-- Errors are read off the log or off the answers. -/
theorem exists_error_iff (read : log.map l.read = xs.map Paging.Exchange.answer) :
    (∃ x ∈ log, ∃ e, l.read x = .error e) ↔ ∃ x ∈ xs, ∃ e, x.answer = .error e := by
  have hmem (e : Error) : .error e ∈ log.map l.read ↔ .error e ∈ xs.map Paging.Exchange.answer := by
    rw [read]
  simp only [List.mem_map] at hmem
  constructor
  · rintro ⟨x, hx, e, he⟩
    obtain ⟨y, hy, he⟩ := (hmem e).mp ⟨x, hx, he⟩
    exact ⟨y, hy, e, he⟩
  · rintro ⟨y, hy, e, he⟩
    obtain ⟨x, hx, he⟩ := (hmem e).mpr ⟨y, hy, he⟩
    exact ⟨x, hx, e, he⟩

section OfTrace

variable (h : Trace l.resource limit base moves 0 [] none xs pages ms ending)
  (hb : base.LeavesToken) (hl : ∀ n, limit = some n → 1 ≤ n)

include h hb hl

/-- What the log has to do with the fetches of the walk; the messages are those of the walk. -/
theorem listed_of_trace (answered : pages.map .ok <+: log.map l.read)
    (unprinted : Unprinted pages.length ((log.drop pages.length).map l.read))
    (returns : (log.drop pages.length).map Prod.fst <+:
      ((log.take (pages.length + 1)).map Prod.fst).reverse)
    (all : ending = .completed → log.length = xs.length)
    (first : ∀ x, log[0]? = some x → x.1 = x.1.withBody (base.withToken none).toJson)
    (later : ∀ k p x y, pages[k]? = some p → log[0]? = some x → log[k + 1]? = some y →
      ∃ t, p.nextToken = some t ∧ y.1 = x.1.withBody (base.withToken (some t)).toJson)
    (errors : (log = [] ∨ ∃ x ∈ log, ∃ e, l.read x = .error e) ↔
      ∃ x ∈ xs, ∃ e, x.answer = .error e)
    (shorter : log.length ≤ xs.length) :
    Listed l limit moves log ms ending pages (base.withToken none).body where
  answered := answered
  full p hp := (h.full p hp).imp_right And.right
  unprinted := unprinted
  returns := returns
  complete ends printed := by
    refine (h.complete ends ((all ends).symm.trans printed)).imp_right ?_
    rintro ⟨n, rfl, hle⟩
    have hge := (h.limited (hl n rfl)).1
    rw [List.length_nil, Nat.zero_add] at hle hge
    rw [Nat.le_antisymm hle hge]
  numbers := h.numbers
  rows := h.rows
  tokenless := ListRequest.get?_body_first hb
  first := first
  later k p x y hp hx hy := by
    obtain ⟨t, ht, he⟩ := later k p x y hp hx hy
    refine ⟨t, ht, ?_⟩
    rw [he, ListRequest.toJson, ListRequest.body_withToken hb]
  failed_iff := h.failed_iff.trans errors.symm
  summed := by
    obtain ⟨shown, closing, hms, hshown, hsum⟩ := h.summed
    rw [List.length_nil, Nat.zero_add, Nat.zero_add] at hsum
    exact ⟨shown, closing, hms, hshown, hsum⟩
  limited n hn := by
    subst hn
    obtain ⟨hpages, hxs, hend⟩ := h.limited (hl n rfl)
    simp only [List.length_nil] at hpages hxs hend
    exact ⟨by omega, by omega, fun hn => hend (by omega)⟩
  unfinished := h.unfinished

theorem listed_of_sent {first : Request}
    (sent : log.map Prod.fst = xs.map fun x => first.withBody x.fetch.params.toRequest.toJson)
    (read : log.map l.read = xs.map Paging.Exchange.answer) :
    Listed l limit moves log ms ending pages (base.withToken none).body := by
  obtain ⟨x', ys, rfl, hfirst⟩ := h.first_request
  have hlog : log ≠ [] := by
    rintro rfl
    cases read
  have hlen : log.length = (x' :: ys).length := by simpa using congrArg List.length read
  refine listed_of_trace h hb hl (by rw [read]; exact h.answered) ?unprinted ?returns
    (fun _ => hlen) (fun x hx => ?first) (fun k p x y hp hx hy => ?later) ?errors
    (Nat.le_of_eq hlen)
  case unprinted =>
    have hunprinted := h.unprinted
    rw [List.map_drop, ← read, List.length_nil, Nat.zero_add] at hunprinted
    rwa [List.map_drop]
  case returns =>
    have hreturns := h.returns.map fun request => first.withBody request.toJson
    rw [List.map_nil, List.append_nil] at hreturns
    simpa only [List.map_drop, List.map_take, List.map_reverse, List.map_map, Function.comp_def,
      sent] using hreturns
  case first =>
    obtain ⟨y, hy, he⟩ := fetch_of_sent sent hx
    cases hy
    rw [he, hfirst]
    rfl
  case later =>
    obtain ⟨_, -, hxe⟩ := fetch_of_sent sent hx
    obtain ⟨y', hy', hye⟩ := fetch_of_sent sent hy
    obtain ⟨t, ht, hreq⟩ := h.later_request hp hy'
    exact ⟨t, ht, by rw [hxe, hye, hreq]; rfl⟩
  case errors =>
    rw [exists_error_iff read]
    exact ⟨fun h => h.resolve_left hlog, .inr⟩

/-- Without a request, the first fetch fails. -/
theorem listed_of_unsent (failed : ∀ x ∈ xs, ∃ e, x.answer = .error e) :
    Listed l limit moves [] ms ending pages (base.withToken none).body := by
  obtain ⟨x, ys, rfl, -⟩ := h.first_request
  obtain ⟨e, he⟩ := failed x List.mem_cons_self
  obtain rfl : pages = [] := by
    cases pages with
    | nil => rfl
    | cons p pages => cases (List.cons_prefix_cons.mp h.answered).1.trans he
  have herror : ∃ y ∈ x :: ys, ∃ e, y.answer = .error e := ⟨x, List.mem_cons_self, e, he⟩
  refine listed_of_trace h hb hl List.nil_prefix (unprinted_nil _) List.nil_prefix (fun ends => ?_)
    (fun _ hx => by cases hx) (fun _ _ _ _ hp => by cases hp) (iff_of_true (.inl rfl) herror)
    (Nat.zero_le _)
  obtain ⟨e', hfailed⟩ := h.failed_iff.mpr herror
  cases ends.symm.trans hfailed

end OfTrace

variable {host : Host} {net : Network σ} {s : σ} {i : Invocation} {lines : List String}
  {resource : Resource} {q : QueryOptions} {wanted : Nat} {all : Bool}
  {o : Opened (List (Request × Reply) × σ)}

theorem run_list_of_ok {σ : Type} {net : Network σ} {s : σ} {o : Opened σ}
    (hi : i.command = .list resource q wanted all) (ho : openTable host i resource q s = .ok o)
    (moves : Nat) :
    run host net s moves i lines =
      list (sourceOf net o.service) resource (if all then none else some wanted) moves o.table := by
  simp only [run, hi, ho]
  rfl

/-- A computer without variables and files. -/
def bareHost : Host := ⟨fun _ => none, fun _ => .error .notFound, 0⟩

/-- Options that ask for two rows on a page, and add a parameter. -/
def mine : QueryOptions := ⟨[], false, none, false, some 2, ["Owner=me"]⟩

/-- A command for a local console. -/
def atLocalhost (command : CommandLine.Command) : Invocation :=
  ⟨none, some "http://localhost", none, .json, .info, false, command⟩

/-- An answer with sessions. -/
def sessionsReply (names : List String) (token : Option String) : Reply :=
  let body := Json.object <| ("Sessions", .arr (names.map .str)) ::
    token.toList.map fun t => (ListRequest.nextTokenKey, .str t)
  .answer 200 (Text.Utf8.encode body.compact.toList) true

/-- A local console with sessions on two pages. -/
def twoPages : Http.Server :=
  ⟨.domain "localhost".toList, 80, [sessionsReply ["a", "b"] (some "t"), sessionsReply ["c"] none],
    []⟩

theorem leavesToken_mine : mine.LeavesToken := by
  intro p hp v h
  obtain rfl := List.mem_singleton.mp hp
  rw [show CommandLine.parseParam "Owner=me" = .ok ("Owner", "me") by decide +kernel] at h
  have hkey : "Owner" = ListRequest.nextTokenKey := congrArg Prod.fst (Except.ok.inj h)
  exact absurd hkey (by decide)

example :
    let out := run bareHost Http.Server.network twoPages 5
      (atLocalhost (.list .sessions mine 2 false)) []
    out.messages.filterMap Message.pageNumber? = [1, 2] ∧
      out.network.received.length = 2 := by decide +kernel

end CursorPaging.Session
