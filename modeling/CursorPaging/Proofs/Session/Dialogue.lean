import CursorPaging.Proofs.CommandLine.BrowseCommand
import CursorPaging.Proofs.Http.Traffic
import CursorPaging.Proofs.Session.Message
import CursorPaging.Session

/-!
# Lines that do not count

A dialogue is the same without the lines that are blank and those that are refused, apart from the
errors that are shown for the latter, and nothing is read after the command to quit:

* `reacts_react`: the four things that a line can lead to;
* `messages_dialogue`: every message belongs to a line;
* `dialogue_counting`: leaving out the lines that do not count;
* `dialogue_upToQuit`: leaving out what follows the command to quit.
-/

namespace CursorPaging.Session

open CommandLine (BrowseCommand Invocation QueryOptions)
open CommandLine.BrowseCommand (isBlankLine isQuit)

variable {σ : Type} (source : Paging.Source σ Json) (resource : Resource) (dateOffset : Int)

/-- What a line can lead to: a command that is refused leaves the table as it is. -/
inductive Reacts (resource : Resource) (table : Paging.Table σ Json) (line : String) :
    Reaction σ → Prop where
  | blank (blank : isBlankLine line = true) (stays : isQuit line = false) :
    Reacts resource table line (.goOn [] table)
  | refused (e : Error) (visible : isBlankLine line = false) (stays : isQuit line = false) :
    Reacts resource table line (.goOn [.error e.message] table)
  | shown (table' : Paging.Table σ Json) (visible : isBlankLine line = false)
    (stays : isQuit line = false) :
    Reacts resource table line (.goOn (Message.ofPage resource table'.controller) table')
  | quit (visible : isBlankLine line = false) (quits : isQuit line = true) :
    Reacts resource table line .quit

/-- Every line is met in one of these ways. -/
theorem reacts_react (table : Paging.Table σ Json) (line : String) :
    Reacts resource table line (react source resource dateOffset table line) := by
  have visible (h : BrowseCommand.parse line ≠ .ok none) : isBlankLine line = false :=
    Bool.eq_false_iff.mpr (mt (BrowseCommand.parse_eq_none_iff line).mpr h)
  have stays (h : BrowseCommand.parse line ≠ .ok (some .quit)) : isQuit line = false :=
    Bool.eq_false_iff.mpr (mt (BrowseCommand.isQuit_iff line).mp h)
  unfold react
  split
  · rename_i hp
    exact .blank ((BrowseCommand.parse_eq_none_iff line).mp hp) (stays (by rw [hp]; nofun))
  · rename_i hp
    exact .quit (visible (by rw [hp]; nofun)) ((BrowseCommand.isQuit_iff line).mpr hp)
  · rename_i command hne hp
    have hvisible := visible (by rw [hp]; nofun)
    have hstays := stays (by rw [hp]; exact fun h => hne (Option.some.inj (Except.ok.inj h)))
    split
    · exact .shown _ hvisible hstays
    · exact .refused _ hvisible hstays
  · rename_i e hp
    exact .refused e (visible (by rw [hp]; nofun)) (stays (by rw [hp]; nofun))

/-! ## Leaving out lines -/

/-- The lines of the input, with the messages that each of them leads to. -/
def transcript (source : Paging.Source σ Json) (resource : Resource) (dateOffset : Int) :
    Paging.Table σ Json → List String → List (String × List Message)
  | _, [] => []
  | table, line :: rest =>
    match react source resource dateOffset table line with
    | .quit => (line :: rest).map (·, [])
    | .goOn messages table' => (line, messages) :: transcript source resource dateOffset table' rest

/-- Whether a line counts: it is not blank, and no error is shown for it. -/
def counts (entry : String × List Message) : Bool :=
  !isBlankLine entry.1 && !entry.2.any Message.isError

/-- The lines that count. -/
def counting (entries : List (String × List Message)) : List String :=
  (entries.filter counts).map Prod.fst

/-- The lines up to the first command to quit. -/
def upToQuit : List String → List String
  | [] => []
  | line :: rest => if isQuit line then [line] else line :: upToQuit rest

/-- The messages that are no errors. -/
def Outcome.withoutErrors (o : Outcome σ) : Outcome σ :=
  { o with messages := o.messages.filter fun m => !m.isError }

section Cons

variable {source resource dateOffset} {table table' : Paging.Table σ Json} {line : String}
  {messages : List Message}

theorem dialogue_quit (h : react source resource dateOffset table line = .quit)
    (rest : List String) :
    dialogue source resource dateOffset table (line :: rest) = ⟨[], .completed, table.source⟩ := by
  rw [dialogue, h]

theorem dialogue_goOn (h : react source resource dateOffset table line = .goOn messages table')
    (rest : List String) :
    dialogue source resource dateOffset table (line :: rest) =
      let later := dialogue source resource dateOffset table' rest
      { later with messages := messages ++ later.messages } := by
  rw [dialogue, h]

theorem transcript_quit (h : react source resource dateOffset table line = .quit)
    (rest : List String) :
    transcript source resource dateOffset table (line :: rest) = (line :: rest).map (·, []) := by
  rw [transcript, h]

theorem transcript_goOn (h : react source resource dateOffset table line = .goOn messages table')
    (rest : List String) :
    transcript source resource dateOffset table (line :: rest) =
      (line, messages) :: transcript source resource dateOffset table' rest := by
  rw [transcript, h]

end Cons

theorem counting_cons_of_counts {entry : String × List Message} (h : counts entry = true)
    (entries : List (String × List Message)) :
    counting (entry :: entries) = entry.1 :: counting entries := by
  rw [counting, List.filter_cons_of_pos h, List.map_cons, counting]

theorem counting_cons_of_not_counts {entry : String × List Message} (h : counts entry = false)
    (entries : List (String × List Message)) :
    counting (entry :: entries) = counting entries := by
  rw [counting, List.filter_cons_of_neg (Bool.eq_false_iff.mp h), counting]

theorem lines_transcript (table : Paging.Table σ Json) (lines : List String) :
    (transcript source resource dateOffset table lines).map Prod.fst = lines := by
  induction lines generalizing table with
  | nil => rfl
  | cons line rest ih =>
    cases h : react source resource dateOffset table line with
    | quit =>
      rw [transcript_quit h, List.map_map]
      exact List.map_id _
    | goOn messages table' => rw [transcript_goOn h, List.map_cons, ih]

/-- Every message belongs to a line. -/
theorem messages_dialogue (table : Paging.Table σ Json) (lines : List String) :
    (dialogue source resource dateOffset table lines).messages =
      (transcript source resource dateOffset table lines).flatMap Prod.snd := by
  induction lines generalizing table with
  | nil => rfl
  | cons line rest ih =>
    cases h : react source resource dateOffset table line with
    | quit =>
      rw [dialogue_quit h, transcript_quit h, List.flatMap_map]
      simp
    | goOn messages table' =>
      rw [dialogue_goOn h, transcript_goOn h, List.flatMap_cons, ← ih table']

/-- Only the errors are missing when the lines that do not count are left out. -/
theorem dialogue_counting (table : Paging.Table σ Json) (lines : List String) :
    dialogue source resource dateOffset table
        (counting (transcript source resource dateOffset table lines)) =
      (dialogue source resource dateOffset table lines).withoutErrors := by
  induction lines generalizing table with
  | nil => rfl
  | cons line rest ih =>
    have hr := reacts_react source resource dateOffset table line
    generalize h : react source resource dateOffset table line = reaction at hr
    -- a line that does not count leaves the table as it is, so the rest starts from the same one
    cases hr with
    | blank blank =>
      have hc : counts (line, []) = false := by rw [counts, blank]; rfl
      rw [transcript_goOn h, counting_cons_of_not_counts hc, ih, dialogue_goOn h]
      rfl
    | refused e =>
      have hc : counts (line, [.error e.message]) = false := Bool.and_false _
      rw [transcript_goOn h, counting_cons_of_not_counts hc, ih, dialogue_goOn h]
      rfl
    | shown table' visible =>
      have hpage := Message.isError_ofPage resource table'.controller
      have hc : counts (line, Message.ofPage resource table'.controller) = true := by
        rw [counts, visible, List.any_eq_false.mpr fun m hm => Bool.eq_false_iff.mp (hpage m hm)]
        rfl
      rw [transcript_goOn h, counting_cons_of_counts hc, dialogue_goOn h, dialogue_goOn h, ih]
      simp only [Outcome.withoutErrors, List.filter_append, Message.filter_ofPage]
    | quit visible =>
      have hc : counts (line, []) = true := by rw [counts, visible]; rfl
      rw [transcript_quit h, List.map_cons, counting_cons_of_counts hc, dialogue_quit h,
        dialogue_quit h]
      rfl

/-- Lines after the end of a dialogue make no difference. -/
theorem dialogue_upToQuit (table : Paging.Table σ Json) (lines : List String) :
    dialogue source resource dateOffset table (upToQuit lines) =
      dialogue source resource dateOffset table lines := by
  induction lines generalizing table with
  | nil => rfl
  | cons line rest ih =>
    have hr := reacts_react source resource dateOffset table line
    generalize h : react source resource dateOffset table line = reaction at hr
    cases hr with
    | quit _ quits => rw [upToQuit, if_pos quits, dialogue_quit h, dialogue_quit h]
    | blank _ stays | refused _ _ stays | shown _ _ stays =>
      rw [upToQuit, stays, if_neg Bool.false_ne_true, dialogue_goOn h, dialogue_goOn h, ih]

/-! ## Sessions -/

section Run

variable (host : Host) (net : Http.Network σ) (s : σ) (i : Invocation) (q : QueryOptions)

/-- The lines of the input of a command to browse, with the messages that each of them leads to; no
line is read unless the table can be opened. -/
def browsed (lines : List String) : List (String × List Message) :=
  match openTable host i resource q s with
  | .ok o =>
    let source := sourceOf net o.service
    transcript source resource host.dateOffset (o.table.settled source).1 lines
  | .error _ => lines.map (·, [])

variable {resource host net s i q} (moves : Nat)

theorem run_browse_of_error {e : Error} (hi : i.command = .browse resource q)
    (ho : openTable host i resource q s = .error e) (lines : List String) :
    run host net s moves i lines = ⟨[], .failed e, s⟩ := by
  simp only [run, hi, ho]
  rfl

theorem run_browse_of_ok {o : Opened σ} (hi : i.command = .browse resource q)
    (ho : openTable host i resource q s = .ok o) (lines : List String) :
    run host net s moves i lines =
      browse (sourceOf net o.service) resource host.dateOffset o.table lines := by
  simp only [run, hi, ho]
  rfl

/-- Without the lines that do not count, the command does the same but for their errors. -/
theorem run_counting (hi : i.command = .browse resource q) (lines : List String) :
    run host net s moves i (counting (browsed resource host net s i q lines)) =
      (run host net s moves i lines).withoutErrors := by
  cases ho : openTable host i resource q s with
  | error e => rw [run_browse_of_error moves hi ho, run_browse_of_error moves hi ho]; rfl
  | ok o =>
    rw [run_browse_of_ok moves hi ho, run_browse_of_ok moves hi ho, browsed, ho]
    simp only [browse, dialogue_counting, Outcome.withoutErrors, List.filter_append,
      Message.filter_ofPage]

theorem run_upToQuit (hi : i.command = .browse resource q) (lines : List String) :
    run host net s moves i (upToQuit lines) = run host net s moves i lines := by
  cases ho : openTable host i resource q s with
  | error e => rw [run_browse_of_error moves hi ho, run_browse_of_error moves hi ho]
  | ok o =>
    rw [run_browse_of_ok moves hi ho, run_browse_of_ok moves hi ho, browse, dialogue_upToQuit]
    rfl

theorem lines_browsed (lines : List String) :
    (browsed resource host net s i q lines).map Prod.fst = lines := by
  unfold browsed
  split
  · exact lines_transcript ..
  · rw [List.map_map]
    exact List.map_id _

theorem messages_run_browse (hi : i.command = .browse resource q) (lines : List String) :
    ∃ opening, (run host net s moves i lines).messages =
      opening ++ (browsed resource host net s i q lines).flatMap Prod.snd := by
  cases ho : openTable host i resource q s with
  | error e =>
    refine ⟨[], ?_⟩
    rw [run_browse_of_error moves hi ho, browsed, ho, List.flatMap_map]
    simp
  | ok o =>
    rw [run_browse_of_ok moves hi ho, browsed, ho, browse]
    exact ⟨_, congrArg _ (messages_dialogue ..)⟩

end Run

/-- What the lines that do not count, and those after the command to quit, bring about in a session:
errors are shown, and nothing else. Each line comes with the messages it leads to. -/
structure Unaffected (session : List String → Outcome σ) (entries : List (String × List Message))
    (lines : List String) : Prop where
  entered : entries.map Prod.fst = lines
  /-- Apart from those for the page that is shown first, all messages are for lines. -/
  answered : ∃ opening, (session lines).messages = opening ++ entries.flatMap Prod.snd
  network : (session (counting entries)).network = (session lines).network
  ending : (session (counting entries)).ending = (session lines).ending
  messages : (session (counting entries)).messages =
    (session lines).messages.filter fun m => !m.isError
  quit : session (upToQuit lines) = session lines

/-- Browsing is the same without the lines that do not count, down to the record of the requests. -/
theorem run_browse_unaffected (host : Host) (net : Http.Network σ) (s : σ) (moves : Nat)
    (i : Invocation) (resource : Resource) (q : QueryOptions) (lines : List String) :
    let i := { i with command := .browse resource q }
    Unaffected (run host net.recording ([], s) moves i)
      (browsed resource host net.recording ([], s) i q lines) lines := by
  intro i
  have hi : i.command = .browse resource q := rfl
  have hc : run host net.recording ([], s) moves i
      (counting (browsed resource host net.recording ([], s) i q lines)) = _ :=
    run_counting moves hi lines
  exact {
    entered := lines_browsed lines
    answered := messages_run_browse moves hi lines
    network := by rw [hc]; rfl
    ending := by rw [hc]; rfl
    messages := by rw [hc]; rfl
    quit := run_upToQuit moves hi lines }

end CursorPaging.Session
