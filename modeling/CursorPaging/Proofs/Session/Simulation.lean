import CursorPaging.Proofs.Paging.Simulation
import CursorPaging.Proofs.Session.Walking
import CursorPaging.Session

/-!
# Sessions over sources that answer alike

A session sees of a source what its table shows, so over sources that answer alike it prints the
same messages and ends in the same way:

* `walk_alike`, `list_alike`: lists, by induction over the moves;
* `react_withSource`, `dialogue_alike`, `browse_alike`: dialogues, by induction over the lines.
-/

namespace CursorPaging

variable {σ τ : Type} {R : σ → τ → Prop}

namespace Session

open CommandLine (BrowseCommand)
open Paging (Alike Source Table)

variable {f : Source σ Json} {g : Source τ Json} {resource : Resource}

/-- The outcomes are the same but for the networks, which are related. -/
structure Outcome.Like (R : σ → τ → Prop) (o : Outcome σ) (o' : Outcome τ) : Prop where
  messages : o.messages = o'.messages
  ending : o.ending = o'.ending
  network : R o.network o'.network

theorem Outcome.Like.prepend {o : Outcome σ} {o' : Outcome τ} (h : o.Like R o')
    (ms : List Message) :
    Outcome.Like R { o with messages := ms ++ o.messages }
      { o' with messages := ms ++ o'.messages } :=
  { h with messages := congrArg (ms ++ ·) h.messages }

/-! ## Lists -/

/-- The walk through a table over a source in another state. -/
def Walk.withSource (w : Walk σ) (s : τ) : Walk τ := ⟨w.table.withSource s, w.printed, w.records⟩

theorem Walk.print_withSource (resource : Resource) (w : Walk σ) (s : τ) :
    (w.withSource s).print resource =
      ((w.print resource).1, (w.print resource).2.withSource s) := by
  by_cases new : w.printed < w.table.controller.page
  · rw [Walk.print_new new, Walk.print_new (w := w.withSource s) new]
    rfl
  · rw [Walk.print_old new, Walk.print_old (w := w.withSource s) new]

theorem Walk.table_print (w : Walk σ) : (w.print resource).2.table = w.table := by
  unfold Walk.print
  dsimp only
  split <;> rfl

/-- A walk over sources that answer alike prints the same and leaves them alike. -/
theorem walk_alike (h : Alike R f g) (limit : Option Nat) (moves : Nat) {w : Walk σ} {s : τ}
    (hs : R w.table.source s) :
    (Walk.run f resource limit moves w).Like R
      (Walk.run g resource limit moves (w.withSource s)) := by
  induction moves using Nat.strongRecOn generalizing w s with
  | _ moves ih =>
  have hp := w.print_withSource resource s
  have hsource : R (w.print resource).2.table.source s := by rw [w.table_print]; exact hs
  generalize hw : w.print resource = printed at hp hsource
  obtain ⟨ms, w'⟩ := printed
  cases hf : w.table.controller.failed with
  | true =>
    rw [Walk.run_failed hf, Walk.run_failed (w := w.withSource s) hf]
    exact ⟨rfl, rfl, hs⟩
  | false =>
    cases hg : w'.goesOn limit with
    | false =>
      rw [Walk.run_ended hw hf hg, Walk.run_ended hp hf hg]
      exact ⟨rfl, rfl, hsource⟩
    | true =>
      cases moves with
      | zero =>
        rw [Walk.run_paused hw hf hg, Walk.run_paused hp hf hg]
        exact ⟨rfl, rfl, hsource⟩
      | succ moves =>
        have hstep := Paging.Table.handle_withSource h hsource .nextPage
        generalize hx : w'.table.handle f .nextPage = x at hstep
        generalize hy : (w'.table.withSource s).handle g .nextPage = y at hstep
        cases hstep with
        | error e =>
          rw [Walk.run_refused hw hf hg hx, Walk.run_refused hp hf hg hy]
          exact ⟨rfl, rfl, hsource⟩
        | @ok t xs s₁ sources =>
          rw [Walk.run_next hw hf hg hx, Walk.run_next hp hf hg hy]
          have hlater := ih moves (Nat.lt_succ_self _) (w := ⟨t, w'.printed, w'.records⟩) sources
          exact hlater.prepend ms

theorem list_alike (h : Alike R f g) (limit : Option Nat) (moves : Nat) {t : Table σ Json} {s : τ}
    (hs : R t.source s) :
    (list f resource limit moves t).Like R (list g resource limit moves (t.withSource s)) := by
  obtain ⟨r, hr, hg⟩ := Paging.Table.settled_withSource h hs
  rw [list, list, hg]
  exact walk_alike h limit moves (w := ⟨(t.settled f).1, 0, 0⟩) hr

/-! ## Dialogues -/

/-- What a line leads to over both sources. -/
inductive ReactsLike (R : σ → τ → Prop) : Reaction σ → Reaction τ → Prop where
  | quit : ReactsLike R .quit .quit
  | goOn {t : Table σ Json} {s : τ} (messages : List Message) (sources : R t.source s) :
    ReactsLike R (.goOn messages t) (.goOn messages (t.withSource s))

/-- A browse command is refused over both sources, or leaves the same table. -/
theorem apply_withSource (resource : Resource) (h : Alike R f g) (dateOffset : Int)
    {t : Table σ Json} {s : τ}
    (hs : R t.source s) (command : BrowseCommand) :
    (∃ e, apply f resource dateOffset t command = .error e ∧
      apply g resource dateOffset (t.withSource s) command = .error e) ∨
    ∃ t' r, R t'.source r ∧ apply f resource dateOffset t command = .ok t' ∧
      apply g resource dateOffset (t.withSource s) command = .ok (t'.withSource r) := by
  have hevent : eventOf resource dateOffset (t.withSource s) command =
    eventOf resource dateOffset t command := by cases command <;> rfl
  unfold apply
  rw [hevent]
  cases eventOf resource dateOffset t command with
  | error e => exact .inl ⟨e, rfl, rfl⟩
  | ok event =>
    cases event with
    | none => exact .inr ⟨t, s, hs, rfl, rfl⟩
    | some event =>
      have hstep := Paging.Table.handle_withSource h hs event
      simp only [bind, Except.bind]
      generalize t.handle f event = x at hstep
      generalize (t.withSource s).handle g event = y at hstep
      cases hstep with
      | error e => exact .inl ⟨e, rfl, rfl⟩
      | @ok t' xs r sources => exact .inr ⟨t', r, sources, rfl, rfl⟩

theorem react_of_command {t : Table σ Json} {dateOffset : Int} {line : String}
    {command : BrowseCommand} (hp : BrowseCommand.parse line = .ok (some command))
    (stays : command ≠ .quit) :
    react f resource dateOffset t line =
      match apply f resource dateOffset t command with
      | .ok t' => .goOn (Message.ofPage resource t'.controller) t'
      | .error e => .goOn [.error e.message] t := by
  unfold react
  rw [hp]
  cases command with
  | quit => contradiction
  | next | previous | go | refresh | deleted | sort | filter | pageSize => rfl

theorem react_withSource (resource : Resource) (h : Alike R f g) (dateOffset : Int)
    {t : Table σ Json} {s : τ}
    (hs : R t.source s) (line : String) :
    ReactsLike R (react f resource dateOffset t line)
      (react g resource dateOffset (t.withSource s) line) := by
  cases hp : BrowseCommand.parse line with
  | error e =>
    rw [react, react, hp]
    exact .goOn _ hs
  | ok found =>
    cases found with
    | none =>
      rw [react, react, hp]
      exact .goOn _ hs
    | some command =>
      by_cases quits : command = .quit
      · rw [react, react, hp, quits]
        exact .quit
      · rw [react_of_command hp quits, react_of_command hp quits]
        rcases apply_withSource resource h dateOffset hs command with
          ⟨e, hf, hg⟩ | ⟨t', r, hr, hf, hg⟩
        · rw [hf, hg]
          exact .goOn _ hs
        · rw [hf, hg]
          exact .goOn _ hr

/-- A dialogue over sources that answer alike is the same. -/
theorem dialogue_alike (h : Alike R f g) (dateOffset : Int) {t : Table σ Json} {s : τ}
    (hs : R t.source s) (lines : List String) :
    (dialogue f resource dateOffset t lines).Like R
      (dialogue g resource dateOffset (t.withSource s) lines) := by
  induction lines generalizing t s with
  | nil => exact ⟨rfl, rfl, hs⟩
  | cons line lines ih =>
    have hr := react_withSource resource h dateOffset hs line
    rw [dialogue, dialogue]
    generalize react f resource dateOffset t line = x at hr
    generalize react g resource dateOffset (t.withSource s) line = y at hr
    cases hr with
    | quit => exact ⟨rfl, rfl, hs⟩
    | goOn messages sources => exact (ih sources).prepend messages

theorem browse_alike (h : Alike R f g) (dateOffset : Int) {t : Table σ Json} {s : τ}
    (hs : R t.source s) (lines : List String) :
    (browse f resource dateOffset t lines).Like R
      (browse g resource dateOffset (t.withSource s) lines) := by
  obtain ⟨r, hr, hg⟩ := Paging.Table.settled_withSource h hs
  rw [browse, browse, hg]
  exact (dialogue_alike h dateOffset (t := (t.settled f).1) hr lines).prepend _

end Session

end CursorPaging
