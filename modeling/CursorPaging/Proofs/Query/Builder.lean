import CursorPaging.Query.Builder

/-!
# Queries that are built

A builder takes over the tokens of its steps that pass the checks, and for a resource none whose
property the resource lacks:

* `accepts_tokenOf`: what a step adds;
* `mem_build`, `accepts_build`: what a whole query consists of;
* `mem_grouped`: tokens are sent under their properties, and under nothing else.
-/

namespace CursorPaging

/-- What two computations in a row result in, if neither fails. -/
theorem bind_eq_ok {ε : Type} {α β : Type} {x : Except ε α} {f : α → Except ε β} {b : β}
    (h : x >>= f = .ok b) : ∃ a, x = .ok a ∧ f a = .ok b := by
  cases x with
  | error e => cases h
  | ok a => exact ⟨a, rfl, h⟩

theorem map_eq_ok {ε : Type} {α β : Type} {x : Except ε α} {f : α → β} {b : β}
    (h : f <$> x = .ok b) : ∃ a, x = .ok a ∧ f a = b := by
  cases x with
  | error e => cases h
  | ok a => exact ⟨a, rfl, Except.ok.inj h⟩

theorem eq_ok_of_toOption {ε : Type} {α : Type} {x : Except ε α} {a : α}
    (h : x.toOption = some a) : x = .ok a := by
  cases x with
  | error e => cases h
  | ok b => exact congrArg Except.ok (Option.some.inj h)

namespace Query

namespace Builder

variable {resource : Option Resource} {r : Resource} {offset : Int} {t t' : FilterToken}
  {b : Builder} {s : Step}

/-! ## Checks -/

theorem check_eq_ok (h : check resource offset t = .ok t') :
    isOperator t.operator = true ∧ checkFor resource offset t = .ok t' := by
  unfold check at h
  split at h
  · exact ⟨by assumption, h⟩
  · cases h

/-- A token keeps its property and its operator when it is checked. -/
theorem checkFor_eq_ok (h : checkFor (some r) offset t = .ok t') :
    r.accepts t.property = true ∧ t'.property = t.property ∧ t'.operator = t.operator := by
  obtain ⟨_, hcheck, h⟩ := bind_eq_ok h
  have haccepts : r.accepts t.property = true := by
    unfold Resource.checkProperty at hcheck
    split at hcheck
    · assumption
    · cases hcheck
  split at h
  · obtain ⟨value, -, h⟩ := bind_eq_ok h
    cases h
    exact ⟨haccepts, rfl, rfl⟩
  · cases h
    exact ⟨haccepts, rfl, rfl⟩

/-- A step adds no token but one that has been checked. -/
theorem check_of_tokenOf (h : tokenOf resource offset s = .ok (some t)) :
    ∃ entered, check resource offset entered = .ok t := by
  cases s with
  | token property operator value =>
    obtain ⟨t', ht, he⟩ := map_eq_ok h
    cases he
    exact ⟨_, ht⟩
  | expression text =>
    obtain ⟨entered, -, h⟩ := bind_eq_ok h
    obtain ⟨checked, hc, h⟩ := bind_eq_ok h
    cases h
    exact ⟨entered, hc⟩
  | or => cases h

theorem accepts_tokenOf (h : tokenOf (some r) offset s = .ok (some t)) :
    r.accepts t.property = true ∧ isOperator t.operator = true := by
  obtain ⟨entered, hc⟩ := check_of_tokenOf h
  obtain ⟨hoperator, hc⟩ := check_eq_ok hc
  obtain ⟨haccepts, hp, ho⟩ := checkFor_eq_ok hc
  rw [hp, ho]
  exact ⟨haccepts, hoperator⟩

/-! ## Steps -/

theorem step_keeps (b : Builder) (s : Step) :
    (b.step s).resource = b.resource ∧ (b.step s).offset = b.offset := by
  unfold step
  split <;> exact ⟨rfl, rfl⟩

theorem mem_step (h : t ∈ (b.step s).query.tokens) :
    t ∈ b.query.tokens ∨ tokenOf b.resource b.offset s = .ok (some t) := by
  unfold step at h
  split at h
  · rename_i t' ht'
    rcases List.mem_append.mp h with h | h
    · exact .inl h
    · obtain rfl := List.mem_singleton.mp h
      exact .inr ht'
  · exact .inl h
  · exact .inl h

/-- Every token of a query was there before or is made of one of the steps. -/
theorem mem_steps {steps : List Step} (h : t ∈ (steps.foldl step b).query.tokens) :
    t ∈ b.query.tokens ∨ ∃ s ∈ steps, tokenOf b.resource b.offset s = .ok (some t) := by
  induction steps generalizing b with
  | nil => exact .inl h
  | cons s steps ih =>
    obtain ⟨hr, ho⟩ := step_keeps b s
    rcases ih h with h | ⟨s', hs', h⟩
    · exact (mem_step h).imp_right fun h => ⟨s, List.mem_cons_self, h⟩
    · rw [hr, ho] at h
      exact .inr ⟨s', List.mem_cons_of_mem _ hs', h⟩

end Builder

variable {resource : Option Resource} {r : Resource} {offset : Int} {steps : List Step}
  {q : FilterQuery}

/-- Every token of a query comes from one of the steps that built it. -/
theorem mem_build (h : build resource offset steps = .ok q) {t : FilterToken} (ht : t ∈ q.tokens) :
    ∃ s ∈ steps, Builder.tokenOf resource offset s = .ok (some t) := by
  unfold build Builder.finish at h
  split at h
  · cases h
  · cases h
    exact (Builder.mem_steps ht).resolve_left nofun

/-- A query for a resource has no property that the resource does not know. -/
theorem accepts_build (h : build (some r) offset steps = .ok q) :
    ∀ t ∈ q.tokens, r.accepts t.property = true ∧ isOperator t.operator = true := by
  intro t ht
  obtain ⟨s, -, hs⟩ := mem_build h ht
  exact Builder.accepts_tokenOf hs

theorem accepts_ofExpressions {expressions : List String} {or : Bool}
    (h : ofExpressions r offset expressions or = .ok q) :
    ∀ t ∈ q.tokens, r.accepts t.property = true :=
  fun t ht => (accepts_build h t ht).1

end Query

namespace FilterQuery

theorem mem_foldl_addToGroup {tokens : List FilterToken} {groups : Dictionary (List WireToken)}
    {e : String × List WireToken} (h : e ∈ (tokens.foldl addToGroup groups).entries) :
    e ∈ groups.entries ∨ ∃ t ∈ tokens, e.1 = t.property := by
  induction tokens generalizing groups with
  | nil => exact .inl h
  | cons t tokens ih =>
    rcases ih h with h | ⟨t', ht', he⟩
    · rcases Entries.mem_key_insert h with he | h
      · exact .inr ⟨t, List.mem_cons_self, he⟩
      · exact .inl h
    · exact .inr ⟨t', List.mem_cons_of_mem _ ht', he⟩

theorem mem_grouped {q : FilterQuery} {e : String × List WireToken} (h : e ∈ q.grouped.entries) :
    ∃ t ∈ q.tokens, e.1 = t.property :=
  (mem_foldl_addToGroup h).resolve_left nofun

end FilterQuery

end CursorPaging
