import CursorPaging.Proofs.Query.Builder
import Mathlib.Data.List.Forall2

/-!
# Queries step by step

What a sequence of steps builds is put together from what each step builds on its own, and the first
step that builds nothing decides the error:

* `check_eq_ok_iff`: the tokens that are taken over, and what becomes of them;
* `exists_build_singleton_iff`, `madeOf_singleton`: one step on its own;
* `build_append`: two sequences of steps, one after the other;
* `build_eq_error_iff`: the first step that fails;
* `build_stepwise`: all of this together.
-/

namespace CursorPaging

/-- Two queries as one; one of them that joins its tokens by `or` is enough. -/
def FilterQuery.append (q q' : FilterQuery) : FilterQuery :=
  ⟨q.tokens ++ q'.tokens, if q.operation = .or then .or else q'.operation⟩

namespace FilterQuery

theorem append_empty (q : FilterQuery) : q.append empty = q := by
  obtain ⟨tokens, operation⟩ := q
  cases operation <;> simp [append, empty]

theorem append_assoc (q q' q'' : FilterQuery) :
    (q.append q').append q'' = q.append (q'.append q'') := by
  simp only [append, List.append_assoc, mk.injEq, true_and]
  split <;> simp [*]

theorem operation_append_eq_or_iff (q q' : FilterQuery) :
    (q.append q').operation = .or ↔ q.operation = .or ∨ q'.operation = .or := by
  simp only [append]
  split <;> simp [*]

end FilterQuery

namespace Query

variable {resource : Option Resource} {offset : Int} {t t' : FilterToken} {s : Step}
  {steps : List Step} {q : FilterQuery} {e : Error}

/-! ## Tokens -/

/-- The values of the property are points in time, for the resource that is filtered. -/
def IsDateOf (resource : Option Resource) (property : String) : Prop :=
  ∃ r, resource = some r ∧ property ∈ r.filterProperties ∧ property ∈ Resource.dateProperties

/-- A token that is taken over. -/
structure Passes (resource : Option Resource) (offset : Int) (t : FilterToken) : Prop where
  operator : t.operator ∈ operators
  property : ∀ r, resource = some r → t.property ∈ r.filterProperties
  date : IsDateOf resource t.property → ∃ value, normalizeDate t.value offset = .ok value

/-- What a token becomes: a point in time is completed, and nothing else is changed. -/
inductive Completes (resource : Option Resource) (offset : Int) :
    FilterToken → FilterToken → Prop where
  | date {t : FilterToken} {value : String} (date : IsDateOf resource t.property)
      (full : normalizeDate t.value offset = .ok value) :
    Completes resource offset t { t with value := value }
  | other {t : FilterToken} (other : ¬IsDateOf resource t.property) :
    Completes resource offset t t

theorem isDateOf_some_iff {r : Resource} {property : String} :
    IsDateOf (some r) property ↔ r.isDate property = true := by
  simp [IsDateOf, Resource.isDate, Resource.accepts]

theorem not_isDateOf_none (property : String) : ¬IsDateOf none property := by
  rintro ⟨r, h, -⟩
  cases h

theorem checkProperty_eq_ok_iff {r : Resource} {property : String} :
    r.checkProperty property = .ok () ↔ property ∈ r.filterProperties := by
  unfold Resource.checkProperty Resource.accepts
  split <;> simp_all

/-- A point in time is replaced by its full form, if it has one. -/
theorem completed_eq_ok_iff {r : Resource} :
    (if r.isDate t.property then return { t with value := ← normalizeDate t.value offset }
      else return t) = Except.ok (ε := Error) t' ↔ Completes (some r) offset t t' := by
  split
  · rename_i h
    have date := isDateOf_some_iff.mpr h
    constructor
    · intro hb
      obtain ⟨value, hv, hb⟩ := bind_eq_ok hb
      cases hb
      exact .date date hv
    · intro hc
      cases hc with
      | date _ full => rw [full]; rfl
      | other other => exact absurd date other
  · rename_i h
    have other := mt isDateOf_some_iff.mp h
    constructor
    · intro hb
      cases hb
      exact .other other
    · intro hc
      cases hc with
      | date date => exact absurd date other
      | other => rfl

/-- A token passes if the resource knows its property, and leaves completed. -/
theorem checkFor_eq_ok_iff :
    Builder.checkFor resource offset t = .ok t' ↔
      (∀ r, resource = some r → t.property ∈ r.filterProperties) ∧
        Completes resource offset t t' := by
  cases resource with
  | none =>
    constructor
    · intro h
      cases h
      exact ⟨nofun, .other (not_isDateOf_none _)⟩
    · rintro ⟨-, hc⟩
      cases hc with
      | date date => exact absurd date (not_isDateOf_none _)
      | other => rfl
  | some r =>
    simp only [Option.some.injEq, forall_eq']
    constructor
    · intro h
      obtain ⟨_, hp, h⟩ := bind_eq_ok h
      exact ⟨checkProperty_eq_ok_iff.mp hp, completed_eq_ok_iff.mp h⟩
    · rintro ⟨hp, hc⟩
      rw [Builder.checkFor, checkProperty_eq_ok_iff.mpr hp]
      exact completed_eq_ok_iff.mpr hc

/-- A token that is checked passes or is refused, and if it passes it is completed. -/
theorem check_eq_ok_iff :
    Builder.check resource offset t = .ok t' ↔
      Passes resource offset t ∧ Completes resource offset t t' := by
  have hoperator : isOperator t.operator = true ↔ t.operator ∈ operators := by
    simp [isOperator]
  constructor
  · intro h
    obtain ⟨ho, h⟩ := Builder.check_eq_ok h
    obtain ⟨hp, hc⟩ := checkFor_eq_ok_iff.mp h
    refine ⟨⟨hoperator.mp ho, hp, fun date => ?_⟩, hc⟩
    cases hc with
    | date _ full => exact ⟨_, full⟩
    | other other => exact absurd date other
  · rintro ⟨hp, hc⟩
    rw [Builder.check, if_pos (hoperator.mpr hp.operator)]
    exact checkFor_eq_ok_iff.mpr ⟨hp.property, hc⟩

theorem Passes.completes (h : Passes resource offset t) : ∃ t', Completes resource offset t t' := by
  by_cases date : IsDateOf resource t.property
  · obtain ⟨value, full⟩ := h.date date
    exact ⟨_, .date date full⟩
  · exact ⟨t, .other date⟩

/-! ## One step -/

/-- The token that a step enters; none for one that joins, and for an expression that is none. -/
def Step.entered : Step → Option FilterToken
  | .token property operator value => some ⟨property, operator, value⟩
  | .expression text => (parseExpression text).toOption
  | .or => none

/-- A step that can be taken on its own: it joins, or it enters a token that passes. -/
def Acceptable (resource : Option Resource) (offset : Int) (s : Step) : Prop :=
  s = .or ∨ ∃ t, s.entered = some t ∧ Passes resource offset t

/-- A step contributes the token it enters, completed, if that passes. -/
theorem tokenOf_eq_some_iff :
    Builder.tokenOf resource offset s = .ok (some t') ↔
      ∃ t, s.entered = some t ∧ Passes resource offset t ∧ Completes resource offset t t' := by
  cases s with
  | token property operator value =>
    simp only [Step.entered, Option.some.injEq, exists_eq_left', ← check_eq_ok_iff]
    constructor
    · intro h
      obtain ⟨t, ht, he⟩ := map_eq_ok h
      cases he
      exact ht
    · intro h
      rw [Builder.tokenOf, h]
      rfl
  | expression text =>
    simp only [Step.entered, ← check_eq_ok_iff]
    constructor
    · intro h
      obtain ⟨t, ht, h⟩ := bind_eq_ok h
      obtain ⟨t', hc, h⟩ := bind_eq_ok h
      cases h
      exact ⟨t, by rw [ht]; rfl, hc⟩
    · rintro ⟨t, ht, hc⟩
      rw [Builder.tokenOf, eq_ok_of_toOption ht]
      show (do return some (← Builder.check resource offset t)) = _
      rw [hc]
      rfl
  | or =>
    constructor
    · intro h
      cases h
    · rintro ⟨t, ht, -⟩
      cases ht

theorem tokenOf_eq_none_iff : Builder.tokenOf resource offset s = .ok none ↔ s = .or := by
  constructor
  · intro h
    cases s with
    | token property operator value =>
      obtain ⟨t, -, he⟩ := map_eq_ok h
      cases he
    | expression text =>
      obtain ⟨t, -, h⟩ := bind_eq_ok h
      obtain ⟨t', -, h⟩ := bind_eq_ok h
      cases h
    | or => rfl
  · rintro rfl
    rfl

theorem exists_tokenOf_iff :
    (∃ o, Builder.tokenOf resource offset s = .ok o) ↔ Acceptable resource offset s := by
  constructor
  · rintro ⟨_ | t', h⟩
    · exact .inl (tokenOf_eq_none_iff.mp h)
    · obtain ⟨t, ht, hp, -⟩ := tokenOf_eq_some_iff.mp h
      exact .inr ⟨t, ht, hp⟩
  · rintro (h | ⟨t, ht, hp⟩)
    · exact ⟨none, tokenOf_eq_none_iff.mpr h⟩
    · obtain ⟨t', hc⟩ := hp.completes
      exact ⟨some t', tokenOf_eq_some_iff.mpr ⟨t, ht, hp, hc⟩⟩

/-- What a step contributes to a query. -/
def contribution : Option FilterToken → FilterQuery
  | some t => ⟨[t], .and⟩
  | none => ⟨[], .or⟩

theorem build_singleton (resource : Option Resource) (offset : Int) (s : Step) :
    build resource offset [s] = contribution <$> Builder.tokenOf resource offset s := by
  simp only [build, List.foldl_cons, List.foldl_nil, Builder.step, Builder.start]
  cases Builder.tokenOf resource offset s with
  | error e => rfl
  | ok t => cases t <;> rfl

theorem exists_build_singleton_iff :
    (∃ q, build resource offset [s] = .ok q) ↔ Acceptable resource offset s := by
  rw [build_singleton, ← exists_tokenOf_iff]
  constructor
  · rintro ⟨q, h⟩
    obtain ⟨o, ho, -⟩ := map_eq_ok h
    exact ⟨o, ho⟩
  · rintro ⟨o, ho⟩
    rw [ho]
    exact ⟨_, rfl⟩

/-- A query is made of what steps enter, with points in time completed, and joins its tokens by `or`
if one of the steps says so. -/
structure MadeOf (resource : Option Resource) (offset : Int) (steps : List Step)
    (q : FilterQuery) : Prop where
  tokens : List.Forall₂ (Completes resource offset) (steps.filterMap Step.entered) q.tokens
  operation : q.operation = .or ↔ .or ∈ steps

theorem madeOf_singleton (h : build resource offset [s] = .ok q) :
    MadeOf resource offset [s] q := by
  rw [build_singleton] at h
  obtain ⟨_ | t', ho, rfl⟩ := map_eq_ok h
  · obtain rfl := tokenOf_eq_none_iff.mp ho
    exact ⟨.nil, by simp [contribution]⟩
  · obtain ⟨t, ht, -, hc⟩ := tokenOf_eq_some_iff.mp ho
    refine ⟨?_, ?_⟩
    · rw [List.filterMap_cons_some ht]
      exact .cons hc .nil
    · have hs : .or ≠ s := by
        rintro rfl
        cases ht
      simp [contribution, hs]

/-- What is made of two sequences of steps is made of both together. -/
theorem MadeOf.append {q' : FilterQuery} {steps' : List Step} (h : MadeOf resource offset steps q)
    (h' : MadeOf resource offset steps' q') :
    MadeOf resource offset (steps ++ steps') (q.append q') where
  tokens := by
    rw [List.filterMap_append]
    exact List.rel_append h.tokens h'.tokens
  operation := by
    rw [FilterQuery.operation_append_eq_or_iff, h.operation, h'.operation, List.mem_append]

/-! ## Sequences of steps -/

theorem append_contribution (q : FilterQuery) (o : Option FilterToken) :
    q.append (contribution o) = match o with
      | some t => { q with tokens := q.tokens ++ [t] }
      | none => { q with operation := .or } := by
  obtain ⟨tokens, operation⟩ := q
  cases o <;> cases operation <;> simp [FilterQuery.append, contribution]

theorem finish_step (b : Builder) (s : Step) :
    (b.step s).finish = do
      let q ← b.finish
      let q' ← build b.resource b.offset [s]
      return q.append q' := by
  rw [build_singleton]
  obtain ⟨resource, offset, query, failure⟩ := b
  unfold Builder.step Builder.finish
  dsimp only
  cases Builder.tokenOf resource offset s with
  | error e => cases failure <;> rfl
  | ok o =>
    have ho := append_contribution query o
    cases failure with
    | some e => cases o <;> rfl
    | none =>
      show _ = Except.ok (query.append (contribution o))
      rw [ho]
      cases o <;> rfl

/-- What steps contribute does not depend on the state of the builder before them. -/
theorem finish_foldl (b : Builder) (steps : List Step) :
    (steps.foldl Builder.step b).finish = do
      let q ← b.finish
      let q' ← build b.resource b.offset steps
      return q.append q' := by
  induction steps generalizing b with
  | nil =>
    show b.finish = (do let q ← b.finish; return q.append .empty)
    cases b.finish with
    | error e => rfl
    | ok q => exact congrArg Except.ok q.append_empty.symm
  | cons s steps ih =>
    have hcons : build b.resource b.offset (s :: steps) = (do
        let q ← build b.resource b.offset [s]
        let q' ← build b.resource b.offset steps
        return q.append q') := by
      obtain ⟨hr, ho⟩ := Builder.step_keeps (.start b.resource b.offset) s
      have h := ih (Builder.step (.start b.resource b.offset) s)
      rw [hr, ho] at h
      exact h
    obtain ⟨hr, ho⟩ := Builder.step_keeps b s
    rw [List.foldl_cons, ih, hr, ho, finish_step, hcons]
    cases b.finish with
    | error e => rfl
    | ok q =>
      cases build b.resource b.offset [s] with
      | error e => rfl
      | ok q' =>
        cases build b.resource b.offset steps with
        | error e => rfl
        | ok q'' => exact congrArg Except.ok (q.append_assoc q' q'')

theorem foldl_keeps (b : Builder) (steps : List Step) :
    (steps.foldl Builder.step b).resource = b.resource ∧
      (steps.foldl Builder.step b).offset = b.offset := by
  induction steps generalizing b with
  | nil => exact ⟨rfl, rfl⟩
  | cons s steps ih =>
    obtain ⟨hr, ho⟩ := ih (b.step s)
    obtain ⟨hr', ho'⟩ := b.step_keeps s
    exact ⟨hr.trans hr', ho.trans ho'⟩

/-- Steps after others contribute what they would without them. -/
theorem build_append (resource : Option Resource) (offset : Int) (steps steps' : List Step) :
    build resource offset (steps ++ steps') = do
      let q ← build resource offset steps
      let q' ← build resource offset steps'
      return q.append q' := by
  obtain ⟨hr, ho⟩ := foldl_keeps (.start resource offset) steps
  rw [build, List.foldl_append, finish_foldl, hr, ho]
  rfl

theorem build_cons (resource : Option Resource) (offset : Int) (s : Step) (steps : List Step) :
    build resource offset (s :: steps) = do
      let q ← build resource offset [s]
      let q' ← build resource offset steps
      return q.append q' :=
  build_append resource offset [s] steps

/-- A query can be built if each of its steps can be taken. -/
theorem exists_build_iff :
    (∃ q, build resource offset steps = .ok q) ↔ ∀ s ∈ steps, Acceptable resource offset s := by
  induction steps with
  | nil => exact ⟨fun _ => nofun, fun _ => ⟨.empty, rfl⟩⟩
  | cons s steps ih =>
    rw [List.forall_mem_cons, ← ih, ← exists_build_singleton_iff, build_cons]
    constructor
    · rintro ⟨q, h⟩
      obtain ⟨q₁, h₁, h⟩ := bind_eq_ok h
      obtain ⟨q₂, h₂, -⟩ := bind_eq_ok h
      exact ⟨⟨q₁, h₁⟩, q₂, h₂⟩
    · rintro ⟨⟨q₁, h₁⟩, q₂, h₂⟩
      rw [h₁, h₂]
      exact ⟨_, rfl⟩

theorem madeOf_build (h : build resource offset steps = .ok q) :
    MadeOf resource offset steps q := by
  induction steps generalizing q with
  | nil =>
    cases h
    exact ⟨.nil, by simp [Builder.start, FilterQuery.empty]⟩
  | cons s steps ih =>
    rw [build_cons] at h
    obtain ⟨q₁, h₁, h⟩ := bind_eq_ok h
    obtain ⟨q₂, h₂, h⟩ := bind_eq_ok h
    cases h
    exact (madeOf_singleton h₁).append (ih h₂)

/-- The error is that of the first step that cannot be taken, whatever comes after it. -/
theorem build_eq_error_iff :
    build resource offset steps = .error e ↔ ∃ before s after, steps = before ++ s :: after ∧
      (∀ x ∈ before, Acceptable resource offset x) ∧ ¬Acceptable resource offset s ∧
      build resource offset [s] = .error e := by
  constructor
  · intro h
    induction steps with
    | nil => cases h
    | cons s steps ih =>
      rw [build_cons] at h
      cases hs : build resource offset [s] with
      | error e' =>
        rw [hs] at h
        cases h
        refine ⟨[], s, steps, rfl, nofun, fun ha => ?_, hs⟩
        obtain ⟨q, hq⟩ := exists_build_singleton_iff.mpr ha
        rw [hs] at hq
        cases hq
      | ok q =>
        have ha : Acceptable resource offset s := exists_build_singleton_iff.mp ⟨q, hs⟩
        have hrest : build resource offset steps = .error e := by
          rw [hs] at h
          cases hr : build resource offset steps with
          | error e' => rw [hr] at h; cases h; rfl
          | ok q' => rw [hr] at h; cases h
        obtain ⟨before, s', after, rfl, hbefore, hnot, he⟩ := ih hrest
        exact ⟨s :: before, s', after, rfl, List.forall_mem_cons.mpr ⟨ha, hbefore⟩, hnot, he⟩
  · rintro ⟨before, s, after, rfl, hbefore, -, he⟩
    obtain ⟨q, hq⟩ := exists_build_iff.mpr hbefore
    rw [build_append, hq, build_cons, he]
    rfl

/-! ## Joining -/

/-- The tokens of a sequence of steps, or its error. -/
def tokensOf (resource : Option Resource) (offset : Int) (steps : List Step) :
    Except Error (List FilterToken) :=
  FilterQuery.tokens <$> build resource offset steps

theorem tokensOf_cons (resource : Option Resource) (offset : Int) (s : Step) (steps : List Step) :
    tokensOf resource offset (s :: steps) = do
      let ts ← tokensOf resource offset [s]
      let ts' ← tokensOf resource offset steps
      return ts ++ ts' := by
  unfold tokensOf
  rw [build_cons]
  cases build resource offset [s] with
  | error e => rfl
  | ok q => cases build resource offset steps <;> rfl

/-- Steps that join have no influence on tokens and errors. -/
theorem tokensOf_filter (resource : Option Resource) (offset : Int) (steps : List Step) :
    tokensOf resource offset (steps.filter (· ≠ .or)) = tokensOf resource offset steps := by
  induction steps with
  | nil => rfl
  | cons s steps ih =>
    rw [tokensOf_cons, List.filter_cons]
    split
    · rw [tokensOf_cons, ih]
    · rename_i h
      obtain rfl : s = .or := by simpa using h
      rw [ih]
      show _ = (do let ts' ← tokensOf resource offset steps; return [] ++ ts')
      cases tokensOf resource offset steps <;> rfl

/-- How a query depends on the steps that build it. -/
structure Stepwise (resource : Option Resource) (offset : Int) (steps : List Step) : Prop where
  builds_iff : (∃ q, build resource offset steps = .ok q) ↔
    ∀ s ∈ steps, Acceptable resource offset s
  tokens : ∀ q, build resource offset steps = .ok q →
    List.Forall₂ (Completes resource offset) (steps.filterMap Step.entered) q.tokens
  operation : ∀ q, build resource offset steps = .ok q → (q.operation = .or ↔ .or ∈ steps)
  fails_iff : ∀ e, build resource offset steps = .error e ↔
    ∃ before s after, steps = before ++ s :: after ∧
      (∀ x ∈ before, Acceptable resource offset x) ∧ ¬Acceptable resource offset s ∧
      build resource offset [s] = .error e
  moved : ∀ steps', steps'.filter (· ≠ .or) = steps.filter (· ≠ .or) →
    tokensOf resource offset steps' = tokensOf resource offset steps
  apart : ∀ before after, steps = before ++ after →
    build resource offset steps = do
      let q ← build resource offset before
      let q' ← build resource offset after
      return q.append q'

/-- A query is built if every step can be taken on its own. It then has the tokens of the steps in
their order, with nothing changed but the points in time of the resource, which are completed, and
it joins them by `or` if one of the steps says so, wherever that step stands. Otherwise the first
step that cannot be taken decides the error. Steps that join have no influence on tokens and errors,
and what a part of the steps contributes does not depend on the others. -/
theorem build_stepwise (resource : Option Resource) (offset : Int) (steps : List Step) :
    Stepwise resource offset steps where
  builds_iff := exists_build_iff
  tokens _ h := (madeOf_build h).tokens
  operation _ h := (madeOf_build h).operation
  fails_iff _ := build_eq_error_iff
  moved steps' same := by
    rw [← tokensOf_filter resource offset steps', same, tokensOf_filter]
  apart before after parts := by
    rw [parts]
    exact build_append resource offset before after

end Query

end CursorPaging
