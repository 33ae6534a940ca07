import CursorPaging.Proofs.Text.Pattern
import CursorPaging.Query.Expression

/-!
# The grammar of filter expressions

An expression is a property, an operator and a value with any blanks around them (`Writes`). The
reader takes the longest property and the longest operator, which leaves one way to read a text:

* `splitProperty_eq_some_iff`, `splitOperator_eq_some_iff`: what is taken from the start of a text;
* `exists_layout`, `Layout.splitExpression`: the three parts of a text;
* `splitExpression_eq_first`: they are what the regular expression for filters finds;
* `parseExpression_grammar`: the texts that are read, what they are read as, and the error of the
  others.
-/

namespace CursorPaging.Query

open Text

/-! ## Parts of expressions -/

/-- A letter, then letters and digits. -/
def IsPropertyName (s : List Char) : Prop :=
  ∃ c cs, s = c :: cs ∧ c.isAlpha = true ∧ ∀ d ∈ cs, d.isAlphanum = true

/-- A property goes as far as there are letters and digits. -/
theorem splitProperty_eq_some_iff {s property rest : List Char} :
    splitProperty s = some (property, rest) ↔ s = property ++ rest ∧ IsPropertyName property ∧
      ∀ c, rest.head? = some c → c.isAlphanum = false := by
  constructor
  · intro h
    cases s with
    | nil => cases h
    | cons c s =>
      simp only [splitProperty] at h
      split at h
      · rename_i hc
        cases h
        refine ⟨?_, ⟨c, _, rfl, hc, fun d => of_mem_takeWhile⟩, fun d => stop_dropWhile _ s⟩
        rw [List.cons_append, List.takeWhile_append_dropWhile]
      · cases h
  · rintro ⟨rfl, ⟨c, cs, rfl, hc, hcs⟩, stop⟩
    rw [List.cons_append, splitProperty, if_pos hc, takeWhile_append_of_stop hcs stop,
      dropWhile_append_of_stop hcs stop]

/-- The operator after which a sign of equality would make a longer one. -/
def IsStrict (operator : List Char) : Prop := operator = ['<'] ∨ operator = ['>']

theorem mem_operators_iff {s : List Char} : String.ofList s ∈ operators ↔
    s ∈ [['='], ['!', '='], [':'], ['!', ':'], ['<'], ['<', '='], ['>'], ['>', '=']] := by
  have hmap : operators.map String.toList =
    [['='], ['!', '='], [':'], ['!', ':'], ['<'], ['<', '='], ['>'], ['>', '=']] := by decide
  rw [← hmap, List.mem_map]
  constructor
  · exact fun h => ⟨_, h, String.toList_ofList⟩
  · rintro ⟨t, ht, rfl⟩
    rwa [String.ofList_toList]

/-- Of two operators that stand at one place, the longer one is taken. -/
theorem splitOperator_eq_some_iff {s operator rest : List Char} :
    splitOperator s = some (operator, rest) ↔ s = operator ++ rest ∧
      String.ofList operator ∈ operators ∧ (IsStrict operator → ∀ r, rest ≠ '=' :: r) := by
  rw [mem_operators_iff]
  constructor
  · intro h
    unfold splitOperator at h
    split at h
    case h_7 | h_8 =>
      rename_i stop
      cases h
      exact ⟨rfl, by decide, fun _ => stop⟩
    case h_9 => cases h
    all_goals
      cases h
      refine ⟨rfl, by decide, fun hs => ?_⟩
      rcases hs with hs | hs <;> cases hs
  · rintro ⟨rfl, ho, stop⟩
    simp only [List.mem_cons, List.not_mem_nil, or_false] at ho
    rcases ho with rfl | rfl | rfl | rfl | rfl | rfl | rfl | rfl
    · rfl
    · rfl
    · rfl
    · rfl
    · exact splitOperator.eq_7 rest (stop (.inl rfl))
    · rfl
    · exact splitOperator.eq_8 rest (stop (.inr rfl))
    · rfl

/-! ## Whole expressions -/

/-- What a property, an operator and a value have to be for an expression to hold them. The value
may be empty. -/
structure Parts (p o v : List Char) : Prop where
  property : IsPropertyName p
  operator : String.ofList o ∈ operators
  value : Trimmed v
  line : '\n' ∉ v

/-- The text is made of a property, an operator and a value, and of blanks around them. A value that
starts with a sign of equality is set off from `<` and `>` by a blank. -/
structure Layout (s p o v w₁ w₂ w₃ w₄ : List Char) : Prop extends Parts p o v where
  eq : s = w₁ ++ (p ++ (w₂ ++ (o ++ (w₃ ++ (v ++ w₄)))))
  blank : Blank w₁ ∧ Blank w₂ ∧ Blank w₃ ∧ Blank w₄
  strict : IsStrict o → w₃ = [] → ∀ r, v ≠ '=' :: r

theorem isBlank_of_isAlphanum {c : Char} (h : c.isAlphanum = true) : isBlank c = false := by
  cases hb : isBlank c with
  | false => rfl
  | true => rw [isAlphanum_of_isBlank hb] at h; cases h

theorem IsPropertyName.head {s : List Char} (h : IsPropertyName s) {r : List Char} :
    ∀ c, (s ++ r).head? = some c → isBlank c = false := by
  obtain ⟨c, cs, rfl, hc, -⟩ := h
  rintro d hd
  cases hd
  exact isBlank_of_isAlphanum (by rw [Char.isAlphanum, hc, Bool.true_or])

/-- An operator starts with neither a blank nor a character of a property. -/
theorem head_of_mem_operators {s r : List Char} (h : String.ofList s ∈ operators) :
    ∀ c, (s ++ r).head? = some c → isBlank c = false ∧ c.isAlphanum = false := by
  rw [mem_operators_iff] at h
  simp only [List.mem_cons, List.not_mem_nil, or_false] at h
  rintro c hc
  rcases h with rfl | rfl | rfl | rfl | rfl | rfl | rfl | rfl <;> cases hc <;>
    exact ⟨by decide, by decide⟩

/-- The parts that are read make up the text. -/
theorem exists_layout {s p o v : List Char} (h : splitExpression s = some (p, o, v)) :
    ∃ w₁ w₂ w₃ w₄, Layout s p o v w₁ w₂ w₃ w₄ := by
  unfold splitExpression at h
  split at h
  · cases h
  · rename_i _ rest hp
    split at h
    · cases h
    · rename_i _ rest' ho
      dsimp only at h
      split at h
      · cases h
      · rename_i hline
        cases h
        obtain ⟨hs, hproperty, -⟩ := splitProperty_eq_some_iff.mp hp
        obtain ⟨hs', hoperator, stop⟩ := splitOperator_eq_some_iff.mp ho
        obtain ⟨w₃, w₄, hw₃, hw₄, hs'', hvalue⟩ := exists_trim rest'
        refine ⟨s.takeWhile isBlank, rest.takeWhile isBlank, w₃, w₄,
          ⟨hproperty, hoperator, hvalue, by simpa using hline⟩, ?_,
          ⟨fun _ => of_mem_takeWhile, fun _ => of_mem_takeWhile, hw₃, hw₄⟩, ?_⟩
        · rw [← hs'', ← hs', List.takeWhile_append_dropWhile, ← hs,
            List.takeWhile_append_dropWhile]
        · rintro hstrict rfl r hr
          refine stop hstrict (r ++ w₄) ?_
          rw [hs'', hr]
          rfl

/-- Nothing but a value that starts with one brings a sign of equality after the operator. -/
theorem Layout.stop {s p o v w₁ w₂ w₃ w₄ : List Char} (h : Layout s p o v w₁ w₂ w₃ w₄)
    (strict : IsStrict o) (r : List Char) : w₃ ++ (v ++ w₄) ≠ '=' :: r := by
  obtain ⟨-, -, hw₃, hw₄⟩ := h.blank
  intro he
  have hnot : isBlank '=' = false := by decide
  cases w₃ with
  | cons c w₃ =>
    cases he
    have := hw₃ '=' List.mem_cons_self
    rw [hnot] at this
    cases this
  | nil =>
    cases v with
    | cons c v =>
      cases he
      exact h.strict strict rfl v rfl
    | nil =>
      have := hw₄ '=' (by rw [show w₄ = '=' :: r from he]; exact List.mem_cons_self)
      rw [hnot] at this
      cases this

/-- There is no other way to read a text. -/
theorem Layout.splitExpression {s p o v w₁ w₂ w₃ w₄ : List Char}
    (h : Layout s p o v w₁ w₂ w₃ w₄) : splitExpression s = some (p, o, v) := by
  obtain ⟨hw₁, hw₂, hw₃, hw₄⟩ := h.blank
  have hproperty : splitProperty (s.dropWhile isBlank) =
      some (p, w₂ ++ (o ++ (w₃ ++ (v ++ w₄)))) := by
    rw [h.eq, dropWhile_append_of_stop hw₁ h.property.head, splitProperty_eq_some_iff]
    refine ⟨rfl, h.property, fun c hc => ?_⟩
    cases w₂ with
    | nil => exact (head_of_mem_operators h.operator c hc).2
    | cons d w₂ => cases hc; exact isAlphanum_of_isBlank (hw₂ _ List.mem_cons_self)
  have hoperator : splitOperator ((w₂ ++ (o ++ (w₃ ++ (v ++ w₄)))).dropWhile isBlank) =
      some (o, w₃ ++ (v ++ w₄)) := by
    rw [dropWhile_append_of_stop hw₂ fun c hc => (head_of_mem_operators h.operator c hc).1,
      splitOperator_eq_some_iff]
    exact ⟨rfl, h.operator, h.stop⟩
  have hvalue : trim (w₃ ++ (v ++ w₄)) = v := trim_append hw₃ hw₄ h.value
  have hline : v.contains '\n' = false := by
    rw [← Bool.not_eq_true, List.contains_iff_mem]
    exact h.line
  simp only [Query.splitExpression, hproperty, hoperator, hvalue, hline, if_false,
    Bool.false_eq_true]

/-! ## The regular expression -/

/-- Operators in the order in which they are tried. -/
def operatorTexts : List (List Char) :=
  [['!', '='], ['!', ':'], ['>', '='], ['<', '='], ['='], [':'], ['<'], ['>']]

/-- A value on one line and the blanks after it, up to the end: `(.*?)\s*$`. -/
def linePattern : Pattern := .seq (.group (.few (· != '\n'))) (.seq (.many isBlank) .stop)

/-- A value and the blanks around it: `\s*(.*?)\s*$`. -/
def valuePattern : Pattern := .seq (.many isBlank) linePattern

/-- An operator and a value: `\s*(!=|!:|>=|<=|=|:|<|>)\s*(.*?)\s*$`. -/
def operatorPattern : Pattern :=
  .seq (.many isBlank) (.seq (.group (.oneOf operatorTexts)) valuePattern)

/-- An expression: `^\s*([A-Za-z][A-Za-z0-9]*)\s*(!=|!:|>=|<=|=|:|<|>)\s*(.*?)\s*$`. -/
def expressionPattern : Pattern :=
  .seq (.many isBlank)
    (.seq (.group (.seq (.one Char.isAlpha) (.many Char.isAlphanum))) operatorPattern)

/-- A value that starts with no blank, on one line. -/
theorem first_linePattern (s : List Char) :
    linePattern.first s = if '\n' ∈ trimEnd s then none else some [trimEnd s] := by
  have hall : (trimEnd s).all (· != '\n') = true ↔ '\n' ∉ trimEnd s := by
    simp [List.all_eq_true, List.forall_mem_ne']
  rw [linePattern, Pattern.first_line_stop]
  simp only [hall, ite_not]

theorem first_linePattern_eq_none_iff {s : List Char} :
    linePattern.first s = none ↔ '\n' ∈ trimEnd s := by
  rw [first_linePattern]
  simp

/-- A value that is not on one line is not on one with some of the blanks before it either. -/
theorem first_valuePattern (s : List Char) :
    valuePattern.first s = if '\n' ∈ trim s then none else some [trim s] := by
  rw [valuePattern, Pattern.first_many_seq fun hn w c r hs hw hc => ?_, first_linePattern]
  · rfl
  · rw [hs, List.dropWhile_append_of_pos hw, first_linePattern_eq_none_iff] at hn
    rw [first_linePattern_eq_none_iff,
      ← List.takeWhile_append_dropWhile (p := isBlank) (l := c :: r)]
    exact mem_trimEnd_append hn

theorem first_valuePattern_eq_none_iff {s : List Char} :
    valuePattern.first s = none ↔ '\n' ∈ trim s := by
  rw [first_valuePattern]
  simp

/-- A value that is not on one line does not get there by a sign of equality in front of it. -/
theorem first_valuePattern_equals {s : List Char} (h : valuePattern.first s = none) :
    valuePattern.first ('=' :: s) = none := by
  rw [first_valuePattern_eq_none_iff] at h ⊢
  rw [trim, List.dropWhile_cons_of_neg (by decide),
    ← List.takeWhile_append_dropWhile (p := isBlank) (l := s), ← List.cons_append]
  exact mem_trimEnd_append h

/-- The longer operator is taken, or none at all. -/
theorem first_operator (s : List Char) :
    (Pattern.seq (.group (.oneOf operatorTexts)) valuePattern).first s =
      (splitOperator s).bind fun x => (valuePattern.first x.2).map (x.1 :: ·) := by
  rw [Pattern.first_oneOf_seq]
  unfold splitOperator
  split
  case h_1 r | h_2 r | h_5 r | h_6 r =>
    cases hv : valuePattern.first r <;> simp [operatorTexts, hv]
  case h_3 r | h_4 r =>
    -- the shorter operator is tried last, with the sign of equality in front of the value
    cases hv : valuePattern.first r with
    | none => simp [operatorTexts, hv, first_valuePattern_equals hv]
    | some v => simp [operatorTexts, hv]
  case h_7 r stop | h_8 r stop =>
    have hlonger : ¬['='] <+: r := by
      rintro ⟨r', rfl⟩
      exact stop r' rfl
    cases hv : valuePattern.first r <;> simp [operatorTexts, hv, hlonger]
  case h_9 h₁ h₂ h₃ h₄ h₅ h₆ h₇ h₈ =>
    refine List.findSome?_eq_none_iff.mpr fun t ht => if_neg fun hp => ?_
    obtain ⟨r, rfl⟩ := List.isPrefixOf_iff_prefix.mp hp
    simp only [operatorTexts, List.mem_cons, List.not_mem_nil, or_false] at ht
    rcases ht with rfl | rfl | rfl | rfl | rfl | rfl | rfl | rfl
    · exact h₁ r rfl
    · exact h₂ r rfl
    · exact h₃ r rfl
    · exact h₄ r rfl
    · exact h₅ r rfl
    · exact h₆ r rfl
    · exact h₇ r rfl
    · exact h₈ r rfl

/-- An operator starts with neither a blank nor a character of a property. -/
theorem splitOperator_eq_none {c : Char} (h : isBlank c = true ∨ c.isAlphanum = true)
    (s : List Char) : splitOperator (c :: s) = none := by
  cases ho : splitOperator (c :: s) with
  | none => rfl
  | some x =>
    obtain ⟨hs, hmem, -⟩ := splitOperator_eq_some_iff.mp ho
    obtain ⟨hb, ha⟩ := head_of_mem_operators hmem c (by rw [← hs]; rfl)
    rw [hb, ha] at h
    rcases h with h | h <;> cases h

theorem first_operatorPattern (s : List Char) :
    operatorPattern.first s = (splitOperator (s.dropWhile isBlank)).bind fun x =>
      (valuePattern.first x.2).map (x.1 :: ·) := by
  rw [operatorPattern, Pattern.first_many_seq fun _ w c r _ _ hc => ?_, first_operator]
  rw [first_operator, splitOperator_eq_none (.inl hc)]
  rfl

/-- Nothing follows a part of a property. -/
theorem first_operatorPattern_eq_none {c : Char} (h : c.isAlphanum = true) (s : List Char) :
    operatorPattern.first (c :: s) = none := by
  rw [first_operatorPattern, List.dropWhile_cons_of_neg (by simp [isBlank_of_isAlphanum h]),
    splitOperator_eq_none (.inr h)]
  rfl

/-- The reader of expressions finds what their regular expression finds, although it never goes
back: it finds the first match if there is one, and its parts are the groups. -/
theorem splitExpression_eq_first (s : List Char) :
    (splitExpression s).map (fun e => [e.1, e.2.1, e.2.2]) = expressionPattern.first s := by
  have hname (c : Char) (t : List Char) := Pattern.first_name_seq (p := Char.isAlpha)
    (fun _ r h => first_operatorPattern_eq_none h r) c t
  rw [expressionPattern, Pattern.first_many_seq fun _ w c r _ _ hc => ?blank, splitExpression]
  case blank =>
    have halpha : c.isAlpha = false := (Bool.or_eq_false_iff.mp (isAlphanum_of_isBlank hc)).1
    rw [hname, halpha]
    rfl
  generalize s.dropWhile isBlank = t
  cases t with
  | nil => rfl
  | cons c t =>
    rw [hname, splitProperty]
    cases c.isAlpha with
    | false => rfl
    | true =>
      simp only [if_true]
      rw [first_operatorPattern]
      cases splitOperator ((t.dropWhile Char.isAlphanum).dropWhile isBlank) with
      | none => rfl
      | some x =>
        rw [Option.bind_some, first_valuePattern]
        simp only [List.contains_iff_mem]
        split <;> rfl

/-! ## Tokens -/

/-- The text is an expression of the token, whose value is not empty. -/
def Writes (text : String) (t : FilterToken) : Prop :=
  t.value ≠ "" ∧ ∃ w₁ w₂ w₃ w₄,
    Layout text.toList t.property.toList t.operator.toList t.value.toList w₁ w₂ w₃ w₄

theorem parseExpression_eq_ok_iff {text : String} {t : FilterToken} :
    parseExpression text = .ok t ↔ Writes text t := by
  constructor
  · intro h
    unfold parseExpression at h
    split at h
    · cases h
    · rename_i p o v hs
      split at h
      · cases h
      · rename_i hv
        cases h
        refine ⟨fun he => hv ?_, ?_⟩
        · exact String.ofList_eq_empty_iff.mp he
        · simp only [String.toList_ofList]
          exact exists_layout hs
  · rintro ⟨hv, w₁, w₂, w₃, w₄, hlayout⟩
    have hne : t.value.toList ≠ [] := fun he => hv (String.toList_eq_nil_iff.mp he)
    simp only [parseExpression, hlayout.splitExpression, hne, if_false, String.ofList_toList]

theorem parseExpression_eq_error {text : String} {e : Error} (h : parseExpression text = .error e) :
    ∃ message, e = .invalidFilter text message := by
  unfold parseExpression at h
  split at h
  · cases h; exact ⟨_, rfl⟩
  · split at h
    · cases h; exact ⟨_, rfl⟩
    · cases h

/-- One space around the operator sets off every value. -/
theorem writes_spaced {property operator value : String}
    (h : Parts property.toList operator.toList value.toList) (hv : value ≠ "") :
    Writes (property ++ " " ++ operator ++ " " ++ value) ⟨property, operator, value⟩ := by
  refine ⟨hv, [], [' '], [' '], [], h, ?_, ⟨blank_nil, blank_space, blank_space, blank_nil⟩, ?_⟩
  · simp only [String.toList_append, List.append_assoc, List.nil_append, List.append_nil]
    rfl
  · intro _ hw
    cases hw

/-- The texts that are read as filters are the expressions, each as the one token that it writes.
Every other text is refused by an error that carries it, and a property, an operator and a value are
read back when they are written with single spaces between them. -/
theorem parseExpression_grammar :
    (∀ text t, parseExpression text = .ok t ↔ Writes text t) ∧
    (∀ text, (∀ t, ¬Writes text t) →
      ∃ message, parseExpression text = .error (.invalidFilter text message)) ∧
    ∀ property operator value : String,
      Parts property.toList operator.toList value.toList → value ≠ "" →
        parseExpression (property ++ " " ++ operator ++ " " ++ value) =
          .ok ⟨property, operator, value⟩ := by
  refine ⟨fun text t => parseExpression_eq_ok_iff, fun text h => ?_, fun p o v h hv => ?_⟩
  · cases hp : parseExpression text with
    | ok t => exact absurd (parseExpression_eq_ok_iff.mp hp) (h t)
    | error e =>
      obtain ⟨message, rfl⟩ := parseExpression_eq_error hp
      exact ⟨message, rfl⟩
  · exact parseExpression_eq_ok_iff.mpr (writes_spaced h hv)

/-- A value that starts with the sign that would make another operator is set off by a space. -/
theorem parseExpression_grammar_equals :
    Parts "Tags".toList ">".toList "= a".toList ∧ "= a" ≠ "" ∧
      parseExpression "Tags > = a" = .ok ⟨"Tags", ">", "= a"⟩ := by
  have hp : Parts "Tags".toList ">".toList "= a".toList :=
    { property := ⟨'T', ['a', 'g', 's'], by decide, by decide, by simp⟩
      operator := by decide
      value := ⟨by simp [isBlank], by simp [isBlank]⟩
      line := by decide }
  exact ⟨hp, by decide, parseExpression_grammar.2.2 "Tags" ">" "= a" hp (by decide)⟩

end CursorPaging.Query
