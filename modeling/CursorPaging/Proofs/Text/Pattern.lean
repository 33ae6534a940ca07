import CursorPaging.Proofs.Text.Trim

/-!
# Patterns

The regular expressions that the syntax of a text is given by, as far as they are needed: classes
of characters, runs of them, choices between texts, sequences, groups and the end of the text. A
pattern takes the start of a text in several ways, and `ways` lists them in order of preference: a
run is rather long (`many`) or rather short (`few`), the earlier of two texts comes first, and in a
sequence the first part decides before the second. What a pattern finds are the groups of the first
way (`first`).

A reader that never goes back on what it took finds the same if nothing that it passes over leads to
a match:

* `findSome?_runs`, `first_many_seq`: a run is as long as it can be if what follows does not match
  where the run could go on;
* `first_name_seq`, `first_oneOf_seq`: groups in front of the rest of a pattern;
* `first_line_stop`: a short run up to the blanks at the end of the text.
-/

namespace CursorPaging.Text

/-- A way to take the start of a text. -/
structure Match where
  text : List Char
  /-- The texts of the groups, in order. -/
  groups : List (List Char)
  rest : List Char

/-- A regular expression for the start of a text. -/
inductive Pattern where
  /-- One character of a class. -/
  | one (p : Char → Bool)
  /-- One of some texts, rather the earlier one. -/
  | oneOf (texts : List (List Char))
  /-- Characters of a class, rather more than fewer. -/
  | many (p : Char → Bool)
  /-- Characters of a class, rather fewer than more. -/
  | few (p : Char → Bool)
  | seq (a b : Pattern)
  | group (a : Pattern)
  /-- The end of the text. -/
  | stop

/-- The runs of characters of a class at the start of a text, the longest first, each with the rest
of the text. -/
def runs (p : Char → Bool) : List Char → List (List Char × List Char)
  | [] => [([], [])]
  | c :: s =>
    if p c then (runs p s).map (fun r => (c :: r.1, r.2)) ++ [([], c :: s)] else [([], c :: s)]

namespace Pattern

/-- The ways in which a pattern takes the start of a text, in order of preference. -/
def ways : Pattern → List Char → List Match
  | one _, [] => []
  | one p, c :: s => if p c then [⟨[c], [], s⟩] else []
  | oneOf texts, s =>
    (texts.filter (·.isPrefixOf s)).map fun t => ⟨t, [], s.drop t.length⟩
  | many p, s => (runs p s).map fun r => ⟨r.1, [], r.2⟩
  | few p, s => (runs p s).reverse.map fun r => ⟨r.1, [], r.2⟩
  | seq a b, s => (a.ways s).flatMap fun m => (b.ways m.rest).map fun m' =>
    ⟨m.text ++ m'.text, m.groups ++ m'.groups, m'.rest⟩
  | group a, s => (a.ways s).map fun m => { m with groups := m.text :: m.groups }
  | stop, s => if s.isEmpty then [⟨[], [], s⟩] else []

/-- What a pattern finds: the groups of the way that is preferred to all others. -/
def first (a : Pattern) (s : List Char) : Option (List (List Char)) :=
  (a.ways s).head?.map Match.groups

end Pattern

/-! ## Runs -/

section Runs

variable {β : Type} {p : Char → Bool}

/-- The longest run is the first that counts if it counts, or if no shorter one does. -/
theorem findSome?_runs {s : List Char} {f : List Char × List Char → Option β}
    (h : f (s.takeWhile p, s.dropWhile p) = none → ∀ w c r, s = w ++ c :: r →
      (∀ d ∈ w, p d = true) → p c = true → f (w, c :: r) = none) :
    (runs p s).findSome? f = f (s.takeWhile p, s.dropWhile p) := by
  induction s generalizing f with
  | nil => cases hf : f ([], []) <;> simp [runs, hf]
  | cons c s ih =>
    cases hc : p c with
    | false =>
      rw [runs, hc, if_neg Bool.false_ne_true, List.takeWhile_cons_of_neg (by simp [hc]),
        List.dropWhile_cons_of_neg (by simp [hc])]
      cases hf : f ([], c :: s) <;> simp [hf]
    | true =>
      rw [List.takeWhile_cons_of_pos hc, List.dropWhile_cons_of_pos hc] at h ⊢
      have hlonger := ih (f := fun r => f (c :: r.1, r.2)) fun hn w d r hs hw hd =>
        h hn (c :: w) d r (by rw [hs]; rfl) (List.forall_mem_cons.mpr ⟨hc, hw⟩) hd
      rw [runs, hc, if_pos rfl, List.findSome?_append, List.findSome?_map]
      refine (congrArg (Option.or · _) hlonger).trans ?_
      cases hn : f (c :: s.takeWhile p, s.dropWhile p) with
      | some => rfl
      | none => simpa using h hn [] c s rfl nofun hc

theorem reverse_runs_cons (p : Char → Bool) (c : Char) (s : List Char) :
    (runs p (c :: s)).reverse =
      ([], c :: s) :: if p c then (runs p s).reverse.map (fun r => (c :: r.1, r.2)) else [] := by
  cases hc : p c <;> simp [runs, hc]

/-- The shortest run with nothing but blanks after it ends where the trimmed text does. -/
theorem findSome?_reverse_runs (s : List Char) (f : List Char → β) :
    ((runs p s).reverse.findSome? fun r => if r.2.all isBlank then some (f r.1) else none) =
      if (trimEnd s).all p then some (f (trimEnd s)) else none := by
  induction s generalizing f with
  | nil => rfl
  | cons c s ih =>
    rw [reverse_runs_cons, List.findSome?_cons, trimEnd_cons]
    cases hb : (c :: s).all isBlank with
    | true => rfl
    | false =>
      cases hc : p c with
      | false => simp only [Bool.false_eq_true, if_false, List.findSome?_nil, List.all_cons, hc,
          Bool.false_and]
      | true =>
        have hrest := ih fun w => f (c :: w)
        simp only [Bool.false_eq_true, if_false, if_true, List.all_cons, hc, Bool.true_and,
          List.findSome?_map]
        exact hrest

end Runs

namespace Pattern

variable {a b : Pattern} {s : List Char} {p q : Char → Bool}

/-! ## Sequences -/

theorem first_seq (a b : Pattern) (s : List Char) :
    (seq a b).first s = (a.ways s).findSome? fun m => (b.first m.rest).map (m.groups ++ ·) := by
  rw [first, ways, List.head?_flatMap, List.map_findSome?]
  refine congrArg (List.findSome? · _) (funext fun m => ?_)
  rw [Function.comp_apply, List.head?_map, first, Option.map_map, Option.map_map]
  rfl

theorem first_stop (s : List Char) : stop.first s = if s.isEmpty then some [] else none := by
  cases s <;> rfl

/-- A run in front of a pattern that does not match where the run could go on, unless it matches
after the run. -/
theorem first_many_seq (h : b.first (s.dropWhile p) = none → ∀ w c r, s = w ++ c :: r →
      (∀ d ∈ w, p d = true) → p c = true → b.first (c :: r) = none) :
    (seq (many p) b).first s = b.first (s.dropWhile p) := by
  have hid (r : List Char) : (b.first r).map ([] ++ ·) = b.first r := Option.map_id'
  rw [first_seq, ways, List.findSome?_map]
  refine (findSome?_runs fun hn w c r hs hw hc => ?_).trans (hid _)
  exact (hid _).trans (h ((hid _).symm.trans hn) w c r hs hw hc)

/-- A group in front of the rest of a pattern. -/
theorem first_group_seq (a b : Pattern) (s : List Char) :
    (seq (group a) b).first s =
      (a.ways s).findSome? fun m => (b.first m.rest).map (m.text :: m.groups ++ ·) := by
  rw [first_seq, ways, List.findSome?_map]
  rfl

/-- A name in a group: one character and then a run, in front of a pattern that does not match where
the run could go on. -/
theorem first_name_seq (h : ∀ c r, q c = true → b.first (c :: r) = none) (c : Char)
    (s : List Char) :
    (seq (group (seq (one p) (many q))) b).first (c :: s) =
      if p c then (b.first (s.dropWhile q)).map ((c :: s.takeWhile q) :: ·) else none := by
  rw [first_group_seq, ways, ways]
  cases p c with
  | false => rfl
  | true =>
    rw [if_pos rfl, if_pos rfl, List.flatMap_singleton, ways, List.map_map, List.findSome?_map]
    refine (findSome?_runs fun _ w d r _ _ hd => ?_)
    exact congrArg (Option.map _) (h d r hd)

/-- The first of some texts after which the rest of a pattern matches. -/
theorem first_oneOf_seq (texts : List (List Char)) (b : Pattern) (s : List Char) :
    (seq (group (oneOf texts)) b).first s = texts.findSome? fun t =>
      if t.isPrefixOf s then (b.first (s.drop t.length)).map (t :: ·) else none := by
  rw [first_group_seq, ways, List.findSome?_map]
  induction texts with
  | nil => rfl
  | cons t texts ih =>
    rw [List.filter_cons, List.findSome?_cons]
    cases t.isPrefixOf s with
    | false => exact ih
    | true =>
      rw [if_pos rfl, if_pos rfl, List.findSome?_cons, ih]
      rfl

/-- A short run in a group, and blanks up to the end: the text without the blanks at its end. -/
theorem first_line_stop (p : Char → Bool) (s : List Char) :
    (seq (group (few p)) (seq (many isBlank) stop)).first s =
      if (trimEnd s).all p then some [trimEnd s] else none := by
  have hblanks (r : List Char) :
      (seq (many isBlank) stop).first r = if r.all isBlank then some [] else none := by
    rw [first_many_seq fun _ _ _ _ _ _ _ => rfl, first_stop, isEmpty_dropWhile]
  rw [first_group_seq, ways, List.findSome?_map, ← findSome?_reverse_runs s fun w => [w]]
  refine congrArg (List.findSome? · _) (funext fun r => ?_)
  rw [Function.comp_apply, hblanks]
  cases r.2.all isBlank <;> rfl

end Pattern

end CursorPaging.Text
