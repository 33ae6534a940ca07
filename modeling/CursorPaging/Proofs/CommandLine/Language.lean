import CursorPaging.CommandLine.BrowseCommand
import CursorPaging.Proofs.Text.Digits
import CursorPaging.Proofs.Text.Words

/-!
# The language of browse commands

A line writes a command if it lays out the words that spell it. Keywords, numerals and layouts leave
a choice, so a command has many lines, but a line has one command at most:

* `ofWords_eq_ok_iff`, `ofWords_eq_error_iff`: what a row of words spells, and which words in the
  place of a number are refused;
* `exists_writes_iff`: the commands that can be written at all;
* `parse_language`: reading a line is the inverse of writing it, and all other lines are refused.
-/

namespace CursorPaging.CommandLine.BrowseCommand

open CursorPaging.Text (wordLimit wordsOf IsWord)

variable {line word : String} {words : List String} {command : BrowseCommand} {e : Error} {n : Nat}

/-- The word is a numeral of the number, and this fits a machine word. -/
def Denotes (word : String) (n : Nat) : Prop := Text.IsNumeral word.toList n ∧ n < wordLimit

/-- The words are a keyword of the command and its arguments. -/
inductive Spells : List String → BrowseCommand → Prop where
  | next {k : String} (key : k ∈ ["n", "next"]) : Spells [k] .next
  | previous {k : String} (key : k ∈ ["p", "prev"]) : Spells [k] .previous
  | go {k word : String} {n : Nat} (key : k ∈ ["g", "go"]) (page : Denotes word n) :
    Spells [k, word] (.go n)
  | refresh {k : String} (key : k ∈ ["r", "refresh"]) : Spells [k] .refresh
  | deleted {k : String} (key : k ∈ ["d", "deleted"]) : Spells [k] .deleted
  /-- Without an order, also where the column is called like one. -/
  | sort {k column : String} (key : k ∈ ["s", "sort"]) : Spells [k, column] (.sort column false)
  | ascending {k column : String} (key : k ∈ ["s", "sort"]) :
    Spells [k, column, "asc"] (.sort column false)
  | descending {k column : String} (key : k ∈ ["s", "sort"]) :
    Spells [k, column, "desc"] (.sort column true)
  | filter {k : String} {expressions : List String} (key : k ∈ ["f", "filter"]) :
    Spells (k :: expressions) (.filter expressions)
  | pageSize {word : String} {n : Nat} (size : Denotes word n) : Spells ["size", word] (.pageSize n)
  | quit {k : String} (key : k ∈ ["q", "quit"]) : Spells [k] .quit

/-- The line has the words, with blanks around and between them. -/
def Laid (line : String) (words : List String) : Prop :=
  Text.Spread (words.map String.toList) line.toList

/-- The line spells the command. -/
def Writes (line : String) (command : BrowseCommand) : Prop :=
  ∃ words, Laid line words ∧ Spells words command

/-- The command can be written: its arguments are words, its number fits one. -/
def Writable : BrowseCommand → Prop
  | .go n | .pageSize n => n < wordLimit
  | .sort column _ => IsWord column.toList
  | .filter expressions => ∀ expression ∈ expressions, IsWord expression.toList
  | .next | .previous | .refresh | .deleted | .quit => True

/-- The keywords that a number follows. -/
def numbered : List String := ["g", "go", "size"]

/-- The line is refused with the error: a numbered keyword stands before one word that is no number,
or the words are no command at all. -/
inductive Refused (line : String) : Error → Prop where
  | number {k word : String} (laid : Laid line [k, word]) (key : k ∈ numbered)
    (noNumber : ∀ n, ¬ Denotes word n) :
    Refused line (.other ("Expected a number, got '" ++ word ++ "'"))
  | unknown {words : List String} (laid : Laid line words) (nonempty : words ≠ [])
    (unspelled : ∀ command, ¬ Spells words command)
    (unnumbered : ∀ k ∈ numbered, ∀ word, words ≠ [k, word]) : Refused line (unknown line)

/-! ## Words -/

/-- The numbers that are read are those that a word denotes. -/
theorem parseNumber_eq_ok_iff : parseNumber word = .ok n ↔ Denotes word n := by
  rw [Denotes, ← Text.unsignedBelow?_eq_some_iff, parseNumber, Text.unsigned?]
  split
  · rename_i m h
    rw [h]
    exact ⟨fun hm => by cases hm; rfl, fun hm => by cases hm; rfl⟩
  · rename_i h
    rw [h]
    exact iff_of_false (by rintro ⟨⟩) (by rintro ⟨⟩)

theorem parseNumber_eq_error_iff : parseNumber word = .error e ↔
    (∀ n, ¬ Denotes word n) ∧ e = .other ("Expected a number, got '" ++ word ++ "'") := by
  cases h : Text.unsigned? word with
  | some n =>
    have hn : parseNumber word = .ok n := by rw [parseNumber, h]
    rw [hn]
    exact iff_of_false (by rintro ⟨⟩) fun h => h.1 n (parseNumber_eq_ok_iff.mp hn)
  | none =>
    have hno : parseNumber word = .error (.other ("Expected a number, got '" ++ word ++ "'")) := by
      rw [parseNumber, h]
    rw [hno]
    constructor
    · rintro ⟨⟩
      refine ⟨fun n hn => ?_, rfl⟩
      rw [parseNumber_eq_ok_iff.mpr hn] at hno
      cases hno
    · rintro ⟨-, rfl⟩
      rfl

/-! ## Rows of words -/

theorem map_parseNumber_eq_ok_iff (make : Nat → BrowseCommand) :
    make <$> parseNumber word = .ok command ↔ ∃ n, Denotes word n ∧ make n = command := by
  constructor
  · intro h
    cases hn : parseNumber word with
    | ok n =>
      rw [hn] at h
      exact ⟨n, parseNumber_eq_ok_iff.mp hn, Except.ok.inj h⟩
    | error e =>
      rw [hn] at h
      cases h
  · rintro ⟨n, hn, rfl⟩
    rw [parseNumber_eq_ok_iff.mpr hn]
    rfl

theorem Spells.ofWords (h : Spells words command) : ofWords words = some (.ok command) := by
  have two {k a b : String} (key : k ∈ [a, b]) : k = a ∨ k = b := by simpa using key
  cases h with
  | go key page =>
    have := (map_parseNumber_eq_ok_iff .go).mpr ⟨_, page, rfl⟩
    rcases two key with rfl | rfl <;> simpa [BrowseCommand.ofWords] using this
  | pageSize size =>
    have := (map_parseNumber_eq_ok_iff .pageSize).mpr ⟨_, size, rfl⟩
    simpa [BrowseCommand.ofWords] using this
  | next key | previous key | refresh key | deleted key | quit key | sort key | ascending key
  | descending key | filter key => rcases two key with rfl | rfl <;> rfl

/-- A command is read only from words that spell it. -/
theorem spells_of_ofWords (h : ofWords words = some (.ok command)) : Spells words command := by
  unfold BrowseCommand.ofWords at h
  split at h
  -- Only the rows with a number can fail, and the last equation has no command.
  case h_5 | h_6 | h_19 =>
    obtain ⟨n, hn, rfl⟩ := (map_parseNumber_eq_ok_iff _).mp (Option.some.inj h)
    constructor
    all_goals first | exact hn | decide
  all_goals
    cases h
    try constructor
    try decide

/-- The rows of words that can hold a number. -/
theorem ofWords_numbered {k : String} (hk : k ∈ numbered) (word : String) :
    ∃ make, ofWords [k, word] = some (make <$> parseNumber word) := by
  have hk : k = "g" ∨ k = "go" ∨ k = "size" := by simpa [numbered] using hk
  rcases hk with rfl | rfl | rfl
  · exact ⟨.go, rfl⟩
  · exact ⟨.go, rfl⟩
  · exact ⟨.pageSize, rfl⟩

theorem map_parseNumber_eq_error_iff {make : Nat → BrowseCommand} :
    make <$> parseNumber word = .error e ↔
      (∀ n, ¬ Denotes word n) ∧ e = .other ("Expected a number, got '" ++ word ++ "'") := by
  rw [← parseNumber_eq_error_iff]
  cases parseNumber word with
  | ok n => exact iff_of_false nofun nofun
  | error e' => exact ⟨fun h => by cases h; rfl, fun h => by cases h; rfl⟩

/-- The error is that of a word where a number is expected. -/
theorem ofWords_eq_error_iff : ofWords words = some (.error e) ↔
    ∃ k ∈ numbered, ∃ word, words = [k, word] ∧ (∀ n, ¬ Denotes word n) ∧
      e = .other ("Expected a number, got '" ++ word ++ "'") := by
  constructor
  · intro h
    unfold BrowseCommand.ofWords at h
    split at h
    case h_5 page | h_6 page | h_19 page =>
      exact ⟨_, by decide, page, rfl, map_parseNumber_eq_error_iff.mp (Option.some.inj h)⟩
    all_goals cases h
  · rintro ⟨k, hk, word, rfl, hno⟩
    obtain ⟨make, h⟩ := ofWords_numbered hk word
    rw [h, map_parseNumber_eq_error_iff.mpr hno]

theorem ofWords_eq_none_iff : ofWords words = none ↔
    (∀ command, ¬ Spells words command) ∧ ∀ k ∈ numbered, ∀ word, words ≠ [k, word] := by
  constructor
  · intro h
    refine ⟨fun command hc => ?_, ?_⟩
    · rw [hc.ofWords] at h
      cases h
    · rintro k hk word rfl
      obtain ⟨make, hm⟩ := ofWords_numbered hk word
      rw [hm] at h
      cases h
  · rintro ⟨unspelled, unnumbered⟩
    cases h : ofWords words with
    | none => rfl
    | some result =>
      cases result with
      | ok command => exact absurd (spells_of_ofWords h) (unspelled command)
      | error e =>
        obtain ⟨k, hk, word, hwords, -⟩ := ofWords_eq_error_iff.mp h
        exact absurd hwords (unnumbered k hk word)

/-! ## Lines -/

theorem laid_wordsOf (line : String) : Laid line (wordsOf line) := Text.wordsOf_eq_iff.mp rfl

/-- A line is laid out in one way only. -/
theorem Laid.wordsOf_eq (h : Laid line words) : wordsOf line = words := Text.wordsOf_eq_iff.mpr h

theorem parse_of_laid (h : Laid line words) (hne : words ≠ []) :
    parse line = match ofWords words with
      | some result => some <$> result
      | none => .error (unknown line) := by
  rw [parse, h.wordsOf_eq]
  cases words with
  | nil => exact absurd rfl hne
  | cons => rfl

theorem Spells.ne_nil (h : Spells words command) : words ≠ [] := by
  cases h <;> exact List.cons_ne_nil _ _

theorem parse_eq_some_iff : parse line = .ok (some command) ↔ Writes line command := by
  constructor
  · intro h
    have hlaid := laid_wordsOf line
    have hne : wordsOf line ≠ [] := by
      intro hnil
      rw [parse, hnil] at h
      cases h
    refine ⟨_, hlaid, spells_of_ofWords ?_⟩
    rw [parse_of_laid hlaid hne] at h
    split at h
    · rename_i result hr
      cases result with
      | ok c => cases h; exact hr
      | error e => cases h
    · cases h
  · rintro ⟨words, hlaid, h⟩
    rw [parse_of_laid hlaid h.ne_nil, h.ofWords]
    rfl

theorem parse_eq_none_iff_laid : parse line = .ok none ↔ Laid line [] := by
  constructor
  · intro h
    cases hw : wordsOf line with
    | nil => exact Text.wordsOf_eq_iff.mp hw
    | cons w ws =>
      rw [parse_of_laid (Text.wordsOf_eq_iff.mp hw) (List.cons_ne_nil w ws)] at h
      split at h
      · rename_i result hr
        cases result <;> cases h
      · cases h
  · intro h
    rw [parse, h.wordsOf_eq]

theorem parse_eq_error_iff : parse line = .error e ↔ Refused line e := by
  constructor
  · intro h
    have hlaid := laid_wordsOf line
    have hne : wordsOf line ≠ [] := by
      intro hnil
      rw [parse, hnil] at h
      cases h
    rw [parse_of_laid hlaid hne] at h
    split at h
    · rename_i result hr
      cases result with
      | ok c => cases h
      | error e' =>
        cases h
        obtain ⟨k, hk, word, hwords, hno, rfl⟩ := ofWords_eq_error_iff.mp hr
        exact .number (hwords ▸ hlaid) hk hno
    · rename_i hn
      cases h
      obtain ⟨unspelled, unnumbered⟩ := ofWords_eq_none_iff.mp hn
      exact .unknown hlaid hne unspelled unnumbered
  · rintro (⟨hlaid, hk, hno⟩ | ⟨hlaid, hne, unspelled, unnumbered⟩)
    · rw [parse_of_laid hlaid (List.cons_ne_nil _ _),
        ofWords_eq_error_iff.mpr ⟨_, hk, _, rfl, hno, rfl⟩]
      rfl
    · rw [parse_of_laid hlaid hne, ofWords_eq_none_iff.mpr ⟨unspelled, unnumbered⟩]

/-! ## What can be written -/

theorem isWord_decimal (n : Nat) : IsWord (Text.decimal n).toList := by
  rw [Text.decimal, String.toList_ofList]
  refine ⟨Nat.toDigits_ne_nil, fun c hc => ?_⟩
  have hdigit := Nat.isDigit_of_mem_toDigits (by decide) (by decide) hc
  refine Bool.eq_false_iff.mpr fun hblank => ?_
  have := Text.isAlphanum_of_isBlank hblank
  simp [Char.isAlphanum, hdigit] at this

theorem denotes_decimal (hn : n < wordLimit) : Denotes (Text.decimal n) n :=
  ⟨⟨[], 0, .inl rfl, by rw [Text.decimal, String.toList_ofList]; rfl⟩, hn⟩

theorem exists_spelling (h : Writable command) :
    ∃ words, Spells words command ∧ ∀ w ∈ words, IsWord w.toList := by
  have hf : IsWord "filter".toList := by decide
  have hg : IsWord "go".toList := by decide
  have hs : IsWord "sort".toList := by decide
  have hd : IsWord "desc".toList := by decide
  have hz : IsWord "size".toList := by decide
  have one {k : String} (hk : IsWord k.toList) : ∀ w ∈ [k], IsWord w.toList := by
    simpa using hk
  cases command with
  | next => exact ⟨["next"], .next (by decide), one (by decide)⟩
  | previous => exact ⟨["prev"], .previous (by decide), one (by decide)⟩
  | refresh => exact ⟨["refresh"], .refresh (by decide), one (by decide)⟩
  | deleted => exact ⟨["deleted"], .deleted (by decide), one (by decide)⟩
  | quit => exact ⟨["quit"], .quit (by decide), one (by decide)⟩
  | go n =>
    refine ⟨["go", Text.decimal n], .go (by decide) (denotes_decimal h), ?_⟩
    exact List.forall_mem_cons.mpr ⟨hg, one (isWord_decimal n)⟩
  | pageSize n =>
    refine ⟨["size", Text.decimal n], .pageSize (denotes_decimal h), ?_⟩
    exact List.forall_mem_cons.mpr ⟨hz, one (isWord_decimal n)⟩
  | filter expressions =>
    exact ⟨"filter" :: expressions, .filter (by decide), List.forall_mem_cons.mpr ⟨hf, h⟩⟩
  | sort column descending =>
    cases descending with
    | false =>
      refine ⟨["sort", column], .sort (by decide), ?_⟩
      exact List.forall_mem_cons.mpr ⟨hs, one h⟩
    | true =>
      refine ⟨["sort", column, "desc"], .descending (by decide), ?_⟩
      exact List.forall_mem_cons.mpr ⟨hs, List.forall_mem_cons.mpr ⟨h, one hd⟩⟩

theorem Laid.isWord (h : Laid line words) : ∀ w ∈ words, IsWord w.toList :=
  fun _ hw => Text.Spread.isWord h _ (List.mem_map_of_mem hw)

theorem Writes.writable (h : Writes line command) : Writable command := by
  obtain ⟨words, hlaid, h⟩ := h
  have hword := hlaid.isWord
  cases h with
  | go _ page => exact page.2
  | pageSize size => exact size.2
  | sort | ascending | descending => exact hword _ (List.mem_cons_of_mem _ List.mem_cons_self)
  | filter => exact fun e he => hword e (List.mem_cons_of_mem _ he)
  | next | previous | refresh | deleted | quit => trivial

/-- Every command can be written if its numbers fit a word. -/
theorem exists_writes_iff : (∃ line, Writes line command) ↔ Writable command := by
  constructor
  · rintro ⟨line, h⟩
    exact h.writable
  · intro h
    obtain ⟨words, hspells, hword⟩ := exists_spelling h
    refine ⟨String.ofList ((words.map String.toList).flatMap (' ' :: ·)), words, ?_, hspells⟩
    rw [Laid, String.toList_ofList]
    refine Text.spread_spaced fun w hw => ?_
    obtain ⟨word, hmem, rfl⟩ := List.mem_map.mp hw
    exact hword word hmem

/-- Exactly the writings of a command are read as it, exactly the lines without words as no command,
and exactly the rest is refused, for the reason given. Every command that can be written has a
line. -/
theorem parse_language :
    (∀ line command, parse line = .ok (some command) ↔ Writes line command) ∧
    (∀ line, parse line = .ok none ↔ Laid line []) ∧
    (∀ line, (∃ e, parse line = .error e) ↔ ¬ Laid line [] ∧ ∀ command, ¬ Writes line command) ∧
    (∀ line e, parse line = .error e ↔ Refused line e) ∧
    (∀ command, (∃ line, Writes line command) ↔ Writable command) := by
  refine ⟨fun _ _ => parse_eq_some_iff, fun _ => parse_eq_none_iff_laid, fun line => ?_,
    fun _ _ => parse_eq_error_iff, fun _ => exists_writes_iff⟩
  constructor
  · rintro ⟨e, he⟩
    refine ⟨fun h => ?_, fun command h => ?_⟩
    · rw [parse_eq_none_iff_laid.mpr h] at he
      cases he
    · rw [parse_eq_some_iff.mpr h] at he
      cases he
  · rintro ⟨blank, unwritten⟩
    cases h : parse line with
    | error e => exact ⟨e, rfl⟩
    | ok found =>
      cases found with
      | none => exact absurd (parse_eq_none_iff_laid.mp h) blank
      | some command => exact absurd (parse_eq_some_iff.mp h) (unwritten command)

/-- A sign, leading zeros, a column called like an order, and blanks of other kinds. -/
example : parse "\tgo\u2003+007 " = .ok (some (.go 7)) ∧
    parse "s desc" = .ok (some (.sort "desc" false)) ∧
    parse "s desc desc" = .ok (some (.sort "desc" true)) := by decide +kernel

end CursorPaging.CommandLine.BrowseCommand
