import CursorPaging.Json.Printer
import CursorPaging.Json.Reader
import CursorPaging.Proofs.Dictionary
import CursorPaging.Proofs.Text.Digits
import Mathlib.Data.List.Forall2

/-!
# Reading back written JSON

The compact text of a value is read as that value, if its numbers are integers that fit a word, its
objects are in key order, and it does not nest too deep (`Plain`).

* `readString_escapes`, `readNumber_decimalInt`: strings and numbers, each with the text after it;
* `readBlock_intercalate`: parts between brackets, by induction over them;
* `readValue_compact`, `ofString?_compact`: values, by induction on how they are made.
-/

namespace CursorPaging.Json

variable {c : Char} {rest : List Char}

/-! ## Strings -/

theorem unit?_control :
    ∀ n < 32, unit? '0' '0' (hexDigit (n / 16)) (hexDigit n) = some n := by decide

theorem readString_plain (hquote : c ≠ '"') (hback : c ≠ '\\') (hc : ¬ c.toNat < 0x20)
    (s : List Char) : readString (c :: s) = push c (readString s) := by
  rw [readString.eq_def]
  split
  · contradiction
  · rename_i h
    exact absurd (List.cons.inj h).1 hquote
  · rename_i h
    exact absurd (List.cons.inj h).1 hback
  · rename_i h
    exact absurd (List.cons.inj h).1 hback
  · rename_i h
    obtain ⟨rfl, rfl⟩ := List.cons.inj h
    rw [if_neg (not_or.mpr ⟨hc, hback⟩)]

theorem readString_backslash {e : Char} (hu : c ≠ 'u') (he : unescape? c = some e)
    (s : List Char) : readString ('\\' :: c :: s) = push e (readString s) := by
  rw [readString]
  · simp only [he]
  · exact fun _ _ _ _ _ h => absurd h hu

theorem readString_control {n : Nat} (hn : n < 32) (s : List Char) :
    readString ('\\' :: 'u' :: '0' :: '0' :: hexDigit (n / 16) :: hexDigit n :: s) =
      push (Char.ofNat n) (readString s) := by
  rw [readString, unit?_control n hn]
  exact if_pos (.inl (by omega))

/-- The written form of a character is read as the character. -/
theorem readString_escape (c : Char) (s : List Char) :
    readString (escape c ++ s) = push c (readString s) := by
  have short {a : Char} (ha : a ≠ 'u') (he : unescape? a = some c) :
      readString (['\\', a] ++ s) = push c (readString s) := readString_backslash ha he s
  unfold escape
  split
  · rename_i h; exact short (by decide) (by rw [h]; rfl)
  split
  · rename_i h; exact short (by decide) (by rw [h]; rfl)
  split
  · rename_i h; exact short (by decide) (by rw [h]; rfl)
  split
  · rename_i h; exact short (by decide) (by rw [h]; rfl)
  split
  · rename_i h; exact short (by decide) (by rw [h]; rfl)
  split
  · rename_i h; exact short (by decide) (by rw [h]; rfl)
  split
  · rename_i h; exact short (by decide) (by rw [h]; rfl)
  split
  · rename_i hc
    have := readString_control hc s
    rwa [Char.ofNat_toNat] at this
  · rename_i hquote hback _ _ _ _ _ hc
    exact readString_plain hquote hback hc s

/-- A text is read back from its escaped form. -/
theorem readString_escapes (cs rest : List Char) :
    readString (cs.flatMap escape ++ '"' :: rest) = some (cs, rest) := by
  induction cs with
  | nil => rfl
  | cons c cs ih =>
    rw [List.flatMap_cons, List.append_assoc, readString_escape, ih]
    rfl

/-! ## Numbers -/

/-- No number goes on here. -/
def Ends (s : List Char) : Prop :=
  ∀ c, s.head? = some c → Text.digit? c = none ∧ c ≠ '.' ∧ c ≠ 'e' ∧ c ≠ 'E'

theorem ends_nil : Ends [] := nofun

theorem ends_cons (h : Text.digit? c = none ∧ c ≠ '.' ∧ c ≠ 'e' ∧ c ≠ 'E') (s : List Char) :
    Ends (c :: s) := by
  rintro d ⟨⟩
  exact h

theorem ends_comma (s : List Char) : Ends (',' :: s) := ends_cons (by decide) s

theorem readDigits_map {ds : List Nat} (hd : ∀ d ∈ ds, d < 10) (hr : Ends rest) :
    readDigits (ds.map Nat.digitChar ++ rest) = (ds, rest) := by
  induction ds with
  | nil =>
    cases rest with
    | nil => rfl
    | cons c rest =>
      obtain ⟨hc, -⟩ := hr c rfl
      simp only [List.map_nil, List.nil_append, readDigits, hc]
  | cons d ds ih =>
    obtain ⟨hlt, hds⟩ := List.forall_mem_cons.mp hd
    simp only [List.map_cons, List.cons_append, readDigits, Text.digit?_digitChar d hlt, ih hds]

theorem keep_concat {n m d : Nat} {ds : List Nat} (h : Literal.keep n ds = (m, []))
    (hd : m * 10 + d < Text.wordLimit) : Literal.keep n (ds ++ [d]) = (m * 10 + d, []) := by
  induction ds generalizing n with
  | nil =>
    cases h
    simp only [List.nil_append, Literal.keep, hd, if_true]
  | cons a ds ih =>
    rw [Literal.keep] at h
    split at h
    · rename_i ha
      rw [List.cons_append, Literal.keep, if_pos ha]
      exact ih h
    · cases h

/-- The digits of a number as a literal has them: a zero in front only for zero itself. -/
structure IsDigits (n : Nat) (ds : List Nat) : Prop where
  text : Nat.toDigits 10 n = ds.map Nat.digitChar
  small : ∀ d ∈ ds, d < 10
  ne_nil : ds ≠ []
  zero : n = 0 → ds = [0]
  lead : 0 < n → ds.head? ≠ some 0
  value : n < Text.wordLimit → Literal.keep 0 ds = (n, [])

theorem isDigits_singleton {d : Nat} (hd : d < 10) : IsDigits d [d] where
  text := Nat.toDigits_of_lt_base hd
  small := by simpa using hd
  ne_nil := List.cons_ne_nil _ _
  zero h := by rw [h]
  lead h := by simpa using Nat.ne_of_gt h
  value h := by rw [Literal.keep, Nat.zero_mul, Nat.zero_add, if_pos h]; rfl

theorem IsDigits.concat {m d : Nat} {ds : List Nat} (h : IsDigits m ds) (hm : 0 < m) (hd : d < 10) :
    IsDigits (m * 10 + d) (ds ++ [d]) where
  text := by
    rw [Nat.toDigits_eq_if (by decide), if_neg (by omega), show (m * 10 + d) / 10 = m by omega,
      show (m * 10 + d) % 10 = d by omega, h.text, List.map_append]
    rfl
  small e he := by
    rcases List.mem_append.mp he with he | he
    · exact h.small e he
    · rw [List.mem_singleton.mp he]
      exact hd
  ne_nil := List.append_ne_nil_of_left_ne_nil h.ne_nil _
  zero h0 := by omega
  lead _ := by
    obtain ⟨a, as, rfl⟩ := List.exists_cons_of_ne_nil h.ne_nil
    exact h.lead hm
  value hlt := keep_concat (h.value (by omega)) hlt

theorem exists_isDigits (n : Nat) : ∃ ds, IsDigits n ds := by
  induction n using Nat.strongRecOn with
  | ind n ih =>
    rcases Nat.lt_or_ge n 10 with hn | hn
    · exact ⟨[n], isDigits_singleton hn⟩
    · obtain ⟨ds, h⟩ := ih (n / 10) (by omega)
      have hconcat := h.concat (d := n % 10) (by omega) (by omega)
      rw [Nat.div_add_mod'] at hconcat
      exact ⟨_, hconcat⟩

theorem readUnsigned_toDigits (negative : Bool) {n : Nat} {ds : List Nat} (h : IsDigits n ds)
    (hr : Ends rest) :
    readUnsigned negative (Nat.toDigits 10 n ++ rest) =
      some (⟨negative, ds, none, none⟩, rest) := by
  have hwhole : readWhole (Nat.toDigits 10 n ++ rest) = some (ds, rest) := by
    rw [readWhole, h.text, readDigits_map h.small hr]
    split
    · rename_i heq
      exact absurd (Prod.mk.inj heq).1 h.ne_nil
    · rename_i d ds' heq
      obtain ⟨hds, -⟩ := Prod.mk.inj heq
      rcases Nat.eq_zero_or_pos n with hn | hn
      · rw [h.zero hn] at hds
        cases hds
      · exact absurd (by rw [hds]; rfl) (h.lead hn)
    · rename_i heq
      rw [heq]
  have hfraction : readFraction rest = some (none, rest) := by
    unfold readFraction
    split
    · exact absurd rfl (hr _ rfl).2.1
    · rfl
  have hexponent : readExponent rest = some (none, rest) := by
    unfold readExponent
    split
    · rename_i c r
      obtain ⟨-, -, he, hE⟩ := hr c rfl
      rw [if_neg (not_or.mpr ⟨he, hE⟩)]
    · rfl
  rw [readUnsigned, hwhole]
  show (readFraction rest).bind _ = _
  rw [hfraction]
  show (readExponent rest).bind _ = _
  rw [hexponent]
  rfl

/-- The integer is one that a word holds, with a sign or without. -/
def Fits (i : Int) : Prop := -(Literal.negativeLimit : Int) ≤ i ∧ i < Text.wordLimit

theorem toDigits_append_ne_minus (n : Nat) (rest r : List Char) :
    Nat.toDigits 10 n ++ rest ≠ '-' :: r := by
  intro h
  obtain ⟨c, cs, hc⟩ := List.exists_cons_of_ne_nil (Nat.toDigits_ne_nil (b := 10) (n := n))
  rw [hc, List.cons_append] at h
  have hmem : '-' ∈ Nat.toDigits 10 n := by
    rw [hc, (List.cons.inj h).1]
    exact List.mem_cons_self
  exact absurd (Nat.isDigit_of_mem_toDigits (by decide) (by decide) hmem) (by decide)

theorem toList_decimal (n : Nat) : (Text.decimal n).toList = Nat.toDigits 10 n :=
  String.toList_ofList

/-- An integer is read back from its decimal digits. -/
theorem readNumber_decimalInt {i : Int} (hi : Fits i) (hr : Ends rest) :
    readNumber ((Text.decimalInt i).toList ++ rest) = some (.integer i, rest) := by
  cases i with
  | ofNat n =>
    obtain ⟨ds, h⟩ := exists_isDigits n
    have hn : n < Text.wordLimit := Int.ofNat_lt.mp hi.2
    rw [Text.decimalInt, toList_decimal, readNumber, readUnsigned_toDigits false h hr]
    · show (Literal.value? ⟨false, ds, none, none⟩).bind _ = _
      rw [Literal.value?, h.value hn]
      rfl
    · exact fun r heq => toDigits_append_ne_minus n rest r heq
  | negSucc n =>
    obtain ⟨ds, h⟩ := exists_isDigits (n + 1)
    have hn : n + 1 ≤ Literal.negativeLimit := by
      have := hi.1
      omega
    have hlt : n + 1 < Text.wordLimit :=
      Nat.lt_of_le_of_lt hn (by decide)
    rw [Text.decimalInt, String.toList_append, toList_decimal, List.append_assoc]
    show (readUnsigned true (Nat.toDigits 10 (n + 1) ++ rest)).bind _ = _
    rw [readUnsigned_toDigits true h hr]
    show (Literal.value? ⟨true, ds, none, none⟩).bind _ = _
    rw [Literal.value?, h.value hlt]
    have hsmall : ¬(n + 1 = 0 ∨ Literal.negativeLimit < n + 1) := by omega
    simp only [if_true, if_neg hsmall]
    rfl

/-! ## Parts between brackets -/

/-- A text can stand between brackets: it starts with no blank and closes none of them. -/
def Starts (s : List Char) : Prop :=
  ∃ c t, s = c :: t ∧ isSpace c = false ∧ c ≠ ']' ∧ c ≠ '\x7d'

theorem skipSpace_cons (hc : isSpace c = false) (s : List Char) : skipSpace (c :: s) = c :: s := by
  simp only [skipSpace, List.dropWhile_cons, hc, Bool.false_eq_true, if_false]

/-- The texts are read as the values, whatever follows that is no part of a number. -/
def Reads {α : Type} (part : List Char → Option (α × List Char)) :
    List (List Char) → List α → Prop :=
  List.Forall₂ fun text a => Starts text ∧ ∀ rest, Ends rest → part (text ++ rest) = some (a, rest)

section Parts

variable {α : Type} {part : List Char → Option (α × List Char)} {close : Char}
  (hclose : close = ']' ∨ close = '\x7d')

include hclose

theorem isSpace_close : isSpace close = false := by rcases hclose with rfl | rfl <;> rfl

theorem ends_close (rest : List Char) : Ends (close :: rest) := by
  rcases hclose with rfl | rfl <;> exact ends_cons (by decide) rest

/-- Parts between commas are read back in order. -/
theorem readParts_intercalate {texts : List (List Char)} {values : List α}
    (h : Reads part texts values) (nonempty : texts ≠ []) {most : Nat}
    (enough : texts.length ≤ most) (rest : List Char) :
    readParts part close most ([','].intercalate texts ++ close :: rest) =
      some (values, rest) := by
  induction h generalizing most with
  | nil => exact absurd rfl nonempty
  | @cons text a texts values first later ih =>
    cases most with
    | zero => exact absurd enough (Nat.not_succ_le_zero _)
    | succ most =>
      cases texts with
      | nil =>
        cases later
        rw [List.intercalate_singleton, readParts, first.2 _ (ends_close hclose rest)]
        simp only [skipSpace_cons (isSpace_close hclose), if_true]
      | cons text' texts =>
        have hne : ',' ≠ close := by rcases hclose with rfl | rfl <;> decide
        have hrest := ih (List.cons_ne_nil _ _) (Nat.le_of_succ_le_succ enough)
        rw [List.intercalate_cons_cons, List.append_assoc, List.append_assoc,
          List.singleton_append, readParts, first.2 _ (ends_comma _)]
        simp only [skipSpace_cons (show isSpace ',' = false from rfl), if_neg hne, hrest, if_true]
        rfl

theorem readBlock_intercalate {texts : List (List Char)} {values : List α}
    (h : Reads part texts values) {most : Nat} (enough : texts.length ≤ most)
    (rest : List Char) :
    readBlock part close most ([','].intercalate texts ++ close :: rest) =
      some (values, rest) := by
  cases h with
  | nil =>
    show readBlock part close most (close :: rest) = _
    rw [readBlock, skipSpace_cons (isSpace_close hclose)]
    simp only [if_true]
  | @cons text a texts values first later =>
    have hparts :=
      readParts_intercalate hclose (.cons first later) (List.cons_ne_nil _ _) enough rest
    obtain ⟨⟨c, t, rfl, hc, hsquare, hcurly⟩, -⟩ := first
    have hne : c ≠ close := by rcases hclose with rfl | rfl <;> assumption
    have hhead : ∃ t', [','].intercalate ((c :: t) :: texts) ++ close :: rest = c :: t' := by
      cases texts with
      | nil => exact ⟨_, rfl⟩
      | cons => exact ⟨_, by rw [List.intercalate_cons_cons]; rfl⟩
    obtain ⟨t', ht'⟩ := hhead
    rw [ht'] at hparts ⊢
    rw [readBlock, skipSpace_cons hc]
    exact (if_neg hne).trans hparts

end Parts

/-! ## Values -/

/-- The value can be written and read back: numbers are integers that fit a word, objects are in key
order, and there is room for its brackets inside one another. -/
inductive Plain : Nat → Json → Prop where
  | null {room : Nat} : Plain room .null
  | bool {room : Nat} (b : Bool) : Plain room (.bool b)
  | integer {room : Nat} {i : Int} (fits : Fits i) : Plain room (.num (.integer i))
  | str {room : Nat} (s : String) : Plain room (.str s)
  | arr {room : Nat} {items : List Json} (each : ∀ v ∈ items, Plain room v) :
    Plain (room + 1) (.arr items)
  | obj {room : Nat} {fields : Entries Json} (sorted : fields.Sorted)
    (each : ∀ f ∈ fields, Plain room f.2) : Plain (room + 1) (.obj fields)

/-- What a number starts with. -/
structure NumberHead (c : Char) : Prop where
  space : isSpace c = false
  quote : c ≠ '"'
  letter : c ≠ 'n' ∧ c ≠ 't' ∧ c ≠ 'f'
  square : c ≠ '[' ∧ c ≠ ']'
  curly : c ≠ '\x7b' ∧ c ≠ '\x7d'

theorem numberHead_digitChar : ∀ d < 10, isSpace (Nat.digitChar d) = false ∧
    Nat.digitChar d ≠ '"' ∧
    (Nat.digitChar d ≠ 'n' ∧ Nat.digitChar d ≠ 't' ∧ Nat.digitChar d ≠ 'f') ∧
    (Nat.digitChar d ≠ '[' ∧ Nat.digitChar d ≠ ']') ∧
    (Nat.digitChar d ≠ '\x7b' ∧ Nat.digitChar d ≠ '\x7d') := by decide

theorem exists_numberHead (i : Int) :
    ∃ c t, (Text.decimalInt i).toList = c :: t ∧ NumberHead c := by
  cases i with
  | ofNat n =>
    obtain ⟨ds, h⟩ := exists_isDigits n
    obtain ⟨d, ds', rfl⟩ := List.exists_cons_of_ne_nil h.ne_nil
    obtain ⟨h1, h2, h3, h4, h5⟩ := numberHead_digitChar d (h.small d List.mem_cons_self)
    exact ⟨_, _, by rw [Text.decimalInt, toList_decimal, h.text]; rfl, h1, h2, h3, h4, h5⟩
  | negSucc n =>
    refine ⟨'-', _, by rw [Text.decimalInt, String.toList_append]; rfl, ?_⟩
    constructor <;> decide

theorem readValue_of_leaf (most room : Nat) (hspace : isSpace c = false) (hsquare : c ≠ '[')
    (hcurly : c ≠ '\x7b') (s : List Char) : readValue most room (c :: s) = readLeaf (c :: s) := by
  cases room with
  | zero => rfl
  | succ room =>
    rw [readValue, skipSpace_cons hspace]
    split
    · rename_i h
      exact absurd (List.cons.inj h).1 hsquare
    · rename_i h
      exact absurd (List.cons.inj h).1 hcurly
    · rfl

theorem readLeaf_number (h : NumberHead c) (s : List Char) :
    readLeaf (c :: s) = (readNumber (c :: s)).map fun (n, t) => (.num n, t) := by
  obtain ⟨hn, ht, hf⟩ := h.letter
  rw [readLeaf, skipSpace_cons h.space]
  split
  · rename_i heq
    exact absurd (List.cons.inj heq).1 h.quote
  · rename_i heq
    exact absurd (List.cons.inj heq).1 hn
  · rename_i heq
    exact absurd (List.cons.inj heq).1 ht
  · rename_i heq
    exact absurd (List.cons.inj heq).1 hf
  · rfl

theorem toList_quoted (s : String) :
    (quoted s).toList = '"' :: (s.toList.flatMap escape ++ ['"']) := by
  rw [quoted, String.toList_ofList]
  rfl

theorem compactItems_eq (items : List Json) : compactItems items = items.map compact := by
  induction items with
  | nil => rfl
  | cons v vs ih => rw [compactItems, ih, List.map_cons]

theorem compactFields_eq (fields : List (String × Json)) :
    compactFields fields = fields.map fun f => quoted f.1 ++ ":" ++ compact f.2 := by
  induction fields with
  | nil => rfl
  | cons f fs ih => rw [compactFields, ih, List.map_cons]

theorem toList_compact_arr (items : List Json) :
    (compact (.arr items)).toList =
      '[' :: ([','].intercalate (items.map fun v => (compact v).toList) ++ [']']) := by
  rw [compact, String.toList_append, String.toList_append, String.toList_intercalate,
    compactItems_eq, List.map_map]
  rfl

/-- The written form of a field. -/
def fieldText (f : String × Json) : List Char :=
  (quoted f.1).toList ++ ':' :: (compact f.2).toList

theorem toList_compact_obj (fields : List (String × Json)) :
    (compact (.obj fields)).toList =
      '\x7b' :: ([','].intercalate (fields.map fieldText) ++ ['\x7d']) := by
  have htext (f : String × Json) :
      (quoted f.1 ++ ":" ++ compact f.2).toList = fieldText f := by
    rw [String.toList_append, String.toList_append, List.append_assoc]
    rfl
  rw [compact, String.toList_append, String.toList_append, String.toList_intercalate,
    compactFields_eq, List.map_map]
  simp only [Function.comp_def, htext]
  rfl

theorem starts_compact {room : Nat} {v : Json} (h : Plain room v) : Starts (compact v).toList := by
  cases h with
  | null => exact ⟨'n', _, rfl, by decide⟩
  | bool b => cases b <;> exact ⟨_, _, rfl, by decide⟩
  | @integer _ i =>
    obtain ⟨c, t, ht, hc⟩ := exists_numberHead i
    exact ⟨c, t, ht, hc.space, hc.square.2, hc.curly.2⟩
  | str s => exact ⟨'"', _, toList_quoted s, by decide⟩
  | arr => exact ⟨'[', _, toList_compact_arr _, by decide⟩
  | obj => exact ⟨'\x7b', _, toList_compact_obj _, by decide⟩

theorem starts_fieldText (f : String × Json) : Starts (fieldText f) :=
  ⟨'"', _, by rw [fieldText, toList_quoted]; rfl, by decide⟩

/-- No part is empty. -/
theorem length_le_intercalate {texts : List (List Char)} (h : ∀ text ∈ texts, Starts text) :
    texts.length ≤ ([','].intercalate texts).length ∧
      ∀ text ∈ texts, text.length ≤ ([','].intercalate texts).length := by
  induction texts with
  | nil => exact ⟨Nat.le_refl _, by simp⟩
  | cons text texts ih =>
    obtain ⟨hstarts, htexts⟩ := List.forall_mem_cons.mp h
    obtain ⟨hlength, hmem⟩ := ih htexts
    have hpos : 1 ≤ text.length := by
      obtain ⟨c, t, rfl, -⟩ := hstarts
      exact Nat.succ_le_succ (Nat.zero_le _)
    cases texts with
    | nil =>
      rw [List.intercalate_singleton]
      exact ⟨hpos, by simp⟩
    | cons text' texts =>
      rw [List.intercalate_cons_cons]
      simp only [List.length_append, List.length_cons, List.length_nil] at hlength hmem ⊢
      refine ⟨by omega, ?_⟩
      intro t ht
      rcases List.mem_cons.mp ht with rfl | ht
      · omega
      · have := hmem t ht
        omega

theorem readField_fieldText {value : List Char → Option (Json × List Char)} {f : String × Json}
    (h : ∀ rest, Ends rest → value ((compact f.2).toList ++ rest) = some (f.2, rest))
    {rest : List Char} (hr : Ends rest) :
    readField value (fieldText f ++ rest) = some (f, rest) := by
  have htext : fieldText f ++ rest =
      '"' :: (f.1.toList.flatMap escape ++ '"' :: ':' :: ((compact f.2).toList ++ rest)) := by
    rw [fieldText, toList_quoted]
    simp only [List.cons_append, List.append_assoc, List.nil_append]
  rw [htext, readField, skipSpace_cons (by decide)]
  show (readString _).bind _ = _
  simp only [readString_escapes, Option.bind_some,
    skipSpace_cons (show isSpace ':' = false from rfl)]
  show (value _).bind _ = _
  rw [h rest hr, Option.bind_some, String.ofList_toList]
  rfl

/-- A value is read back from its compact text, whatever follows it. -/
theorem readValue_compact {room : Nat} {v : Json} (h : Plain room v) {most : Nat}
    (enough : (compact v).toList.length ≤ most) {rest : List Char} (hr : Ends rest) :
    readValue most room ((compact v).toList ++ rest) = some (v, rest) := by
  induction h generalizing rest with
  | @null room =>
    show readValue most room ('n' :: 'u' :: 'l' :: 'l' :: rest) = _
    rw [readValue_of_leaf most room (by decide) (by decide) (by decide)]
    rfl
  | @bool room b =>
    cases b with
    | true =>
      show readValue most room ('t' :: 'r' :: 'u' :: 'e' :: rest) = _
      rw [readValue_of_leaf most room (by decide) (by decide) (by decide)]
      rfl
    | false =>
      show readValue most room ('f' :: 'a' :: 'l' :: 's' :: 'e' :: rest) = _
      rw [readValue_of_leaf most room (by decide) (by decide) (by decide)]
      rfl
  | @integer room i fits =>
    have hnumber := readNumber_decimalInt fits hr
    obtain ⟨c, t, ht, hc⟩ := exists_numberHead i
    show readValue most room ((Text.decimalInt i).toList ++ rest) = _
    rw [ht, List.cons_append] at hnumber ⊢
    rw [readValue_of_leaf most room hc.space hc.square.1 hc.curly.1, readLeaf_number hc, hnumber]
    rfl
  | @str room s =>
    show readValue most room ((quoted s).toList ++ rest) = _
    rw [toList_quoted, List.cons_append, List.append_assoc, List.singleton_append,
      readValue_of_leaf most room (by decide) (by decide) (by decide)]
    show (readString (s.toList.flatMap escape ++ '"' :: rest)).map _ = _
    rw [readString_escapes]
    show some (Json.str (String.ofList s.toList), rest) = _
    rw [String.ofList_toList]
  | @arr room items each ih =>
    have hstarts : ∀ text ∈ items.map fun v => (compact v).toList, Starts text := by
      intro text htext
      obtain ⟨v, hv, rfl⟩ := List.mem_map.mp htext
      exact starts_compact (each v hv)
    obtain ⟨hlength, hmem⟩ := length_le_intercalate hstarts
    rw [toList_compact_arr, List.length_cons, List.length_append] at enough
    have hreads : Reads (readValue most room) (items.map fun v => (compact v).toList) items := by
      refine List.forall₂_map_left_iff.mpr (List.forall₂_same.mpr fun v hv => ?_)
      have hle := hmem _ (List.mem_map_of_mem hv)
      exact ⟨starts_compact (each v hv), fun rest hr => ih v hv (by omega) hr⟩
    rw [toList_compact_arr, List.cons_append, List.append_assoc, List.singleton_append, readValue,
      skipSpace_cons (by decide)]
    show (readBlock _ _ _ _).map _ = _
    rw [readBlock_intercalate (.inl rfl) hreads (by omega)]
    rfl
  | @obj room fields sorted each ih =>
    have hstarts : ∀ text ∈ fields.map fieldText, Starts text := by
      intro text htext
      obtain ⟨f, -, rfl⟩ := List.mem_map.mp htext
      exact starts_fieldText f
    obtain ⟨hlength, hmem⟩ := length_le_intercalate hstarts
    rw [toList_compact_obj, List.length_cons, List.length_append] at enough
    have hreads : Reads (readField (readValue most room)) (fields.map fieldText) fields := by
      refine List.forall₂_map_left_iff.mpr (List.forall₂_same.mpr fun f hf => ?_)
      have hle := hmem _ (List.mem_map_of_mem hf)
      rw [fieldText, List.length_append, List.length_cons] at hle
      exact ⟨starts_fieldText f, fun rest hr =>
        readField_fieldText (fun rest hr => ih f hf (by omega) hr) hr⟩
    rw [toList_compact_obj, List.cons_append, List.append_assoc, List.singleton_append, readValue,
      skipSpace_cons (by decide)]
    show (readBlock _ _ _ _).map _ = _
    rw [readBlock_intercalate (.inr rfl) hreads (by omega)]
    show some (Json.obj (Entries.ofList fields), rest) = _
    rw [sorted.ofList_eq]

/-- What is written is read back. -/
theorem ofString?_compact {v : Json} (h : Plain maxDepth v) : ofString? v.compact = some v := by
  have hread := readValue_compact h (Nat.le_refl _) ends_nil
  rw [List.append_nil] at hread
  rw [ofString?, read?, hread]
  rfl

end CursorPaging.Json
