import Mathlib.Data.List.Basic
import Mathlib.Tactic

/-! The placeholders of a SQL text. The portal writes question marks; for PostgreSQL they are
rewritten to psycopg's `%s` by a scanner that knows single quotes only and leaves percent signs as
they are. -/

namespace Ghostlink.Portal
open List

inductive Piece
  | char (c : Char)
  | param
  deriving DecidableEq

inductive Quote
  | plain | literal | identifier
  deriving DecidableEq

def Quote.next : Quote → Char → Quote
  | .plain, c => if c = '\'' then .literal else if c = '"' then .identifier else .plain
  | .literal, c => if c = '\'' then .plain else .literal
  | .identifier, c => if c = '"' then .plain else .identifier

/-- The statement that a text with question marks denotes. -/
def statement : Quote → List Char → List Piece
  | _, [] => []
  | quote, c :: sql =>
    (if c = '?' ∧ quote = .plain then .param else .char c) :: statement (quote.next c) sql

/-- What psycopg makes of a text that is given with a tuple of parameters. A percent sign at the end
or before a line break is one; `%(name)s` needs a mapping. -/
def formatted : List Char → Option (List Piece)
  | [] => some []
  | ['%'] => some [.char '%']
  | '%' :: c :: text =>
    if c = '\n' then (formatted (c :: text)).map (.char '%' :: ·)
    else if c = '%' then (formatted text).map (.char '%' :: ·)
    else if c = 's' ∨ c = 'b' ∨ c = 't' then (formatted text).map (.param :: ·)
    else none
  | c :: text => (formatted text).map (.char c :: ·)

/-- `_translate_placeholders` from some character on. -/
def translatePlaceholders : Bool → List Char → List Char
  | _, [] => []
  | inStr, c :: sql =>
    if c = '\'' then c :: translatePlaceholders (!inStr) sql
    else if c = '?' ∧ ¬ inStr then '%' :: 's' :: translatePlaceholders inStr sql
    else c :: translatePlaceholders inStr sql

def quoteAfter (quote : Quote) (text : List Char) : Quote := text.foldl Quote.next quote

/-- The apostrophes within the quoted identifiers of a text. -/
def quotedApostrophes : Quote → List Char → ℕ
  | _, [] => 0
  | quote, c :: text => (if c = '\'' ∧ quote = .identifier then 1 else 0) +
      quotedApostrophes (quote.next c) text

/-- Every percent sign stands at the end or before a line break. -/
def FewPercents (sql : List Char) : Prop :=
  ∀ i < sql.length, sql[i]? = some '%' → sql[i + 1]? = none ∨ sql[i + 1]? = some '\n'

/-- The apostrophes within quoted identifiers, `k` and those of the text, are odd in number before the
question marks of quoted identifiers, and even before the others. -/
def Balanced (k : ℕ) (quote : Quote) (sql : List Char) : Prop :=
  ∀ i < sql.length, sql[i]? = some '?' →
    (quoteAfter quote (sql.take i) = .identifier ↔
      (k + quotedApostrophes quote (sql.take i)) % 2 = 1)

lemma fewPercents_cons {c sql} : FewPercents (c :: sql) ↔
    (c = '%' → sql[0]? = none ∨ sql[0]? = some '\n') ∧ FewPercents sql := by
  rw [FewPercents, length_cons, Nat.forall_lt_succ_left]
  simp [FewPercents]

lemma balanced_cons {k quote c sql} : Balanced k quote (c :: sql) ↔
    (c = '?' → (quote = .identifier ↔ k % 2 = 1)) ∧
      Balanced (k + if c = '\'' ∧ quote = .identifier then 1 else 0) (quote.next c) sql := by
  rw [Balanced, length_cons, Nat.forall_lt_succ_left]
  simp [Balanced, quoteAfter, quotedApostrophes, add_assoc]

lemma formatted_cons {c} (other : c ≠ '%') (text) :
    formatted (c :: text) = (formatted text).map (.char c :: ·) := by
  rw [formatted.eq_def]
  split <;> simp_all

lemma translate_mark (sql) :
    translatePlaceholders false ('?' :: sql) = '%' :: 's' :: translatePlaceholders false sql := by
  simp [translatePlaceholders]

/-- The scanner's state after a character. -/
def toggled (inStr : Bool) (c : Char) : Bool := if c = '\'' then !inStr else inStr

lemma translate_other {inStr : Bool} {c} (other : c = '?' → inStr) (sql) :
    translatePlaceholders inStr (c :: sql) = c :: translatePlaceholders (toggled inStr c) sql := by
  rw [translatePlaceholders, toggled]
  split_ifs with _ mark
  · rfl
  · exact absurd (other mark.1) mark.2
  · rfl

lemma formatted_percent (c text) : formatted ('%' :: c :: text) =
    if c = '\n' then (formatted (c :: text)).map (.char '%' :: ·)
    else if c = '%' then (formatted text).map (.char '%' :: ·)
    else if c = 's' ∨ c = 'b' ∨ c = 't' then (formatted text).map (.param :: ·)
    else none := by
  rw [formatted]

/-- A percent sign of the text swallows the character after it, or is an error; so there are never more
pieces than characters, also after a percent sign before the text. -/
lemma length_formatted_le (inStr : Bool) (sql : List Char) :
    (∀ pieces ∈ formatted (translatePlaceholders inStr sql), pieces.length ≤ sql.length) ∧
      ∀ pieces ∈ formatted ('%' :: translatePlaceholders inStr sql),
        pieces.length ≤ sql.length + 1 := by
  induction sql generalizing inStr with
  | nil => simp [translatePlaceholders, formatted]
  | cons c sql ih =>
    by_cases mark : c = '?' ∧ inStr = false
    · obtain ⟨rfl, rfl⟩ := mark
      have next := (ih false).1
      rw [translate_mark, formatted_percent, formatted_percent]
      simpa [formatted_cons] using next
    · rw [translate_other (by simpa using mark)]
      obtain ⟨next, percent⟩ := ih (toggled inStr c)
      have own : ∀ pieces ∈ formatted (c :: translatePlaceholders (toggled inStr c) sql),
          pieces.length ≤ sql.length + 1 := by
        by_cases sign : c = '%'
        · rw [sign] at percent ⊢
          exact percent
        · simpa [formatted_cons sign] using next
      refine ⟨own, fun pieces made => ?_⟩
      rw [formatted_percent] at made
      split_ifs at made
      · obtain ⟨rest, written, rfl⟩ := Option.map_eq_some_iff.mp made
        exact Nat.succ_le_succ (own rest written)
      · obtain ⟨rest, written, rfl⟩ := Option.map_eq_some_iff.mp made
        exact Nat.succ_le_succ ((next rest written).trans (Nat.le_succ _))
      · obtain ⟨rest, written, rfl⟩ := Option.map_eq_some_iff.mp made
        exact Nat.succ_le_succ ((next rest written).trans (Nat.le_succ _))
      · cases made

lemma length_statement (quote sql) : (statement quote sql).length = sql.length := by
  induction sql generalizing quote with
  | nil => rfl
  | cons c sql ih => rw [statement, length_cons, length_cons, ih]

lemma percent_ne {c} (other : c ≠ '\n') (inStr : Bool) (quote : Quote) (sql) :
    formatted ('%' :: translatePlaceholders inStr (c :: sql)) ≠
      some (.char '%' :: statement quote (c :: sql)) := by
  by_cases mark : c = '?' ∧ inStr = false
  · obtain ⟨rfl, rfl⟩ := mark
    rw [translate_mark, formatted_percent]
    by_cases outside : quote = .plain <;> simp [formatted_cons, statement, outside]
  · rw [translate_other (by simpa using mark), formatted_percent, if_neg other]
    intro same
    split_ifs at same
    · obtain ⟨rest, written, equal⟩ := Option.map_eq_some_iff.mp same
      have short := (length_formatted_le _ sql).1 rest written
      have long := congrArg length (cons.inj equal).2
      rw [length_statement, length_cons] at long
      omega
    · obtain ⟨rest, -, equal⟩ := Option.map_eq_some_iff.mp same
      cases (cons.inj equal).1

lemma map_cons_eq_iff {x : Piece} {made : Option (List Piece)} {pieces : List Piece} :
    made.map (x :: ·) = some (x :: pieces) ↔ made = some pieces := by
  cases made <;> simp

lemma toggled_eq (quote : Quote) (k : ℕ) (c : Char) :
    toggled (decide (quote = .literal) ^^ decide (k % 2 = 1)) c =
      (decide (quote.next c = .literal) ^^
        decide ((k + if c = '\'' ∧ quote = .identifier then 1 else 0) % 2 = 1)) := by
  by_cases apostrophe : c = '\''
  · rcases Nat.mod_two_eq_zero_or_one k with even | odd <;> cases quote <;>
      simp [toggled, Quote.next, Nat.add_mod, *]
  · by_cases double : c = '"' <;> cases quote <;> simp [toggled, Quote.next, apostrophe, double]

/-- Induction on the text: the scanner's flag is that of a literal, toggled once by each apostrophe of
a quoted identifier. -/
lemma formatted_translate_iff (sql k quote) :
    formatted (translatePlaceholders (decide (quote = .literal) ^^ decide (k % 2 = 1)) sql) =
      some (statement quote sql) ↔ FewPercents sql ∧ Balanced k quote sql := by
  induction sql generalizing k quote with
  | nil => simp [translatePlaceholders, formatted, statement, FewPercents, Balanced]
  | cons c sql ih =>
    rw [fewPercents_cons, balanced_cons]
    have next := ih (k + if c = '\'' ∧ quote = .identifier then 1 else 0) (quote.next c)
    rw [← toggled_eq] at next
    by_cases mark : c = '?'
    · subst mark
      -- a parameter is written exactly where the flag is not set
      cases inStr : (decide (quote = .literal) ^^ decide (k % 2 = 1)) with
      | false =>
        rw [inStr] at next
        rw [translate_mark, formatted_percent, statement]
        rcases Nat.mod_two_eq_zero_or_one k with even | odd <;> cases quote <;>
          simp_all [toggled]
      | true =>
        rw [inStr] at next
        rw [translate_other fun _ => rfl, formatted_cons (by decide), statement]
        rcases Nat.mod_two_eq_zero_or_one k with even | odd <;> cases quote <;>
          simp_all [toggled]
    rw [translate_other fun same => absurd same mark, statement, if_neg fun h => mark h.1]
    by_cases sign : c = '%'
    · subst sign
      cases sql with
      | nil => simp [translatePlaceholders, formatted, statement, FewPercents, Balanced]
      | cons d sql =>
        by_cases line : d = '\n'
        · subst line
          rw [translate_other (by simp), formatted_percent, if_pos rfl, map_cons_eq_iff,
            ← translate_other (by simp), next]
          simp
        · refine iff_of_false (percent_ne line _ _ _) ?_
          simp [line]
    · rw [formatted_cons sign, map_cons_eq_iff, next]
      simp [mark, sign]

/-- A text keeps its meaning exactly if every percent sign stands at the end or before a line break and
the apostrophes in quoted identifiers are odd in number before the question marks of such identifiers
and even before the others. -/
theorem translation_denotes_iff (sql : List Char) :
    formatted (translatePlaceholders false sql) = some (statement .plain sql) ↔
      FewPercents sql ∧ Balanced 0 .plain sql :=
  formatted_translate_iff sql 0 .plain

theorem quoted_marks_kept :
    formatted (translatePlaceholders false "\"'?'\"='?' AND b=? %".toList) =
      some (statement .plain "\"'?'\"='?' AND b=? %".toList) :=
  (translation_denotes_iff _).mpr (by unfold FewPercents Balanced; decide +kernel)

/-- A pattern of `_read_checksums`, a quoted percent sign before a letter, and a question mark in
a quoted identifier. -/
theorem translations_astray :
    formatted (translatePlaceholders false "key LIKE 'migration_%_checksum'".toList) = none ∧
      formatted (translatePlaceholders false "a LIKE '%s'".toList) ≠
        some (statement .plain "a LIKE '%s'".toList) ∧
      formatted (translatePlaceholders false "\"a?\"".toList) ≠
        some (statement .plain "\"a?\"".toList) := by
  decide +kernel

end Ghostlink.Portal
