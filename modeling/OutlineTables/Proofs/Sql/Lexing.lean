import Mathlib.Data.List.Forall2
import OutlineTables.Proofs.Sql.Reader

/-!
Pieces of SQL with the tokens that they are read as. A piece ends where no word and no quoted text
can go on behind it.
-/
namespace OutlineTables.Sql

/-- Text that goes on neither a word nor a quoted text before it. -/
def Breaks (t : Text) : Prop := ∀ c ∈ t.head?, isWordMark c = false ∧ c ≠ '\''

/-- A piece of a line that is read as some tokens, whatever comes after it. -/
structure Lexes (t : Text) (ts : List Token) : Prop where
  line : '\n' ∉ t
  reads : ∀ rest, Breaks rest →
    lexFrom .between (t ++ rest) = (lexFrom .between rest).map (ts ++ ·)

/-- A nonempty text of word marks. -/
def IsWord (w : Text) : Prop := w ≠ [] ∧ w.all isWordMark = true

instance (w : Text) : Decidable (IsWord w) := inferInstanceAs (Decidable (_ ∧ _))

/-- A character that is a token of its own. -/
def IsMark (c : Char) : Prop := isWordMark c = false ∧ c ≠ '\'' ∧ c.isWhitespace = false

instance (c : Char) : Decidable (IsMark c) := inferInstanceAs (Decidable (_ ∧ _))

variable {a b t w rest : Text} {as bs ts : List Token} {c : Char}

theorem breaks_nil : Breaks [] := fun _ h => nomatch h

theorem breaks_cons : Breaks (c :: t) ↔ isWordMark c = false ∧ c ≠ '\'' := by
  simp [Breaks]

theorem Breaks.append (ha : Breaks a) (hb : Breaks b) : Breaks (a ++ b) := by
  cases a with
  | nil => exact hb
  | cons c a => exact breaks_cons.mpr (breaks_cons.mp ha)

theorem IsMark.breaks (h : IsMark c) : Breaks (c :: t) := breaks_cons.mpr ⟨h.1, h.2.1⟩

theorem IsMark.ne_newline (h : IsMark c) : '\n' ≠ c := by
  rintro rfl
  revert h
  decide

theorem breaks_space : Breaks (' ' :: t) := breaks_cons.mpr (by decide)

/-! ### The lexer in the middle of a token -/

theorem lexFrom_word (hw : w.all isWordMark = true) (s : Text) (hr : Breaks rest) :
    lexFrom (.word s) (w ++ rest) = (lexFrom .between rest).map (.word (s ++ w) :: ·) := by
  induction w generalizing s with
  | nil =>
    cases rest with
    | nil => simp [lexFrom]
    | cons c cs =>
      obtain ⟨hc, -⟩ := breaks_cons.mp hr
      simp [lexFrom, hc, Function.comp_def]
  | cons c w ih =>
    rw [List.all_cons, Bool.and_eq_true] at hw
    rw [List.cons_append, lexFrom, if_pos hw.1, ih hw.2, List.append_assoc]
    rfl

/-- Doubled quotes are read as one, and the first single quote ends the text. -/
theorem lexFrom_quoted (t s : Text) (hr : Breaks rest) :
    lexFrom (.quoted s) (Text.double '\'' t ++ '\'' :: rest) =
      (lexFrom .between rest).map (.text (s ++ t) :: ·) := by
  induction t generalizing s with
  | nil =>
    cases rest with
    | nil => simp [Text.double, lexFrom]
    | cons c cs =>
      obtain ⟨-, hc⟩ := breaks_cons.mp hr
      simp [Text.double, lexFrom, hc, Function.comp_def]
  | cons c t ih =>
    -- A quote in the text is written twice; behind the second one the lexer is inside again.
    by_cases hc : c = '\''
    · have hd : Text.double '\'' (c :: t) = '\'' :: '\'' :: Text.double '\'' t := by
        simp [Text.double, hc]
      rw [hd, List.cons_append, List.cons_append, lexFrom, if_pos rfl, lexFrom, if_pos rfl, ih,
        List.append_assoc, hc]
      rfl
    · have hd : Text.double '\'' (c :: t) = c :: Text.double '\'' t := by
        simp [Text.double, hc]
      rw [hd, List.cons_append, lexFrom, if_neg hc, ih, List.append_assoc]
      rfl

theorem mem_double {old : Char} (h : c ∈ Text.double old t) : c ∈ t := by
  induction t with
  | nil => exact h
  | cons d t ih =>
    unfold Text.double at h
    split at h
    · rcases List.mem_cons.mp h with rfl | h
      · exact List.mem_cons_self
      · rcases List.mem_cons.mp h with rfl | h
        · exact List.mem_cons_self
        · exact List.mem_cons_of_mem _ (ih h)
    · rcases List.mem_cons.mp h with rfl | h
      · exact List.mem_cons_self
      · exact List.mem_cons_of_mem _ (ih h)

theorem not_newline_of_isWordMark (h : isWordMark c = true) : c ≠ '\n' := by
  rintro rfl
  revert h
  decide

theorem not_quote_of_isWordMark (h : isWordMark c = true) : c ≠ '\'' := by
  rintro rfl
  revert h
  decide

namespace Lexes

theorem nil : Lexes [] [] where
  line := List.not_mem_nil
  reads := fun rest _ => by simp

theorem append (ha : Lexes a as) (hb : Lexes b bs) (h : Breaks b) : Lexes (a ++ b) (as ++ bs) where
  line := fun hn => (List.mem_append.mp hn).elim ha.line hb.line
  reads := fun rest hr => by
    rw [List.append_assoc, ha.reads _ (h.append hr), hb.reads rest hr, Option.map_map]
    congr 1
    funext ts
    exact (List.append_assoc as bs ts).symm

theorem word (h : IsWord w) : Lexes w [.word w] where
  line := fun hn => not_newline_of_isWordMark (List.all_eq_true.mp h.2 _ hn) rfl
  reads := fun rest hr => by
    obtain ⟨hne, hall⟩ := h
    cases w with
    | nil => exact absurd rfl hne
    | cons c w =>
      rw [List.all_cons, Bool.and_eq_true] at hall
      have hstart : start c = ([], .word [c]) := by
        simp [start, hall.1, not_quote_of_isWordMark hall.1]
      rw [List.cons_append, lexFrom, hstart, lexFrom_word hall.2 [c] hr]
      simp [Function.comp_def]

/-- A mark stands for itself, so anything may follow it. -/
theorem mark (h : IsMark c) (ht : Lexes t ts) : Lexes (c :: t) (.mark c :: ts) where
  line := fun hm => (List.mem_cons.mp hm).elim h.ne_newline ht.line
  reads := fun rest hr => by
    have hstart : start c = ([.mark c], .between) := by simp [start, h.1, h.2.1, h.2.2]
    rw [List.cons_append, lexFrom, hstart, ht.reads rest hr]
    simp [Function.comp_def]

theorem space (ht : Lexes t ts) : Lexes (' ' :: t) ts where
  line := fun hm => (List.mem_cons.mp hm).elim (by decide) ht.line
  reads := fun rest hr => by
    have hstart : start ' ' = ([], .between) := rfl
    rw [List.cons_append, lexFrom, hstart, ht.reads rest hr]
    simp [Function.comp_def]

/-- A word and a space behind it. -/
theorem spaced (hw : IsWord w) (ht : Lexes t ts) : Lexes (w ++ ' ' :: t) (.word w :: ts) :=
  (word hw).append ht.space breaks_space

theorem quote (h : '\n' ∉ t) : Lexes (quote t) [.text t] where
  line := by
    unfold Sql.quote
    intro hn
    rcases List.mem_append.mp hn with hn | hn
    · rcases List.mem_cons.mp hn with hn | hn
      · revert hn
        decide
      · exact h (mem_double hn)
    · revert hn
      decide
  reads := fun rest hr => by
    have hstart : start '\'' = ([], .quoted []) := rfl
    have happend : Sql.quote t ++ rest = '\'' :: (Text.double '\'' t ++ '\'' :: rest) := by
      simp [Sql.quote]
    rw [happend, lexFrom, hstart, lexFrom_quoted t [] hr]
    simp [Function.comp_def]

theorem lex (h : Lexes t ts) : lex t = some ts := by
  have hreads := h.reads [] breaks_nil
  rw [List.append_nil] at hreads
  simp [Sql.lex, hreads, lexFrom]

end Lexes

/-! ### Pieces with separators between them -/

/-- Text between two pieces, as the tokens that it is read as. -/
structure Separates (sep : Text) (seps : List Token) : Prop where
  breaks : ∀ t, Breaks (sep ++ t)
  lexes : ∀ t ts, Lexes t ts → Lexes (sep ++ t) (seps ++ ts)

theorem Lexes.join {sep : Text} {seps : List Token} (hsep : Separates sep seps) {ps : List Text}
    {tss : List (List Token)} (h : List.Forall₂ Lexes ps tss) :
    Lexes (Text.join sep ps) (seps.intercalate tss) := by
  induction h with
  | nil => exact Lexes.nil
  | @cons p ts ps tss hp hps ih =>
    cases hps with
    | nil => simpa [Text.join] using hp
    | cons hq hqs =>
      rw [Text.join, List.intercalate_cons_cons, List.append_assoc, List.append_assoc]
      exact hp.append (hsep.lexes _ _ ih) (hsep.breaks _)

theorem separates_comma : Separates [','] [.mark ','] where
  breaks := fun _ => IsMark.breaks (by decide)
  lexes := fun _ _ h => h.mark (by decide)

theorem separates_and : Separates " AND ".toList [.key "AND"] where
  breaks := fun _ => breaks_space
  lexes := fun _ _ h => Lexes.space (Lexes.spaced (w := "AND".toList) (by decide) h)

/-- The tokens of parts in round brackets. -/
def bracketed (tss : List (List Token)) : List Token :=
  .mark '(' :: [.mark ','].intercalate tss ++ [.mark ')']

theorem Lexes.parenthesized {ls : List Text} {tss : List (List Token)}
    (h : List.Forall₂ Lexes ls tss) : Lexes (parenthesized ls) (bracketed tss) :=
  ((Lexes.join separates_comma h).append (Lexes.nil.mark (by decide))
    (IsMark.breaks (by decide))).mark (by decide)

end OutlineTables.Sql
