import OutlineTables.Proofs.Sql.Lexing
import OutlineTables.Proofs.Text.Numbers
import OutlineTables.Proofs.Text.Pieces

/-!
Literals read back. Line feeds in text are calls between quoted lines, so a literal stays on one
line and no text in it is taken for SQL.
-/
namespace OutlineTables

namespace Dialect

/-- The name of the function that makes a character. -/
def character : Dialect → Text
  | sqlite => "char".toList
  | postgres => "chr".toList

/-- The tokens between two quoted lines. -/
def splice (d : Dialect) : List Sql.Token :=
  [.mark '|', .mark '|', .word d.character, .mark '(', .key "10", .mark ')', .mark '|', .mark '|']

theorem newline_eq (d : Dialect) :
    d.newline = d.character ++ '(' :: "10".toList ++ [')'] := by
  cases d <;> rfl

end Dialect

namespace Sql

variable {d : Dialect} {c : Column} {v : Value} {l : Text} {ts : List Token}

theorem separates_splice (d : Dialect) :
    Separates ("||".toList ++ d.newline ++ "||".toList) d.splice where
  breaks := fun _ => IsMark.breaks (by decide)
  lexes := fun t ts h => by
    have hdigits : Lexes ("10".toList ++ ')' :: '|' :: '|' :: t)
        (.key "10" :: .mark ')' :: .mark '|' :: .mark '|' :: ts) :=
      (Lexes.word (by decide)).append
        (((h.mark (by decide)).mark (by decide)).mark (by decide)) (IsMark.breaks (by decide))
    have hcall : Lexes (d.character ++ '(' :: ("10".toList ++ ')' :: '|' :: '|' :: t))
        (.word d.character :: .mark '(' :: .key "10" :: .mark ')' :: .mark '|' :: .mark '|' :: ts) :=
      (Lexes.word (by cases d <;> decide)).append (hdigits.mark (by decide))
        (IsMark.breaks (by decide))
    have hbars := (hcall.mark (show IsMark '|' by decide)).mark (show IsMark '|' by decide)
    rw [Dialect.newline_eq]
    simpa [Dialect.splice] using hbars

theorem mem_intercalate {sep : List Token} {tss : List (List Token)} {x : Token}
    (h : x ∈ sep.intercalate tss) : x ∈ sep ∨ ∃ ts ∈ tss, x ∈ ts := by
  induction tss with
  | nil => cases h
  | cons ts tss ih =>
    cases tss with
    | nil => exact Or.inr ⟨ts, List.mem_cons_self, by simpa using h⟩
    | cons us tss =>
      rw [List.intercalate_cons_cons, List.append_assoc, List.mem_append, List.mem_append] at h
      rcases h with h | h | h
      · exact Or.inr ⟨ts, List.mem_cons_self, h⟩
      · exact Or.inl h
      · rcases ih h with h | ⟨us, hus, h⟩
        · exact Or.inl h
        · exact Or.inr ⟨us, List.mem_cons_of_mem _ hus, h⟩

theorem concat?_intercalate (d : Dialect) {ps : List Text} (hne : ps ≠ []) :
    concat? d (d.splice.intercalate (ps.map fun p => [.text p])) =
      some (Text.join ['\n'] ps) := by
  induction ps with
  | nil => exact absurd rfl hne
  | cons p ps ih =>
    cases ps with
    | nil => simp [concat?, Text.join]
    | cons q qs =>
      have hrest := ih (List.cons_ne_nil q qs)
      rw [List.map_cons] at hrest
      rw [List.map_cons, List.map_cons, List.intercalate_cons_cons]
      -- The lines that follow are read by the induction hypothesis and need not be opened here.
      generalize d.splice.intercalate ([.text q] :: _) = rest at hrest ⊢
      simp [Dialect.splice, concat?, Text.join, hrest, Token.key, Dialect.newline_eq]

theorem isWord_ofNat (n : Nat) : IsWord (Text.ofNat n) := by
  refine ⟨Text.ofNat_ne_nil n, List.all_eq_true.mpr fun c hc => ?_⟩
  simp [isWordMark, Char.isAlphanum, Text.isDigit_of_mem_ofNat hc]

theorem digits?_ofNat (n : Nat) : digits? (Text.ofNat n) = some n := by
  have hall : (Text.ofNat n).all Char.isDigit = true :=
    List.all_eq_true.mpr fun c hc => Text.isDigit_of_mem_ofNat hc
  unfold digits?
  rw [if_pos ⟨Text.ofNat_ne_nil n, hall⟩]
  exact congrArg some Nat.ofDigitChars_ten_toDigits

/-- The tokens at which the parts of a statement are cut. -/
def cuts : List Token := [.mark ',', .key "WHERE", .key "AND"]

theorem not_cut_ofNat (n : Nat) : Token.word (Text.ofNat n) ∉ cuts := by
  have hletter {w : Text} (h : Text.ofNat n = w) (hw : w.all Char.isDigit = false) : False := by
    rw [← h, List.all_eq_false] at hw
    obtain ⟨c, hc, hd⟩ := hw
    exact hd (Text.isDigit_of_mem_ofNat hc)
  intro h
  simp only [cuts, Token.key, List.mem_cons, Token.word.injEq, reduceCtorEq, List.not_mem_nil,
    or_false, false_or] at h
  rcases h with h | h
  · exact hletter h (by decide)
  · exact hletter h (by decide)

/-- Tokens of one part, which is not cut. -/
def Whole (ts : List Token) : Prop := ∀ x ∈ ts, x ∉ cuts

instance (ts : List Token) : Decidable (Whole ts) :=
  inferInstanceAs (Decidable (∀ x ∈ ts, x ∉ cuts))

theorem whole_cons {x : Token} : Whole (x :: ts) ↔ x ∉ cuts ∧ Whole ts := List.forall_mem_cons

theorem whole_splice (d : Dialect) : Whole d.splice := by
  cases d <;> decide

/-- A part of a statement with its tokens and what they are read as. -/
structure Reads {β : Type} (read : List Token → Option β) (b : β) (l : Text) (ts : List Token) :
    Prop where
  lexes : Lexes l ts
  whole : Whole ts
  value : read ts = some b

theorem reads_null (d : Dialect) (c : Column) :
    Reads (value? d c) (c.canonical .null) "NULL".toList [.key "NULL"] where
  lexes := Lexes.word (by decide)
  whole := by decide
  value := by simp [value?, Column.canonical]

theorem reads_boolean (hc : c.type = .boolean) (hv : v ≠ .null) :
    Reads (value? d c) (c.canonical v) (d.boolean v.truthy) [.word (d.boolean v.truthy)] where
  lexes := Lexes.word (by cases d <;> cases v.truthy <;> decide)
  whole := by
    intro x hx
    rw [List.mem_singleton.mp hx]
    cases d <;> cases v.truthy <;> decide
  value := by
    have hcanon : c.canonical v = .bool v.truthy := by
      cases v <;> first | exact absurd rfl hv | simp [Column.canonical, hc]
    rw [hcanon]
    cases d <;> cases v.truthy <;> simp [value?, hc, Token.key, Dialect.boolean]

theorem reads_integer (hc : c.type = .integer) (n : Int) (hv : c.canonical v = .int n) :
    ∃ ts, Reads (value? d c) (c.canonical v) (Text.ofInt n) ts := by
  -- Digits are not the key word that is read as null.
  have hvalue {ts : List Token} (h : integer? ts = some n) :
      value? d c ts = some (c.canonical v) := by
    have hnull : ts ≠ [.key "NULL"] := by
      rintro rfl
      revert h
      simp [integer?, digits?, Token.key]
    simp [value?, hnull, hc, h, hv]
  cases n with
  | ofNat n =>
    refine ⟨[.word (Text.ofNat n)], Lexes.word (isWord_ofNat n), ?_, hvalue ?_⟩
    · exact whole_cons.mpr ⟨not_cut_ofNat n, by decide⟩
    · simp [integer?, digits?_ofNat]
  | negSucc n =>
    refine ⟨[.mark '-', .word (Text.ofNat (n + 1))],
      (Lexes.word (isWord_ofNat (n + 1))).mark (by decide), ?_, hvalue ?_⟩
    · exact whole_cons.mpr ⟨by decide, whole_cons.mpr ⟨not_cut_ofNat (n + 1), by decide⟩⟩
    · simp [integer?, digits?_ofNat, Int.negSucc_eq]

/-- Texts and line feeds denote their concatenation, in both kinds of columns that hold text. -/
theorem reads_concat (hc : c.type = .enum ∨ c.type = .text) {t : Text}
    (hl : Lexes l ts) (hw : Whole ts) (ht : concat? d ts = some t) :
    Reads (value? d c) (c.canonical (.text t)) l ts where
  lexes := hl
  whole := hw
  value := by
    have hnull : ts ≠ [.key "NULL"] := by
      rintro rfl
      revert ht
      simp [concat?, Token.key]
    rcases hc with hc | hc <;> simp [value?, hnull, hc, ht, Column.canonical]

theorem reads_text (hc : c.type = .text) (t : Text) :
    ∃ ts, Reads (value? d c) (c.canonical (.text t)) (d.text t) ts := by
  have hlines : List.Forall₂ Lexes ((Text.pieces '\n' t).map quote)
      ((Text.pieces '\n' t).map fun p => [.text p]) := by
    rw [List.forall₂_map_left_iff, List.forall₂_map_right_iff, List.forall₂_same]
    exact fun p hp => Lexes.quote (Text.not_mem_piece hp)
  have hconcat := concat?_intercalate d (Text.pieces_ne_nil '\n' t)
  rw [Text.join_pieces] at hconcat
  refine ⟨_, reads_concat (Or.inr hc) (Lexes.join (separates_splice d) hlines) ?_ hconcat⟩
  intro x hx
  rcases mem_intercalate hx with hx | ⟨ts, hts, hx⟩
  · exact whole_splice d x hx
  · obtain ⟨p, -, rfl⟩ := List.mem_map.mp hts
    rw [List.mem_singleton.mp hx]
    simp [cuts, Token.key]

/-- Every literal is read back as its value. -/
theorem exists_literal (hc : ∀ a ∈ c.allowed, '\n' ∉ a) (h : d.literal c v = .ok l) :
    ∃ ts, Reads (value? d c) (c.canonical v) l ts := by
  unfold Dialect.literal at h
  split at h
  · cases h
    exact ⟨_, reads_null d c⟩
  · rename_i hv
    split at h
    · rename_i htype
      cases h
      exact ⟨_, reads_boolean htype hv⟩
    · rename_i htype
      split at h
      · split at h
        · rename_i t ht
          cases h
          refine ⟨_, reads_concat (Or.inl htype) (Lexes.quote (hc t (Text.isIn_iff.mp ht))) ?_ ?_⟩
          · simp [Whole, cuts, Token.key]
          · simp [concat?]
        · cases h
      · cases h
    · rename_i htype
      have hint {n : Int} (h : integer n = .ok l) (hv : c.canonical v = .int n) :
          ∃ ts, Reads (value? d c) (c.canonical v) l ts := by
        unfold integer at h
        split at h
        · cases h
        · cases h
          exact reads_integer htype n hv
      split at h
      · exact hint h (by simp [Column.canonical, htype])
      · exact hint h (by simp [Column.canonical, htype])
      · cases h
    · rename_i htype
      split at h
      · cases h
        exact reads_text htype _
      · cases h

end Sql

end OutlineTables
