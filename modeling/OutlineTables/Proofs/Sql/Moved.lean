import OutlineTables.Proofs.Rows.Moved
import OutlineTables.Proofs.Sql.Parts
import OutlineTables.Sync.Plan

/-!
Insertions of moved rows. A path that a store lets a file be renamed to can be inserted with every
row of the file.
-/
namespace OutlineTables

namespace Text

theorem mem_join {sep : Text} {ps : List Text} {c : Char} (h : c ∈ join sep ps) :
    c ∈ sep ∨ ∃ p ∈ ps, c ∈ p := by
  induction ps with
  | nil => cases h
  | cons p ps ih =>
    cases ps with
    | nil => exact Or.inr ⟨p, List.mem_cons_self, h⟩
    | cons q ps =>
      rw [join, List.append_assoc, List.mem_append, List.mem_append] at h
      rcases h with h | h | h
      · exact Or.inr ⟨p, List.mem_cons_self, h⟩
      · exact Or.inl h
      · rcases ih h with h | ⟨r, hr, h⟩
        · exact Or.inl h
        · exact Or.inr ⟨r, List.mem_cons_of_mem _ hr, h⟩

theorem mem_join_of_mem {sep : Text} {ps : List Text} {p : Text} (hp : p ∈ ps) {c : Char}
    (h : c ∈ p) : c ∈ join sep ps := by
  induction ps with
  | nil => cases hp
  | cons q ps ih =>
    cases ps with
    | nil =>
      rw [List.mem_singleton.mp hp] at h
      exact h
    | cons r ps =>
      rw [join, List.append_assoc, List.mem_append, List.mem_append]
      rcases List.mem_cons.mp hp with rfl | hp
      · exact Or.inl h
      · exact Or.inr (Or.inr (ih hp))

end Text

theorem Record.depth_le_iff {values : Record} {n : Nat} :
    values.depth ≤ n ↔ ∀ a ∈ values, a.2.literalDepth ≤ n := by
  unfold Record.depth
  induction values with
  | nil => simp
  | cons a values ih =>
    rw [List.map_cons, List.foldr_cons, Nat.max_le, ih, List.forall_mem_cons]

theorem Record.map_fst_moved (q : Text) (values : Record) :
    (values.moved q).map (·.1) = values.map (·.1) := by
  unfold Record.moved
  rw [List.map_map]
  rfl

theorem Record.depth_moved {values : Record} {q : Text} {n : Nat} (h : values.depth ≤ n)
    (hq : (Value.text q).literalDepth ≤ n) : (values.moved q).depth ≤ n := by
  rw [Record.depth_le_iff] at h ⊢
  intro a ha
  obtain ⟨b, hb, rfl⟩ := List.mem_map.mp ha
  dsimp only
  split
  · exact hq
  · exact h b hb

/-- The null character. -/
def nul : Char := Char.ofNat 0

theorem Statement.fault?_eq_none {d : Dialect} {s : Schema} {x : Statement} {text : Text}
    (h : x.toSql d s = .ok text) :
    x.fault? d s = none ↔ nul ∉ text ∧ x.depth ≤ StoreFault.maxDepth := by
  unfold Statement.fault?
  rw [h]
  dsimp only
  have hany : text.any (· = Char.ofNat 0) = true ↔ nul ∈ text := by
    simp [nul]
  by_cases hn : nul ∈ text
  · simp [hany.mpr hn, hn]
  · rw [if_neg (fun h => hn (hany.mp h))]
    by_cases hd : StoreFault.maxDepth < x.depth
    · simp [hd]
    · simp [hd, hn, Nat.not_lt.mp hd]

/-- A path that can stand in the text of a statement. -/
structure Dialect.Writes (d : Dialect) (q : Text) : Prop where
  noNul : nul ∉ d.text q
  shallow : (Value.text q).literalDepth ≤ StoreFault.maxDepth

namespace Sql

theorem mem_parenthesized {ts : List Text} {c : Char} (h : c ∈ parenthesized ts) :
    c ∈ ['(', ',', ')'] ∨ ∃ t ∈ ts, c ∈ t := by
  unfold parenthesized commaSeparated at h
  rw [List.cons_append, List.mem_cons, List.mem_append, List.mem_singleton] at h
  rcases h with rfl | h | rfl
  · exact Or.inl List.mem_cons_self
  · rcases Text.mem_join h with h | h
    · cases List.mem_singleton.mp h
      exact Or.inl (List.mem_cons_of_mem _ List.mem_cons_self)
    · exact Or.inr h
  · exact Or.inl (List.mem_cons_of_mem _ (List.mem_cons_of_mem _ List.mem_cons_self))

/-- A field of a moved row. -/
def movedField (q : Text) (f : Column × Value) : Column × Value :=
  (f.1, if f.1.name = "file_path" then .text q else f.2)

/-- The literals of a moved row are those of the row, but for its path. -/
theorem literals_moved {d : Dialect} {fs : List (Column × Value)} {literals : List Text}
    (hfile : ∀ f ∈ fs, f.1.name = "file_path" → f.1.type = .text)
    (h : List.Forall₂ (fun f literal => d.literal f.1 f.2 = .ok literal) fs literals) (q : Text) :
    ∃ literals', List.Forall₂ (fun f literal => d.literal f.1 f.2 = .ok literal)
      (fs.map (movedField q)) literals' ∧
      ∀ literal ∈ literals', literal = d.text q ∨ literal ∈ literals := by
  induction h with
  | nil => exact ⟨[], List.Forall₂.nil, fun _ h => absurd h List.not_mem_nil⟩
  | @cons f literal fs literals hf _ ih =>
    obtain ⟨rest, hrest, hmem⟩ := ih fun g hg => hfile g (List.mem_cons_of_mem _ hg)
    have hmem' : ∀ l ∈ rest, l = d.text q ∨ l ∈ literal :: literals := fun l hl =>
      (hmem l hl).imp_right (List.mem_cons_of_mem _)
    by_cases hn : f.1.name = "file_path"
    · refine ⟨d.text q :: rest, List.Forall₂.cons ?_ hrest, ?_⟩
      · have htype := hfile f List.mem_cons_self hn
        simp [movedField, hn, Dialect.literal, htype]
      · intro l hl
        rcases List.mem_cons.mp hl with rfl | hl
        · exact Or.inl rfl
        · exact hmem' l hl
    · refine ⟨literal :: rest, List.Forall₂.cons ?_ hrest, ?_⟩
      · simpa [movedField, hn] using hf
      · intro l hl
        rcases List.mem_cons.mp hl with rfl | hl
        · exact Or.inr List.mem_cons_self
        · exact hmem' l hl

theorem fields_moved {t : Table} {values : Record} {fs : List (Column × Value)}
    (h : fields t values = .ok fs) (q : Text) :
    fields t (values.moved q) = .ok (fs.map (movedField q)) := by
  rw [fields_eq_ok] at h ⊢
  rw [Record.map_fst_moved]
  refine ⟨h.1, ?_⟩
  rw [h.2, List.map_map]
  apply List.map_congr_left
  intro c hc
  obtain ⟨-, hc⟩ := List.mem_filter.mp hc
  rw [decide_eq_true_eq] at hc
  obtain ⟨v, hv⟩ : ∃ v, values.lookup c.name = some v := by
    rw [← Option.ne_none_iff_exists', Ne, List.lookup_eq_none_iff]
    intro hall
    obtain ⟨a, ha, hn⟩ := List.mem_map.mp hc
    simpa [hn] using hall a ha
  dsimp only [Function.comp_apply]
  rw [Record.lookup_moved, hv]
  rfl

theorem insertText_moved {t : Table} {fs : List (Column × Value)} {literals literals' : List Text}
    {q text : Text} (hq : nul ∉ text)
    (hmem : ∀ literal ∈ literals', literal = text ∨ literal ∈ literals)
    (h : nul ∉ insertText t fs literals) : nul ∉ insertText t (fs.map (movedField q)) literals' := by
  have hnames : (fs.map (movedField q)).map (·.1.name.toList) = fs.map (·.1.name.toList) := by
    rw [List.map_map]
    rfl
  unfold insertText at h ⊢
  rw [hnames]
  simp only [List.mem_append, List.mem_cons, not_or] at h ⊢
  obtain ⟨⟨⟨⟨htable, hspace, hnamed⟩, hvalues⟩, hliterals⟩, hend⟩ := h
  refine ⟨⟨⟨⟨htable, hspace, hnamed⟩, hvalues⟩, ?_⟩, hend⟩
  intro hc
  rcases mem_parenthesized hc with hc | ⟨literal, hl, hc⟩
  · revert hc
    decide
  · rcases hmem literal hl with rfl | hl
    · exact hq hc
    · apply hliterals
      unfold parenthesized commaSeparated
      rw [List.cons_append, List.mem_cons, List.mem_append]
      exact Or.inr (Or.inl (Text.mem_join_of_mem hl hc))

/-- What a store takes as the insertion of a row, it takes as that of the moved row. -/
theorem insert_moved {d : Dialect} {t : Table} {values : Record} {text q : Text}
    (h : (Statement.insert t.name values).toSql d Rows.schema = .ok text)
    (hf : (Statement.insert t.name values).fault? d Rows.schema = none) (hq : d.Writes q) :
    ∃ text', (Statement.insert t.name (values.moved q)).toSql d Rows.schema = .ok text' ∧
      (Statement.insert t.name (values.moved q)).fault? d Rows.schema = none := by
  obtain ⟨t', fs, literals, ht, hv, hfs, hl, htext⟩ := insert_eq_ok.mp h
  have hfile : ∀ f ∈ fs, f.1.name = "file_path" → f.1.type = .text := by
    intro f hm hn
    rw [(fields_eq_ok.mp hfs).2] at hm
    obtain ⟨c, hc, rfl⟩ := List.mem_map.mp hm
    exact Rows.file_column t' (Schema.table_eq_ok ht).1 c (List.mem_filter.mp hc).1 hn
  obtain ⟨literals', hl', hmem⟩ := literals_moved hfile hl q
  have hmoved : (Statement.insert t.name (values.moved q)).toSql d Rows.schema =
      .ok (insertText t' (fs.map (movedField q)) literals') := by
    refine insert_eq_ok.mpr ⟨t', _, literals', ht, ?_, fields_moved hfs q, hl', rfl⟩
    unfold Record.moved
    simpa using hv
  refine ⟨_, hmoved, (Statement.fault?_eq_none hmoved).mpr ?_⟩
  obtain ⟨hnul, hdepth⟩ := (Statement.fault?_eq_none h).mp hf
  rw [htext] at hnul
  exact ⟨insertText_moved hq.noNul hmem hnul, Record.depth_moved hdepth hq.shallow⟩

/-- A path that a file is renamed to can be written. -/
theorem writes_of_rename {d : Dialect} {p q : Text}
    (h : (Report.rename (some p) (some q)).fault? d Rows.schema = none) : d.Writes q := by
  have htext : (Report.rename (some p) (some q)).toSql d Rows.schema = .ok ("UPDATE ".toList ++
      "files".toList ++ " SET ".toList ++ ("file_path".toList ++ '=' :: d.text q) ++
        (" WHERE ".toList ++ ("file_path".toList ++ '=' :: d.text p)) ++ [';']) := rfl
  obtain ⟨hnul, hdepth⟩ := (Statement.fault?_eq_none htext).mp h
  constructor
  · intro hq
    apply hnul
    simp [hq]
  · have hle : (Value.text q).literalDepth ≤ (Report.rename (some p) (some q)).depth := by
      have : Record.depth [("file_path", .text q)] = (Value.text q).literalDepth := by
        simp [Record.depth]
      exact this ▸ Nat.le_max_left _ _
    exact Nat.le_trans hle hdepth

end Sql

end OutlineTables
