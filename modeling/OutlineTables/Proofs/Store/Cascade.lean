import OutlineTables.Proofs.Rows.Moved
import OutlineTables.Proofs.Schema.Order
import OutlineTables.Proofs.Store.Insertion

/-!
Deletion and renaming of a file. In a store whose references all have targets, the rows of a file
follow its row in `files`, and no other row changes.
-/
namespace OutlineTables

namespace Rows

theorem reference_columns : ∀ t ∈ schema.tables, ∀ k ∈ t.foreignKeys,
    k.columns.head? = some "file_path" ∧ k.parentColumns.head? = some "file_path" ∧
      "file_path" ∉ k.columns.tail ∧ "file_path" ∉ k.parentColumns.tail := by
  decide

theorem file_in_key : ∀ t ∈ schema.tables, "file_path" ∈ t.primaryKey := by decide

theorem files_has_no_references : ∀ t ∈ schema.tables, t.name = "files" ↔ t.foreignKeys = [] := by
  decide

end Rows

/-- Whether a row belongs to a file. -/
def Row.isOf (file : Text) (r : Row) : Bool := r.cell "file_path" = .text file

/-- The path is the first column of every reference, so the others stay as they are. -/
theorem Row.key_moved_file {row : Row} {q : Text} (hnull : row.cell "file_path" ≠ .null)
    {columns : List String} (hc : "file_path" ∉ columns) :
    (row.moved q).key ("file_path" :: columns) = .text q :: row.key columns := by
  have hrest : (row.moved q).key columns = row.key columns := by
    apply List.map_congr_left
    intro n hn
    exact Row.cell_moved_other fun he => hc (he ▸ hn)
  have hcons : (row.moved q).key ("file_path" :: columns) =
      (row.moved q).cell "file_path" :: (row.moved q).key columns := rfl
  rw [hcons, Row.cell_moved_file hnull, hrest]

namespace Store

/-- Rows of different files have different keys. -/
theorem keyOf_ne {t : Table} (ht : t ∈ Rows.schema.tables) {row other : Row}
    {path : Text} (hrow : row.isOf path = true) (hother : other.isOf path = false) :
    t.keyOf other ≠ t.keyOf row := by
  intro he
  have hcell := List.map_inj_left.mp he "file_path" (Rows.file_in_key t ht)
  unfold Row.isOf at hrow hother
  rw [hcell] at hother
  rw [hother] at hrow
  cases hrow

/-- References have targets, and rows have each column once. -/
structure Tied (content : String → List Row) : Prop where
  named : ∀ t ∈ Rows.schema.tables, ∀ row ∈ content t.name, (row.map Prod.fst).Nodup
  refers : ∀ t ∈ Rows.schema.tables, ∀ row ∈ content t.name, ∀ k ∈ t.foreignKeys,
    ∃ p ∈ content k.parent, k.meets (row.key k.columns) p = true

/-- A row is of the same file as the rows that it refers to. -/
theorem cell_of_meets {t : Table} (ht : t ∈ Rows.schema.tables) {k : ForeignKey}
    (hk : k ∈ t.foreignKeys) {row p : Row} (h : k.meets (row.key k.columns) p = true) :
    p.cell "file_path" = row.cell "file_path" := by
  obtain ⟨hc, hp, -, -⟩ := Rows.reference_columns t ht k hk
  obtain ⟨cs, hcs⟩ := List.head?_eq_some_iff.mp hc
  obtain ⟨ps, hps⟩ := List.head?_eq_some_iff.mp hp
  simp only [ForeignKey.meets, decide_eq_true_eq] at h
  rw [hcs, hps] at h
  exact (List.cons.inj h.1).1

theorem isOf_of_meets {t : Table} (ht : t ∈ Rows.schema.tables) {k : ForeignKey}
    (hk : k ∈ t.foreignKeys) {row p : Row} (h : k.meets (row.key k.columns) p = true)
    (file : Text) : p.isOf file = row.isOf file := by
  unfold Row.isOf
  rw [cell_of_meets ht hk h]

section Remove

variable {content : String → List Row} {file : Text} {gone : Row → Bool}

/-- A row is dropped exactly if it is of the file. -/
theorem drops_eq (h : Tied content) {removed : List (String × List Row)} {t : Table}
    (ht : t ∈ Rows.schema.tables)
    (hgone : t.name = "files" → ∀ row ∈ content t.name, gone row = row.isOf file)
    (hremoved : ∀ k ∈ t.foreignKeys,
      (removed.lookup k.parent).getD [] = (content k.parent).filter (·.isOf file))
    {row : Row} (hrow : row ∈ content t.name) :
    ((t.name = "files" && gone row) || t.foreignKeys.any fun k =>
      ((removed.lookup k.parent).getD []).any (k.meets (row.key k.columns))) = row.isOf file := by
  by_cases hn : t.name = "files"
  · have hk := (Rows.files_has_no_references t ht).mp hn
    simp [hn, hk, hgone hn row hrow]
  · have hk : t.foreignKeys ≠ [] := fun hk => hn ((Rows.files_has_no_references t ht).mpr hk)
    simp only [hn, decide_false, Bool.false_and, Bool.false_or]
    rw [Bool.eq_iff_iff, List.any_eq_true]
    constructor
    · -- One removed row that it refers to is enough, and that row is of the same file.
      rintro ⟨k, hk, hany⟩
      rw [hremoved k hk] at hany
      obtain ⟨p, hp, hmeets⟩ := List.any_eq_true.mp hany
      rw [← isOf_of_meets ht hk hmeets]
      exact (List.mem_filter.mp hp).2
    · intro hof
      obtain ⟨k, hk⟩ := List.exists_mem_of_ne_nil _ hk
      obtain ⟨p, hp, hmeets⟩ := h.refers t ht row hrow k hk
      refine ⟨k, hk, ?_⟩
      rw [hremoved k hk]
      refine List.any_eq_true.mpr ⟨p, List.mem_filter.mpr ⟨hp, ?_⟩, hmeets⟩
      rw [isOf_of_meets ht hk hmeets]
      exact hof

theorem removeRows_eq (h : Tied content) {seen : List String} {rs : List Relation}
    (hrs : ∀ r ∈ rs, r.table ∈ Rows.schema.tables ∧ r.rows = content r.table.name)
    (hseen : Schema.referenceFault? seen (rs.map (·.table)) = none)
    (hgone : ∀ row ∈ content "files", gone row = row.isOf file)
    (removed : List (String × List Row))
    (hremoved : ∀ n ∈ seen, (removed.lookup n).getD [] = (content n).filter (·.isOf file)) :
    removeRows "files" gone removed rs =
      rs.map fun r => { r with rows := r.rows.filter (!·.isOf file) } := by
  -- Parents come before their children, so the rows that a table refers to are settled already.
  induction rs generalizing seen removed with
  | nil => rfl
  | cons r rs ih =>
    obtain ⟨ht, hrows⟩ := hrs r List.mem_cons_self
    obtain ⟨hparents, hseen'⟩ := Schema.referenceFault?_cons.mp hseen
    have hfiles : r.table.name = "files" → ∀ row ∈ content r.table.name, gone row = row.isOf file :=
      fun hn => hn ▸ hgone
    have hdrops := fun row (hrow : row ∈ r.rows) =>
      drops_eq h ht hfiles (fun k hk => hremoved k.parent (hparents k hk)) (hrows ▸ hrow)
    unfold removeRows
    dsimp only
    rw [List.filter_congr hdrops, List.map_cons]
    have hkept : (r.rows.filter fun row => !((r.table.name = "files" && gone row) ||
        r.table.foreignKeys.any fun k =>
          ((removed.lookup k.parent).getD []).any (k.meets (row.key k.columns)))) =
        r.rows.filter (!·.isOf file) :=
      List.filter_congr fun row hrow => congrArg (!·) (hdrops row hrow)
    rw [hkept, ih (fun a ha => hrs a (List.mem_cons_of_mem _ ha)) hseen']
    exact getD_lookup_cons hremoved (by rw [hrows])

end Remove

/-- The row of a file, under its new path if it is that of the renamed file. -/
def renamed (old new : Text) (row : Row) : Row := if row.isOf old then row.moved new else row

section Change

variable {content : String → List Row} {old new : Text} {change : Row → Row}

theorem renamed_ne (hne : old ≠ new) {row : Row} (h : row.isOf old = true) :
    row ≠ renamed old new row := by
  intro he
  have hcell : row.cell "file_path" = .text old := by simpa [Row.isOf] using h
  have hmoved : (row.moved new).cell "file_path" = .text new :=
    Row.cell_moved_file (by rw [hcell]; simp)
  unfold renamed at he
  rw [if_pos h] at he
  rw [← he, hcell] at hmoved
  exact hne (Cell.text.inj hmoved)

/-- The rows that a renaming changes, with what they become. -/
theorem changed_eq (hne : old ≠ new) (rows : List Row) :
    ((rows.zip (rows.map (renamed old new))).filter fun (a, b) => a ≠ b) =
      (rows.filter (·.isOf old)).map fun row => (row, row.moved new) := by
  induction rows with
  | nil => rfl
  | cons row rows ih =>
    rw [List.map_cons, List.zip_cons_cons]
    by_cases h : row.isOf old = true
    · rw [List.filter_cons_of_pos (by simpa using renamed_ne hne h), ih,
        List.filter_cons_of_pos h, List.map_cons, renamed, if_pos h]
    · rw [List.filter_cons_of_neg (by simp [renamed, h]), ih, List.filter_cons_of_neg h]

theorem cell_of_mem {row : Row} (hn : (row.map Prod.fst).Nodup) {n : String} {c : Cell}
    (h : (n, c) ∈ row) : row.cell n = c := by
  induction row with
  | nil => cases h
  | cons a row ih =>
    obtain ⟨m, x⟩ := a
    rw [List.map_cons, List.nodup_cons] at hn
    unfold Row.cell at ih ⊢
    rcases List.mem_cons.mp h with he | h
    · cases he
      rw [List.lookup_cons_self, Option.getD_some]
    · have hnm : (n == m) = false := by
        have : n ≠ m := fun he => hn.1 (List.mem_map.mpr ⟨(n, c), h, he⟩)
        simpa using this
      rw [List.lookup_cons, hnm]
      exact ih hn.2 h

/-- Cells that set the path and repeat what the row has elsewhere move it. -/
theorem withCells_eq_moved {row : Row} (hn : (row.map Prod.fst).Nodup) {cells : Row}
    (hfile : cells.lookup "file_path" = some (.text new))
    (hother : ∀ n c, (n, c) ∈ cells → n = "file_path" ∨ c = row.cell n) :
    row.withCells cells = row.moved new := by
  unfold Row.moved Row.withCells
  apply List.map_congr_left
  rintro ⟨n, c⟩ hm
  by_cases hf : n = "file_path"
  · subst hf
    simp [hfile]
  · have hf' : (n == "file_path") = false := by simpa using hf
    have hcell := cell_of_mem hn hm
    cases hl : cells.lookup n with
    | none => simp [hl, hf', List.lookup_cons]
    | some x =>
      obtain ⟨before, after, hsplit, -⟩ := List.lookup_eq_some_iff.mp hl
      have hx := hother n x (by rw [hsplit]; exact List.mem_append_right _ List.mem_cons_self)
      simp [hl, hf', List.lookup_cons, hx.resolve_left hf, hcell]

theorem key_moved {t : Table} (ht : t ∈ Rows.schema.tables) {k : ForeignKey}
    (hk : k ∈ t.foreignKeys) {row p : Row} (hm : k.meets (row.key k.columns) p = true) :
    k.columns.zip ((p.moved new).key k.parentColumns) =
      ("file_path", .text new) :: k.columns.tail.map fun n => (n, row.cell n) := by
  obtain ⟨hc, hp, -, hpt⟩ := Rows.reference_columns t ht k hk
  obtain ⟨cs, hcs⟩ := List.head?_eq_some_iff.mp hc
  obtain ⟨ps, hps⟩ := List.head?_eq_some_iff.mp hp
  simp only [ForeignKey.meets, decide_eq_true_eq] at hm
  rw [hcs, hps] at hm
  rw [hps, List.tail_cons] at hpt
  rw [hcs, hps, List.tail_cons]
  obtain ⟨hfile, hrest⟩ := List.cons.inj hm.1
  have hnull : p.cell "file_path" ≠ .null := by
    rw [hfile]
    exact fun h => hm.2 (h ▸ List.mem_cons_self)
  have hmoved : p.key ps = row.key cs := hrest
  rw [Row.key_moved_file hnull hpt, hmoved, List.zip_cons_cons]
  have hzip := List.zip_map' (f := id) (g := row.cell) (l := cs)
  rw [List.map_id] at hzip
  exact congrArg (_ :: ·) hzip

section Inherited

variable {t : Table} {changed : List (String × List (Row × Row))} {row : Row}

/-- A row of the renamed file takes over the new path from each row that it refers to. -/
theorem inherited_eq (h : Tied content) (ht : t ∈ Rows.schema.tables)
    (hchanged : ∀ k ∈ t.foreignKeys, (changed.lookup k.parent).getD [] =
      ((content k.parent).filter (·.isOf old)).map fun row => (row, row.moved new))
    (hrow : row ∈ content t.name) (hof : row.isOf old = true) :
    inherited t changed row = t.foreignKeys.flatMap fun k =>
      ("file_path", .text new) :: k.columns.tail.map fun n => (n, row.cell n) := by
  unfold inherited
  refine List.flatMap_congr fun k hk => ?_
  dsimp only
  rw [hchanged k hk]
  obtain ⟨p, hp, hmeets⟩ := h.refers t ht row hrow k hk
  -- The row found first need not be the target at hand, but it meets the same key.
  have hsome : ((((content k.parent).filter (·.isOf old)).map fun a =>
      (a, a.moved new)).find? fun a => k.meets (row.key k.columns) a.1).isSome = true := by
    rw [List.find?_isSome]
    refine ⟨(p, p.moved new), List.mem_map_of_mem (List.mem_filter.mpr ⟨hp, ?_⟩), hmeets⟩
    rw [isOf_of_meets ht hk hmeets]
    exact hof
  obtain ⟨⟨a, b⟩, hab⟩ := Option.isSome_iff_exists.mp hsome
  have hfound := List.find?_some hab
  obtain ⟨c, -, hc⟩ := List.mem_map.mp (List.mem_of_find?_eq_some hab)
  cases hc
  rw [hab]
  exact key_moved ht hk hfound

/-- A row of another file refers to no row of the renamed one. -/
theorem inherited_eq_nil (ht : t ∈ Rows.schema.tables)
    (hchanged : ∀ k ∈ t.foreignKeys, (changed.lookup k.parent).getD [] =
      ((content k.parent).filter (·.isOf old)).map fun row => (row, row.moved new))
    (hof : ¬row.isOf old = true) : inherited t changed row = [] := by
  unfold inherited
  rw [List.flatMap_eq_nil_iff]
  intro k hk
  dsimp only
  have hfind : ((changed.lookup k.parent).getD []).find? (fun a =>
      k.meets (row.key k.columns) a.1) = none := by
    rw [hchanged k hk, List.find?_eq_none]
    rintro ⟨a, b⟩ hab hmeets
    obtain ⟨p, hp, hpa⟩ := List.mem_map.mp hab
    cases hpa
    apply hof
    rw [← isOf_of_meets ht hk hmeets]
    exact (List.mem_filter.mp hp).2
  rw [hfind]

theorem withCells_inherited (h : Tied content) (ht : t ∈ Rows.schema.tables)
    (hn : t.name ≠ "files")
    (hchanged : ∀ k ∈ t.foreignKeys, (changed.lookup k.parent).getD [] =
      ((content k.parent).filter (·.isOf old)).map fun row => (row, row.moved new))
    (hrow : row ∈ content t.name) :
    row.withCells (inherited t changed row) = renamed old new row := by
  unfold renamed
  by_cases hof : row.isOf old = true
  · have hall := inherited_eq h ht hchanged hrow hof
    rw [if_pos hof]
    apply withCells_eq_moved (h.named t ht row hrow)
    · rw [hall]
      cases hk : t.foreignKeys with
      | nil => exact absurd ((Rows.files_has_no_references t ht).mpr hk) hn
      | cons k ks => rw [List.flatMap_cons, List.cons_append, List.lookup_cons_self]
    · intro n c hm
      rw [hall] at hm
      obtain ⟨k, -, hm⟩ := List.mem_flatMap.mp hm
      rcases List.mem_cons.mp hm with he | hm
      · exact Or.inl (Prod.mk.inj he).1
      · obtain ⟨m, -, he⟩ := List.mem_map.mp hm
        obtain ⟨rfl, rfl⟩ := Prod.mk.inj he
        exact Or.inr rfl
  · rw [if_neg hof, inherited_eq_nil ht hchanged hof]
    unfold Row.withCells
    simp

end Inherited

/-- Only `files` changes by itself; the rows of all other tables follow what they refer to. -/
theorem adapted_eq (h : Tied content) {t : Table} (ht : t ∈ Rows.schema.tables)
    (hchange : ∀ row ∈ content "files", change row = renamed old new row)
    {changed : List (String × List (Row × Row))}
    (hchanged : ∀ k ∈ t.foreignKeys, (changed.lookup k.parent).getD [] =
      ((content k.parent).filter (·.isOf old)).map fun row => (row, row.moved new)) :
    ((content t.name).map fun row =>
      (if t.name = "files" then change row else row).withCells (inherited t changed row)) =
        (content t.name).map (renamed old new) := by
  apply List.map_congr_left
  intro row hrow
  by_cases hn : t.name = "files"
  · have hk := (Rows.files_has_no_references t ht).mp hn
    rw [if_pos hn, hchange row (hn ▸ hrow)]
    simp [inherited, hk, Row.withCells]
  · rw [if_neg hn]
    exact withCells_inherited h ht hn hchanged hrow

/-- A renaming succeeds exactly if it leaves all keys different. -/
theorem changeRows_eq_ok (h : Tied content) (hne : old ≠ new) {seen : List String}
    {rs rs' : List Relation}
    (hrs : ∀ r ∈ rs, r.table ∈ Rows.schema.tables ∧ r.rows = content r.table.name)
    (hseen : Schema.referenceFault? seen (rs.map (·.table)) = none)
    (hchange : ∀ row ∈ content "files", change row = renamed old new row)
    {changed : List (String × List (Row × Row))}
    (hchanged : ∀ n ∈ seen, (changed.lookup n).getD [] =
      ((content n).filter (·.isOf old)).map fun row => (row, row.moved new)) :
    changeRows "files" change changed rs = .ok rs' ↔
      (∀ r ∈ rs, ((r.rows.map (renamed old new)).map r.table.keyOf).Nodup) ∧
        rs' = rs.map fun r => { r with rows := r.rows.map (renamed old new) } := by
  induction rs generalizing seen changed rs' with
  | nil =>
    unfold changeRows
    simp [eq_comm]
  | cons r rs ih =>
    obtain ⟨ht, hrows⟩ := hrs r List.mem_cons_self
    obtain ⟨hparents, hseen'⟩ := Schema.referenceFault?_cons.mp hseen
    have hadapted := adapted_eq h ht hchange fun k hk => hchanged k.parent (hparents k hk)
    rw [← hrows] at hadapted
    have hone : ((r.rows.zip (r.rows.map (renamed old new))).filter fun (a, b) => a ≠ b) =
        ((content r.table.name).filter (·.isOf old)).map fun row => (row, row.moved new) := by
      rw [changed_eq hne, hrows]
    have hrest := fun rest => @ih _ rest (fun a ha => hrs a (List.mem_cons_of_mem _ ha)) hseen'
      _ (getD_lookup_cons hchanged hone)
    unfold changeRows
    dsimp only
    rw [hadapted, List.forall_mem_cons]
    split
    · rename_i hunique
      rw [bind_eq_ok]
      constructor
      · rintro ⟨rest, hok, he⟩
        obtain ⟨hall, rfl⟩ := (hrest rest).mp hok
        cases he
        exact ⟨⟨hunique, hall⟩, rfl⟩
      · rintro ⟨⟨-, hall⟩, rfl⟩
        exact ⟨_, (hrest _).mpr ⟨hall, rfl⟩, rfl⟩
    · rename_i hunique
      constructor
      · intro he
        cases he
      · rintro ⟨⟨hone, -⟩, -⟩
        exact absurd hone hunique

end Change

theorem agrees_file (file : Text) (row : Row) :
    row.agrees (Rows.filesTable.cells [("file_path", .text file)]) = row.isOf file := by
  have hcells : Rows.filesTable.cells [("file_path", .text file)] = [("file_path", .text file)] :=
    rfl
  rw [hcells]
  simp [Row.agrees, Row.isOf]

section File

variable {s s' : Store}

theorem referenceFault?_of_fits (hs : s.Fits Rows.schema) :
    Schema.referenceFault? [] (s.relations.map (·.table)) = none := by
  rw [hs]
  exact Rows.schema_rule

/-- Deleting a file deletes its rows in all tables, and no others. -/
theorem delete_file (hs : s.Fits Rows.schema) (h : Tied s.rows) {file : Text}
    (hok : s.delete "files" [("file_path", .text file)] = .ok s') :
    s'.Fits Rows.schema ∧ ∀ n, s'.rows n = (s.rows n).filter (!·.isOf file) := by
  have hfiles : Rows.filesTable ∈ Rows.schema.tables := List.mem_cons_self
  have hr := relation?_of_fits hs Rows.nodup_schema hfiles
  have hremoved := removeRows_eq h (fun r hr => rows_of_mem hs Rows.nodup_schema hr)
    (referenceFault?_of_fits hs) (fun row _ => agrees_file file row) []
    (fun n hn => absurd hn List.not_mem_nil)
  unfold delete at hok
  rw [show "files" = Rows.filesTable.name from rfl, hr] at hok
  cases hok
  dsimp only
  rw [show Rows.filesTable.name = "files" from rfl, hremoved]
  constructor
  · unfold Fits
    rw [List.map_map]
    exact hs
  · intro n
    exact rows_map s (g := List.filter (!Row.isOf file ·)) rfl n

/-- Renaming a file renames it in its rows in all tables, and changes nothing else. It succeeds
exactly if it leaves all keys different. -/
theorem rename_file_eq_ok (hs : s.Fits Rows.schema) (h : Tied s.rows) {old new : Text}
    (hne : old ≠ new) :
    s.update "files" [("file_path", .text new)] [("file_path", .text old)] = .ok s' ↔
      (∀ r ∈ s.relations, ((r.rows.map (renamed old new)).map r.table.keyOf).Nodup) ∧
        s' = ⟨s.relations.map fun r => { r with rows := r.rows.map (renamed old new) }⟩ := by
  have hfiles : Rows.filesTable ∈ Rows.schema.tables := List.mem_cons_self
  have hr := relation?_of_fits hs Rows.nodup_schema hfiles
  have hchange (row : Row) : (if row.agrees (Rows.filesTable.cells [("file_path", .text old)]) then
      row.withCells (Rows.filesTable.cells [("file_path", .text new)]) else row) =
        renamed old new row := by
    rw [agrees_file]
    rfl
  have hchanged (rs : List Relation) := @changeRows_eq_ok s.rows old new _ h hne [] s.relations rs
    (fun r hr => rows_of_mem hs Rows.nodup_schema hr) (referenceFault?_of_fits hs)
    (fun row _ => hchange row) [] fun n hn => absurd hn List.not_mem_nil
  unfold update
  rw [show "files" = Rows.filesTable.name from rfl, hr, map_eq_ok]
  constructor
  · rintro ⟨rs, hok, rfl⟩
    obtain ⟨hall, rfl⟩ := (hchanged rs).mp hok
    exact ⟨hall, rfl⟩
  · rintro ⟨hall, rfl⟩
    exact ⟨_, (hchanged _).mpr ⟨hall, rfl⟩, rfl⟩

theorem rename_file (hs : s.Fits Rows.schema) (h : Tied s.rows) {old new : Text} (hne : old ≠ new)
    (hok : s.update "files" [("file_path", .text new)] [("file_path", .text old)] = .ok s') :
    s'.Fits Rows.schema ∧ ∀ n, s'.rows n = (s.rows n).map (renamed old new) := by
  obtain ⟨-, rfl⟩ := (rename_file_eq_ok hs h hne).mp hok
  constructor
  · unfold Fits
    rw [List.map_map]
    exact hs
  · intro n
    exact rows_map s (g := List.map (renamed old new)) rfl n

end File

end Store

end OutlineTables
