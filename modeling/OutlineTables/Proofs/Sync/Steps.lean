import OutlineTables.Proofs.Sync.Contents
import OutlineTables.Proofs.Sync.Partition

/-!
The rounds of a sync. Deletions, renames and insertions, each performed file by file, turn a store
that mirrors some files into one that mirrors others.
-/
namespace OutlineTables

open Rows (schema)

theorem Store.performAll_append {d : Dialect} {c : Schema} {s s' : Store} {xs ys : List Statement} :
    s.performAll d c (xs ++ ys) = .ok s' ↔
      ∃ a, s.performAll d c xs = .ok a ∧ a.performAll d c ys = .ok s' := by
  unfold Store.performAll
  rw [List.foldlM_append, bind_eq_ok]

theorem Store.performAll_cons {d : Dialect} {c : Schema} {s s' : Store} {x : Statement}
    {xs : List Statement} : s.performAll d c (x :: xs) = .ok s' ↔
      ∃ a, (x.fault? d c = none ∧ s.exec x = .ok a) ∧ a.performAll d c xs = .ok s' := by
  unfold Store.performAll
  rw [List.foldlM_cons, bind_eq_ok]
  simp only [Store.perform_eq_ok]

theorem Store.performAll_append_of_ok {d : Dialect} {c : Schema} {s a : Store}
    {xs : List Statement} (h : s.performAll d c xs = .ok a) (ys : List Statement) :
    s.performAll d c (xs ++ ys) = a.performAll d c ys := by
  unfold Store.performAll at h ⊢
  rw [List.foldlM_append, h]
  rfl

namespace Mapping

variable {m : Mapping} {s s' : Store} {files : List (Text × Encoding.Bytes)}

theorem Mirrors.deletions {gone : List (Text × Encoding.Bytes)} (h : m.Mirrors s (gone ++ files))
    (hok : s.performAll m.dialect schema
      (gone.map fun f => .delete "files" (Report.pathRecord (some f.1))) = .ok s') :
    m.Mirrors s' files := by
  induction gone generalizing s with
  | nil =>
    cases hok
    exact h
  | cons f gone ih =>
    obtain ⟨a, ⟨-, ha⟩, hok⟩ := Store.performAll_cons.mp hok
    exact ih (h.delete ha) hok

/-- A file that moves: its old path, its new one and its contents. -/
structure Move where
  old : Text
  new : Text
  bytes : Encoding.Bytes

def Move.source (x : Move) : Text × Encoding.Bytes := (x.old, x.bytes)

def Move.target (x : Move) : Text × Encoding.Bytes := (x.new, x.bytes)

/-- One round of renames, if no new path is the path of another file before or after. -/
theorem Mirrors.renames {moves : List Move} (h : m.Mirrors s (moves.map Move.source ++ files))
    (hn : (moves.map Move.old ++ (moves.map Move.new ++ files.map Prod.fst)).Nodup)
    (hok : s.performAll m.dialect schema
      (moves.map fun x => Report.rename (some x.old) (some x.new)) = .ok s') :
    m.Mirrors s' (moves.map Move.target ++ files) := by
  induction moves generalizing s files with
  | nil =>
    cases hok
    exact h
  | cons x moves ih =>
    obtain ⟨a, ⟨hf, ha⟩, hok⟩ := Store.performAll_cons.mp hok
    rw [List.map_cons, List.map_cons, List.cons_append, List.cons_append] at hn
    have hn' := (List.perm_middle.nodup_iff.mp (List.nodup_cons.mp hn).2)
    rw [List.nodup_cons] at hn hn'
    have hne : x.old ≠ x.new := by
      intro he
      apply hn.1
      rw [he]
      exact List.mem_append_right _ List.mem_cons_self
    have hfree : x.new ∉ (moves.map Move.source ++ files).map Prod.fst := by
      rw [List.map_append, List.map_map]
      intro hm
      apply hn'.1
      rcases List.mem_append.mp hm with hm | hm
      · exact List.mem_append_left _ hm
      · exact List.mem_append_right _ (List.mem_append_right _ hm)
    have hstep := h.rename hne hfree (Sql.writes_of_rename hf) ha
    -- For the renames that follow, the renamed file is one of those that stay.
    have hperm : (moves.map Move.source ++ x.target :: files).Perm
        (x.target :: (moves.map Move.source ++ files)) := List.perm_middle
    have hrest := ih (hstep.perm hperm) ?_ hok
    · exact hrest.perm (List.perm_middle.symm)
    · have hmiddle : (moves.map Move.old ++ (moves.map Move.new ++ (x.new :: files.map Prod.fst))).Perm
          (x.new :: (moves.map Move.old ++ (moves.map Move.new ++ files.map Prod.fst))) :=
        (List.perm_middle.append_left _).trans List.perm_middle
      exact hmiddle.nodup_iff.mpr (List.nodup_cons.mpr hn')

/-- The rows that are read from contents, apart from whether they can be inserted. -/
def Reads (m : Mapping) (f : Text × Encoding.Bytes) (r : Rows) : Prop :=
  (∃ text, Encoding.readText f.2 = .ok text ∧
    Rows.ofOutline m.options (Outline.read m.options text) f.1 (Md5.digest f.2)
      (some f.2.length) = .ok r) ∧
    ∀ x ∈ Statement.inserts schema r.records, ∃ text, x.toSql m.dialect schema = .ok text

/-- The path of a mirrored file is a key of `files`. -/
theorem Mirrors.mem_keys {path : Text} (h : m.Mirrors s files) (hp : path ∈ files.map Prod.fst) :
    [Cell.text path] ∈ (s.rows "files").map Rows.filesTable.keyOf := by
  have hfiles : Rows.filesTable ∈ schema.tables := List.mem_cons_self
  obtain ⟨f, hf, rfl⟩ := List.mem_map.mp hp
  obtain ⟨rs, hrs, hrows⟩ := h.content
  obtain ⟨r, hr, hholds⟩ := exists_right_of_mem hrs hf
  obtain ⟨row, hrow⟩ : ∃ row, row ∈ r.content Rows.filesTable :=
    ⟨_, hholds.content_files ▸ List.mem_cons_self⟩
  refine List.mem_map.mpr ⟨row, ?_, congrArg (fun c => [c]) (hholds.cell hfiles hrow)⟩
  exact (hrows _ hfiles).mem_iff.mpr (List.mem_flatMap.mpr ⟨r, hr, hrow⟩)

/-- A file that is mirrored already is refused with its first row. -/
theorem Mirrors.refuses {path : Text} {bytes : Encoding.Bytes} {r : Rows} (h : m.Mirrors s files)
    (hp : path ∈ files.map Prod.fst) (hr : m.Holds path bytes r) (xs : List Statement) :
    s.performAll m.dialect schema (Statement.inserts schema r.records ++ xs) =
      .error (.notUnique "files" ["file_path"]) := by
  have hfiles : Rows.filesTable ∈ schema.tables := List.mem_cons_self
  obtain ⟨text, -, hread⟩ := hr.read
  have hrecords : (r.records.lookup Rows.filesTable.name).getD [] = r.files.map (·.record) := rfl
  rw [Rows.files_ofOutline hread, List.map_singleton] at hrecords
  obtain ⟨values, rest, hsplit⟩ : ∃ values rest,
      Placed.ofRecords schema.tables r.records = ⟨Rows.filesTable, values⟩ :: rest := by
    have htables : schema.tables = Rows.filesTable :: schema.tables.tail := rfl
    unfold Placed.ofRecords
    rw [htables, List.flatMap_cons, hrecords]
    exact ⟨_, _, rfl⟩
  have hmem : ⟨Rows.filesTable, values⟩ ∈ Placed.ofRecords schema.tables r.records :=
    hsplit ▸ List.mem_cons_self
  have hrow : Rows.filesTable.row values ∈ r.content Rows.filesTable :=
    List.mem_map_of_mem (Placed.mem_ofRecords.mp hmem).2
  have hinsert : s.insert Rows.filesTable.name values =
      .error (.notUnique "files" ["file_path"]) := by
    cases hresult : s.insert Rows.filesTable.name values with
    | error f =>
      obtain ⟨rfl, -⟩ := Store.insert_eq_error h.fits Rows.nodup_schema hfiles
        (hr.filled _ hfiles _ hrow) (fun k hk => absurd hk List.not_mem_nil) hresult
      rfl
    | ok a =>
      have haccepts :=
        (Store.insert_isOk_iff h.fits Rows.nodup_schema hfiles values).mp ⟨a, hresult⟩
      refine absurd (h.mem_keys hp) ?_
      rw [← hr.cell hfiles hrow]
      exact haccepts.unique
  rw [Placed.inserts_eq, hsplit, List.map_cons, List.cons_append]
  unfold Store.performAll Store.perform
  rw [List.foldlM_cons, (hr.written _ hmem).2]
  dsimp only
  rw [show s.exec (Placed.mk Rows.filesTable values).statement = _ from hinsert]
  rfl

/-- Files whose insertion succeeds are mirrored then, and none of them was before. -/
theorem Mirrors.insertions {new : List (Text × Encoding.Bytes)} {rs : List Rows}
    (h : m.Mirrors s files) (hrs : List.Forall₂ m.Reads new rs)
    (hok : s.performAll m.dialect schema
      (rs.flatMap fun r => Statement.inserts schema r.records) = .ok s') :
    m.Mirrors s' (new ++ files) ∧ List.Forall₂ (fun f r => m.Holds f.1 f.2 r) new rs := by
  induction hrs generalizing s files with
  | nil =>
    cases hok
    exact ⟨h, List.Forall₂.nil⟩
  | @cons f r new rs hf _ ih =>
    obtain ⟨a, ha, hrest⟩ := Store.performAll_append.mp hok
    have hholds : m.Holds f.1 f.2 r := h.holds_of_insert hf.1 hf.2 ha
    have hfree : f.1 ∉ files.map Prod.fst := by
      intro hm
      rw [List.flatMap_cons, h.refuses hm hholds] at hok
      cases hok
    obtain ⟨hmirrors, hall⟩ := ih (h.insert hfree hholds (Store.performAll_eq_ok.mp ha).2) hrest
    exact ⟨hmirrors.perm List.perm_middle.symm, List.Forall₂.cons hholds hall⟩

/-- Files whose rows can be inserted one by one can be inserted together. -/
theorem Mirrors.exists_insertions {new : List (Text × Encoding.Bytes)} {rs : List Rows}
    (h : m.Mirrors s files) (hn : (new.map Prod.fst ++ files.map Prod.fst).Nodup)
    (hrs : List.Forall₂ (fun f r => m.Holds f.1 f.2 r) new rs) :
    ∃ s', s.performAll m.dialect schema
      (rs.flatMap fun r => Statement.inserts schema r.records) = .ok s' := by
  induction hrs generalizing s files with
  | nil => exact ⟨s, rfl⟩
  | @cons f r new rs hf _ ih =>
    rw [List.map_cons, List.cons_append, List.nodup_cons] at hn
    have hfree : f.1 ∉ files.map Prod.fst := fun hm => hn.1 (List.mem_append_right _ hm)
    obtain ⟨a, ha⟩ := h.exists_insert hfree hf
    have hstep := h.insert hfree hf ha
    obtain ⟨s', hs'⟩ := ih hstep (List.perm_middle.nodup_iff.mpr (List.nodup_cons.mpr hn))
    refine ⟨s', Store.performAll_append.mpr ⟨a, Store.performAll_eq_ok.mpr ⟨?_, ha⟩, hs'⟩⟩
    intro x hx
    have hx : x ∈ Statement.inserts schema r.records := hx
    rw [Placed.inserts_eq] at hx
    obtain ⟨p, hp, rfl⟩ := List.mem_map.mp hx
    exact (hf.written p hp).2

/-- If a path comes twice, its second file is refused. -/
theorem Mirrors.insertions_twice {new : List (Text × Encoding.Bytes)} {rs : List Rows}
    (h : m.Mirrors s files) (hn : ¬(new.map Prod.fst ++ files.map Prod.fst).Nodup)
    (hrs : List.Forall₂ (fun f r => m.Holds f.1 f.2 r) new rs) :
    s.performAll m.dialect schema (rs.flatMap fun r => Statement.inserts schema r.records) =
      .error (.notUnique "files" ["file_path"]) := by
  induction hrs generalizing s files with
  | nil => exact absurd h.nodup hn
  | @cons f r new rs hf _ ih =>
    rw [List.flatMap_cons]
    by_cases hm : f.1 ∈ files.map Prod.fst
    · exact h.refuses hm hf _
    · have hone : ([f].map Prod.fst ++ files.map Prod.fst).Nodup :=
        List.nodup_cons.mpr ⟨hm, h.nodup⟩
      obtain ⟨a, ha⟩ := h.exists_insertions hone (List.Forall₂.cons hf List.Forall₂.nil)
      rw [List.flatMap_singleton] at ha
      have hstep := h.insert hm hf (Store.performAll_eq_ok.mp ha).2
      rw [Store.performAll_append_of_ok ha]
      refine ih hstep fun hnodup => hn ?_
      exact List.perm_middle.nodup_iff.mp hnodup

end Mapping

end OutlineTables
