import OutlineTables.Proofs.Rows.Lists
import OutlineTables.Proofs.Rows.Targets

/-!
Rows under another path. The path of a file is in each of its rows and changes nothing else there.
-/
namespace OutlineTables

namespace Rows

/-- The same rows for another file. -/
def moved (q : Text) (r : Rows) : Rows where
  files := r.files.map ({ · with path := q })
  headings := r.headings.map ({ · with file := q })
  closures := r.closures.map ({ · with file := q })
  stamps := r.stamps.map ({ · with file := q })
  planning := r.planning.map ({ · with file := q })
  fileTags := r.fileTags.map ({ · with file := q })
  headingTags := r.headingTags.map ({ · with file := q })
  properties := r.properties.map ({ · with file := q })
  fileProperties := r.fileProperties.map ({ · with file := q })
  headingProperties := r.headingProperties.map ({ · with file := q })
  links := r.links.map ({ · with file := q })
  clocks := r.clocks.map ({ · with file := q })
  notes := r.notes.map ({ · with file := q })
  states := r.states.map ({ · with file := q })
  planningChanges := r.planningChanges.map ({ · with file := q })

theorem moved_append (q : Text) (a b : Rows) :
    (a.append b).moved q = (a.moved q).append (b.moved q) := by
  simp only [moved, append, List.map_append]

theorem moved_concat (q : Text) (rs : List Rows) :
    (concat rs).moved q = concat (rs.map (moved q)) := by
  induction rs with
  | nil => rfl
  | cons r rs ih =>
    have h : concat (r :: rs) = r.append (concat rs) := rfl
    have h' : concat ((r :: rs).map (moved q)) =
      (r.moved q).append (concat (rs.map (moved q))) := rfl
    rw [h, h', moved_append, ih]

def Scope.moved (q : Text) (s : Scope) : Scope := { s with file := q }

section Heading

variable (q : Text) (s : Scope) (h : Heading)

theorem ofProperty_moved (p : Property) (link : Rows) :
    ofProperty (s.moved q) p (link.moved q) = (ofProperty s p link).moved q := by
  unfold ofProperty
  by_cases hc : s.options.excludedProperties.covers p.key = true
  · have hq : (s.moved q).options.excludedProperties.covers p.key = true := hc
    rw [if_pos hq, if_pos hc]
    rfl
  · have hq : ¬(s.moved q).options.excludedProperties.covers p.key = true := hc
    rw [if_neg hq, if_neg hc, moved_append]
    rfl

theorem headingRow_moved :
    headingRow (s.moved q) h = (headingRow s h).map ({ · with file := q }) := by
  unfold headingRow
  split
  · cases Duration.minutes ‹_› <;> rfl
  · rfl

theorem ofAncestors_moved (above : List Heading) :
    ofAncestors (s.moved q) h above = (ofAncestors s h above).map ({ · with file := q }) := by
  simp only [ofAncestors, List.map_map]
  rfl

theorem ofTags_moved (above : List Heading) :
    ofTags (s.moved q) h above = (ofTags s h above).map ({ · with file := q }) := by
  unfold ofTags
  rw [List.map_filterMap]
  apply List.filterMap_congr
  rintro ⟨tag, isInherited⟩ -
  dsimp only
  by_cases hc : s.options.excludedTags.covers tag = true
  · have hq : (s.moved q).options.excludedTags.covers tag = true := hc
    rw [if_pos hq, if_pos hc]
    rfl
  · have hq : ¬(s.moved q).options.excludedTags.covers tag = true := hc
    rw [if_neg hq, if_neg hc]
    rfl

theorem ofPlanning_moved (p : Planning) :
    ofPlanning (s.moved q) h p = (ofPlanning s h p).map (moved q) := by
  unfold ofPlanning
  by_cases hc : s.options.excludedPlanning.covers p.kind = true
  · have hq : (s.moved q).options.excludedPlanning.covers p.kind = true := hc
    rw [if_pos hq, if_pos hc]
    rfl
  · have hq : ¬(s.moved q).options.excludedPlanning.covers p.kind = true := hc
    rw [if_neg hq, if_neg hc]
    rcases Stamp.decode? p.stamp.text with e | _ | st <;> rfl

theorem ofBodyStamp_moved (e : Excerpt) :
    ofBodyStamp (s.moved q) h e = (ofBodyStamp s h e).map (moved q) := by
  unfold ofBodyStamp
  rcases Stamp.decode? e.text with f | _ | st
  · rfl
  · rfl
  · dsimp only [bind, Except.bind]
    by_cases hc : s.options.excludedStamps.covers (StampKind.ofActive st.active) = true
    · have hq : (s.moved q).options.excludedStamps.covers (StampKind.ofActive st.active) = true := hc
      rw [if_pos hq, if_pos hc]
      rfl
    · have hq : ¬(s.moved q).options.excludedStamps.covers (StampKind.ofActive st.active) = true :=
        hc
      rw [if_neg hq, if_neg hc]
      rfl

theorem ofLink_moved (e : Excerpt) :
    ofLink (s.moved q) h e = (ofLink s h e).map ({ · with file := q }) := by
  unfold ofLink
  cases Link.ofText? e.text with
  | none => rfl
  | some l =>
    dsimp only
    by_cases hc : s.options.excludedLinks.covers l.type = true
    · have hq : (s.moved q).options.excludedLinks.covers l.type = true := hc
      rw [if_pos hq, if_pos hc]
      rfl
    · have hq : ¬(s.moved q).options.excludedLinks.covers l.type = true := hc
      rw [if_neg hq, if_neg hc]
      rfl

theorem ofClock_moved (c : Clock) : ofClock (s.moved q) h c = (ofClock s h c).moved q := by
  unfold ofClock
  by_cases hc : s.options.excludeClocks = true
  · have hq : (s.moved q).options.excludeClocks = true := hc
    rw [if_pos hq, if_pos hc]
    rfl
  · have hq : ¬(s.moved q).options.excludeClocks = true := hc
    rw [if_neg hq, if_neg hc]
    rfl

theorem ofNote_moved (n : Note) : ofNote (s.moved q) h n = (ofNote s h n).moved q := by
  unfold ofNote
  by_cases hc : s.options.excludedNotes.covers n.type = true
  · have hq : (s.moved q).options.excludedNotes.covers n.type = true := hc
    rw [if_pos hq, if_pos hc]
    rfl
  · have hq : ¬(s.moved q).options.excludedNotes.covers n.type = true := hc
    rw [if_neg hq, if_neg hc]
    by_cases hs : n.type = NoteType.state
    · rw [if_pos hs, if_pos hs]
      rfl
    · rw [if_neg hs, if_neg hs]
      cases n.oldStamp <;> rfl

theorem ofRecord_moved (x : LogRecord) : ofRecord (s.moved q) h x = (ofRecord s h x).moved q := by
  cases x with
  | clock c => exact ofClock_moved q s h c
  | note n => exact ofNote_moved q s h n

variable {q s h}

theorem ofHeading_moved {above : List Heading} {r : Rows} (hr : ofHeading s h above = .ok r) :
    ofHeading (s.moved q) h above = .ok (r.moved q) := by
  obtain ⟨row, planning, stamps, log, hrow, hp, hs, hl, rfl⟩ := ofHeading_eq_ok.mp hr
  refine ofHeading_eq_ok.mpr ⟨{ row with file := q }, planning.map (moved q),
    stamps.map (moved q), log, ?_, ?_, ?_, hl, ?_⟩
  · rw [headingRow_moved, hrow]
    rfl
  · apply mapM_eq_ok_map _ hp
    intro p r _ hr
    rw [ofPlanning_moved, hr]
    rfl
  · apply mapM_eq_ok_map _ hs
    intro x r _ hr
    rw [ofBodyStamp_moved, hr]
    rfl
  · have hlinks : h.links.flatMap (ofLink (s.moved q) h) =
        (h.links.flatMap (ofLink s h)).map ({ · with file := q }) := by
      rw [List.map_flatMap]
      exact congrArg (h.links.flatMap ·) (funext (ofLink_moved q s h))
    have hproperties : (h.properties.map fun p =>
        ofProperty (s.moved q) p { headingProperties := [⟨q, p.offset, h.offset⟩] }) =
          (h.properties.map fun p =>
            ofProperty s p { headingProperties := [⟨s.file, p.offset, h.offset⟩] }).map (moved q) := by
      rw [List.map_map]
      exact List.map_congr_left fun p _ =>
        ofProperty_moved q s p { headingProperties := [⟨s.file, p.offset, h.offset⟩] }
    have hlog : log.map (ofRecord (s.moved q) h) = (log.map (ofRecord s h)).map (moved q) := by
      rw [List.map_map]
      exact List.map_congr_left fun x _ => ofRecord_moved q s h x
    rw [moved_concat, List.map_append, List.map_append, List.map_append, List.map_cons,
      ← hproperties, ← hlog, ofAncestors_moved, ofTags_moved, hlinks]
    rfl

end Heading

theorem ofFile_moved (q : Text) (s : Scope) (properties : List Property) (md5 : Text)
    (size : Option Int) :
    ofFile (s.moved q) properties md5 size = (ofFile s properties md5 size).moved q := by
  have hproperties : (properties.map fun p =>
      ofProperty (s.moved q) p { fileProperties := [⟨q, p.offset⟩] }) =
        (properties.map fun p =>
          ofProperty s p { fileProperties := [⟨s.file, p.offset⟩] }).map (moved q) := by
    rw [List.map_map]
    exact List.map_congr_left fun p _ =>
      ofProperty_moved q s p { fileProperties := [⟨s.file, p.offset⟩] }
  have htags : ((s.moved q).fileTags.filter (!(s.moved q).options.excludedTags.covers ·)).map
      (⟨q, ·⟩ : Text → FileTagRow) =
        ((s.fileTags.filter (!s.options.excludedTags.covers ·)).map
          (⟨s.file, ·⟩ : Text → FileTagRow)).map ({ · with file := q }) := by
    rw [List.map_map]
    rfl
  unfold ofFile
  rw [moved_concat, List.map_cons, ← hproperties]
  dsimp only [moved]
  rw [← htags]
  rfl

/-- The rows of an outline depend on the path of its file only in that they hold it. -/
theorem ofOutline_moved {o : Options} {x : Outline} {file md5 : Text} {size : Option Int} {r : Rows}
    (hr : ofOutline o x file md5 size = .ok r) (q : Text) :
    ofOutline o x q md5 size = .ok (r.moved q) := by
  obtain ⟨rows, hrows, rfl⟩ := ofOutline_eq_ok.mp hr
  refine ofOutline_eq_ok.mpr ⟨rows.map (moved q), ?_, ?_⟩
  · rw [mapM_eq_ok] at hrows ⊢
    rw [List.forall₂_map_right_iff]
    exact hrows.imp fun p r hp => ofHeading_moved (q := q) hp
  · rw [moved_concat, List.map_cons, ← ofFile_moved]
    rfl

end Rows

/-- The same record for another file. -/
def Record.moved (q : Text) (values : Record) : Record :=
  values.map fun (n, v) => (n, if n = "file_path" then .text q else v)

theorem Record.lookup_moved (q : Text) (values : Record) (name : String) :
    (values.moved q).lookup name =
      (values.lookup name).map fun v => if name = "file_path" then .text q else v :=
  lookup_map_values (fun n v => if n = "file_path" then Value.text q else v) values name

namespace Row

/-- The same row for another file. -/
def moved (q : Text) (r : Row) : Row := r.withCells [("file_path", .text q)]

theorem lookup_moved (q : Text) (r : Row) (column : String) : (r.moved q).lookup column =
    (r.lookup column).map fun c => if column = "file_path" then .text q else c := by
  have h : r.moved q = r.map fun p => (p.1, if p.1 = "file_path" then Cell.text q else p.2) := by
    unfold moved withCells
    apply List.map_congr_left
    rintro ⟨n, c⟩ -
    by_cases hn : n = "file_path"
    · simp [hn]
    · have hn' : (n == "file_path") = false := by simpa using hn
      simp [hn, hn', List.lookup_cons]
  rw [h]
  exact lookup_map_values (fun n c => if n = "file_path" then Cell.text q else c) r column

theorem cell_moved_other {q : Text} {r : Row} {column : String} (h : column ≠ "file_path") :
    (r.moved q).cell column = r.cell column := by
  unfold cell
  rw [lookup_moved]
  simp only [if_neg h, Option.map_id']

theorem cell_moved_file {q : Text} {r : Row} (h : r.cell "file_path" ≠ .null) :
    (r.moved q).cell "file_path" = .text q := by
  unfold cell at h ⊢
  rw [lookup_moved]
  cases hr : r.lookup "file_path" with
  | none => simp [hr] at h
  | some c => rfl

end Row

namespace Rows

theorem file_column : ∀ t ∈ schema.tables, ∀ c ∈ t.columns, c.name = "file_path" →
    c.type = .text := by decide

theorem file_first : ∀ t ∈ schema.tables, ∃ c cs, t.columns = c :: cs ∧ c.name = "file_path" := by
  intro t ht
  induction t, ht using tables_cases <;> exact ⟨filePath, _, rfl, rfl⟩

/-- What a table stores of the rows of an outline. -/
def content (r : Rows) (t : Table) : List Row := (r.recordsOf t.name).map t.row

theorem records_moved (q : Text) (r : Rows) :
    (r.moved q).records = r.records.map fun (n, vs) => (n, vs.map (Record.moved q)) := by
  simp only [records, moved, List.map_cons, List.map_nil, List.map_map]
  rfl

theorem recordsOf_moved (q : Text) (r : Rows) (name : String) :
    (r.moved q).recordsOf name = (r.recordsOf name).map (Record.moved q) := by
  unfold recordsOf
  rw [records_moved, lookup_map_values fun _ (vs : List Record) => vs.map (Record.moved q)]
  cases r.records.lookup name <;> rfl

/-- Every record of an outline begins with its file. -/
theorem mem_records {r : Rows} {name : String} {vs : List Record} (h : (name, vs) ∈ r.records)
    {values : Record} (hv : values ∈ vs) :
    ∃ file, values.lookup "file_path" = some (.text file) := by
  simp only [records, List.mem_cons, List.not_mem_nil, or_false, Prod.mk.injEq] at h
  rcases h with h | h | h | h | h | h | h | h | h | h | h | h | h | h | h <;>
    obtain ⟨-, rfl⟩ := h <;> obtain ⟨x, -, rfl⟩ := List.mem_map.mp hv <;> exact ⟨_, rfl⟩

theorem mem_recordsOf {r : Rows} {name : String} {values : Record}
    (h : values ∈ r.recordsOf name) : ∃ file, values.lookup "file_path" = some (.text file) := by
  unfold recordsOf at h
  cases hl : r.records.lookup name with
  | none => simp [hl] at h
  | some vs =>
    rw [hl] at h
    obtain ⟨before, after, hsplit, -⟩ := List.lookup_eq_some_iff.mp hl
    have hm : (name, vs) ∈ r.records := by
      rw [hsplit]
      exact List.mem_append_right _ List.mem_cons_self
    exact mem_records hm h

theorem row_moved {t : Table} (ht : t ∈ schema.tables) (q : Text) {values : Record}
    (hv : (values.lookup "file_path").isSome = true) :
    t.row (values.moved q) = (t.row values).moved q := by
  unfold Table.row Row.moved Row.withCells
  rw [List.map_map]
  apply List.map_congr_left
  intro c hc
  dsimp only [Function.comp_apply]
  rw [Record.lookup_moved]
  by_cases hn : c.name = "file_path"
  · obtain ⟨v, hv⟩ := Option.isSome_iff_exists.mp hv
    have htype := file_column t ht c hc hn
    rw [hn, hv]
    simp [Cell.ofValue, htype]
  · have hn' : (c.name == "file_path") = false := by simpa using hn
    simp [hn, hn', List.lookup_cons]

theorem content_moved {t : Table} (ht : t ∈ schema.tables) (q : Text) (r : Rows) :
    (r.moved q).content t = (r.content t).map (Row.moved q) := by
  unfold content
  rw [recordsOf_moved, List.map_map, List.map_map]
  apply List.map_congr_left
  intro values hv
  obtain ⟨file, hfile⟩ := mem_recordsOf hv
  exact row_moved ht q (by rw [hfile]; rfl)

/-- All rows of an outline are rows of its file. -/
theorem cell_content {o : Options} {x : Outline} {file md5 : Text} {size : Option Int} {r : Rows}
    (hr : ofOutline o x file md5 size = .ok r) {t : Table} (ht : t ∈ schema.tables) {row : Row}
    (hrow : row ∈ r.content t) : row.cell "file_path" = .text file := by
  have hmoved : r.moved file = r := Except.ok.inj ((ofOutline_moved hr file).symm.trans hr)
  rw [← hmoved, content_moved ht] at hrow
  obtain ⟨old, hold, rfl⟩ := List.mem_map.mp hrow
  obtain ⟨values, hv, rfl⟩ := List.mem_map.mp hold
  obtain ⟨f, hf⟩ := mem_recordsOf hv
  apply Row.cell_moved_file
  obtain ⟨c, cs, hcs, hc⟩ := file_first t ht
  have htype := file_column t ht c (by rw [hcs]; exact List.mem_cons_self) hc
  rw [Table.cell_row, hcs, hf]
  simp [hc, htype, Cell.ofTyped, Cell.ofValue]

/-- All records of an outline hold the path of its file. -/
theorem lookup_file {o : Options} {x : Outline} {file md5 : Text} {size : Option Int} {r : Rows}
    (hr : ofOutline o x file md5 size = .ok r) {name : String} {vs : List Record}
    (h : (name, vs) ∈ r.records) {values : Record} (hv : values ∈ vs) :
    values.lookup "file_path" = some (.text file) := by
  have hmoved : r.moved file = r := Except.ok.inj ((ofOutline_moved hr file).symm.trans hr)
  rw [← hmoved, records_moved] at h
  obtain ⟨⟨n, olds⟩, hold, he⟩ := List.mem_map.mp h
  cases he
  obtain ⟨old, ho, rfl⟩ := List.mem_map.mp hv
  obtain ⟨f, hf⟩ := mem_records hold ho
  rw [Record.lookup_moved, hf]
  rfl

/-- An outline has one row for its file. -/
theorem files_ofOutline {o : Options} {x : Outline} {file md5 : Text} {size : Option Int} {r : Rows}
    (hr : ofOutline o x file md5 size = .ok r) : r.files = [⟨file, md5, size⟩] := by
  have hf : Lists fun r : Rows => r.files := ⟨rfl, fun _ _ => rfl⟩
  exact hf.of_outline_file (fun _ _ _ _ => rfl) (fun _ _ _ => rfl) (fun _ _ => rfl)
    (fun _ _ _ _ _ => rfl) hr

/-- The hash and the size of a file are in the row of the file and nowhere else. -/
theorem ofOutline_rehashed {o : Options} {x : Outline} {file md5 : Text} {size : Option Int}
    {r : Rows} (hr : ofOutline o x file md5 size = .ok r) (md5' : Text) (size' : Option Int) :
    ofOutline o x file md5' size' = .ok { r with files := [⟨file, md5', size'⟩] } := by
  obtain ⟨rows, hrows, rfl⟩ := ofOutline_eq_ok.mp hr
  have hr' := ofOutline_eq_ok.mpr ⟨rows, hrows, Eq.refl
    (concat (ofFile (Scope.ofOptions o file (firsts x.tags)) x.properties md5' size' :: rows))⟩
  rw [← files_ofOutline hr']
  exact hr'

end Rows

end OutlineTables
