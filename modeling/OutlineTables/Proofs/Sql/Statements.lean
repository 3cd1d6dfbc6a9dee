import OutlineTables.Proofs.Sql.Clauses

/-!
Statements read back. Whatever their texts hold, the text of a statement is one line that is read
as the statement and nothing else.
-/
namespace OutlineTables

namespace Sql

variable {d : Dialect} {s : Schema} {t : Table} {l text : Text} {ts : List Token}
  {table : String} {values tests : Record}

/-- A text that is read as the statement in front of its semicolon. -/
structure Writes (d : Dialect) (s : Schema) (text : Text) (x : Statement) : Prop where
  line : '\n' ∉ text
  read : read? d s text = some x

theorem writes_of_lexes {x : Statement} (h : Lexes l ts)
    (hx : statement? d s (ts ++ [.mark ';']) = some x) : Writes d s (l ++ [';']) x := by
  have hend := h.append (Lexes.nil.mark (c := ';') (by decide)) (IsMark.breaks (by decide))
  refine ⟨hend.line, ?_⟩
  rw [read?, hend.lex]
  exact hx

theorem statement?_append (first : Token) (ts : List Token) :
    statement? d s (first :: ts ++ [.mark ';']) =
      if first = .key "INSERT" then insert? d s ts
      else if first = .key "UPDATE" then update? d s ts
      else if first = .key "DELETE" then delete? d s ts
      else if first = .key "SELECT" then select? d s ts
      else none := by
  rw [statement?, if_pos List.getLast?_concat, List.dropLast_concat]

theorem canonical_table (ht : s.table table = .ok t) :
    (s.tables.find? (·.name = table)).getD ⟨table, "", [], [], []⟩ = t := by
  unfold Schema.table at ht
  split at ht
  · rename_i a ha
    cases ht
    rw [ha]
    rfl
  · cases ht

/-! ### Statements of each kind -/

/-- The tokens of names. -/
def nameTokens (cs : List Column) : List (List Token) := cs.map fun c => [.word c.name.toList]

theorem names_read (ht : t.Readable) (cs : List Column) (hcs : ∀ c ∈ cs, c ∈ t.columns) :
    List.Forall₂ Lexes (cs.map (·.name.toList)) (nameTokens cs) ∧
      (∀ ts ∈ nameTokens cs, Whole ts) ∧
        List.Forall₂ (fun c ts => column? t ts = some c) cs (nameTokens cs) := by
  unfold nameTokens
  refine ⟨?_, ?_, ?_⟩
  · rw [List.forall₂_map_left_iff, List.forall₂_map_right_iff, List.forall₂_same]
    exact fun c hc => (reads_column ht (hcs c hc)).lexes
  · intro ts hts
    obtain ⟨c, hc, rfl⟩ := List.mem_map.mp hts
    exact (reads_column ht (hcs c hc)).whole
  · rw [List.forall₂_map_right_iff, List.forall₂_same]
    exact fun c hc => (reads_column ht (hcs c hc)).value

theorem mem_names {cs : List Column} {x : Token}
    (h : x ∈ [Token.mark ','].intercalate (nameTokens cs)) :
    x = .mark ',' ∨ ∃ c ∈ cs, x = .word c.name.toList := by
  rcases mem_intercalate h with h | ⟨ts, hts, h⟩
  · exact Or.inl (List.mem_singleton.mp h)
  · obtain ⟨c, hc, rfl⟩ := List.mem_map.mp hts
    exact Or.inr ⟨c, hc, List.mem_singleton.mp h⟩

theorem mapM_values {fs : List (Column × Value)} {tss : List (List Token)}
    (h : List.Forall₂ (fun f ts => value? d f.1 ts = some (f.1.canonical f.2)) fs tss) :
    ((fs.map (·.1)).zip tss).mapM (fun (c, ts) => (value? d c ts).map ((c.name, ·))) =
      some (fs.map fun f => (f.1.name, f.1.canonical f.2)) := by
  induction h with
  | nil => rfl
  | cons hf _ ih => simp [hf, ih]

theorem insert?_eq (hs : s.Readable) (ht : t ∈ s.tables) {fs : List (Column × Value)}
    (hne : fs ≠ []) (hcs : ∀ f ∈ fs, f.1 ∈ t.columns) {tss : List (List Token)}
    (hwhole : ∀ ts ∈ tss, Whole ts)
    (hread : List.Forall₂ (fun f ts => value? d f.1 ts = some (f.1.canonical f.2)) fs tss) :
    insert? d s (.key "INTO" :: .word t.name.toList ::
        (bracketed (nameTokens (fs.map (·.1))) ++ .key "VALUES" :: bracketed tss)) =
      some (.insert t.name (fs.map fun f => (f.1.name, f.1.canonical f.2))) := by
  obtain ⟨-, hnwhole, hnread⟩ := names_read (hs.readable t ht) (fs.map (·.1))
    (List.forall_mem_map.mpr hcs)
  have hnne : nameTokens (fs.map (·.1)) ≠ [] := by simpa [nameTokens] using hne
  have htne : tss ≠ [] := by
    rintro rfl
    exact hne (List.forall₂_nil_right_iff.mp hread)
  -- Names are cut off at the first bracket, so none may be among them.
  have hend : Token.mark ')' ∉ [Token.mark ','].intercalate (nameTokens (fs.map (·.1))) := by
    intro hm
    rcases mem_names hm with h | ⟨c, -, h⟩ <;> cases h
  obtain ⟨htake, hdrop⟩ := cut_at (r := .mark ')' :: .key "VALUES" :: bracketed tss) hend
    (by simp)
  have hbody : bracketed (nameTokens (fs.map (·.1))) ++ .key "VALUES" :: bracketed tss =
      .mark '(' :: ([Token.mark ','].intercalate (nameTokens (fs.map (·.1))) ++
        .mark ')' :: .key "VALUES" :: bracketed tss) := by
    simp [bracketed]
  have hcolumns : (nameTokens (fs.map (·.1))).mapM (column? t) = some (fs.map (·.1)) := by
    simpa using mapM_parts (g := id) hnread
  have hliterals : ([Token.mark ','].intercalate tss ++ [Token.mark ')']).dropLast.splitOn
      (.mark ',') = tss := by
    rw [List.dropLast_concat, splitOn_parts htne hwhole (by decide)]
  have hlength : tss.length = fs.length := hread.length_eq.symm
  rw [hbody, insert?]
  simp only [tableOf?_eq hs ht, Option.bind_eq_bind, Option.bind_some, htake, hdrop,
    splitOn_parts hnne hnwhole (show Token.mark ',' ∈ cuts by decide), hcolumns]
  simp only [bracketed, List.cons_append, hliterals, mapM_values hread]
  simp [hlength]

theorem insert_reads (hs : s.Readable) (h : insert d.literal s table values = .ok text) :
    Writes d s text ((Statement.insert table values).canonical s) := by
  obtain ⟨t, fs, ls, htable, hne, hfs, hls, rfl⟩ := insert_eq_ok.mp h
  obtain ⟨ht, rfl⟩ := Schema.table_eq_ok htable
  have hr := hs.readable t ht
  have hfne := fields_ne_nil hne hfs
  obtain ⟨tss, hlex, hwhole, hread⟩ := exists_parts (fun f => value? d f.1)
    (fun f hf l hl => exists_literal (hr.allowed f.1 (column_of_field hfs hf)) hl) hls
  have htne : tss ≠ [] := by
    rintro rfl
    exact hfne (List.forall₂_nil_right_iff.mp hread)
  obtain ⟨hnames, hnwhole, hnread⟩ := names_read hr (fs.map (·.1)) (by
    intro c hc
    obtain ⟨f, hf, rfl⟩ := List.mem_map.mp hc
    exact column_of_field hfs hf)
  have hnne : nameTokens (fs.map (·.1)) ≠ [] := by simpa [nameTokens] using hfne
  have hend : Token.mark ')' ∉ [Token.mark ','].intercalate (nameTokens (fs.map (·.1))) := by
    intro hm
    rcases mem_names hm with h | ⟨c, -, h⟩
    · exact absurd h (by decide)
    · cases h
  rw [List.map_map] at hnames
  have hl : Lexes ("INSERT".toList ++ ' ' :: ("INTO".toList ++ ' ' :: (t.name.toList ++ ' ' ::
      (parenthesized (fs.map (·.1.name.toList)) ++ ' ' :: ("VALUES".toList ++ ' ' ::
        parenthesized ls)))))
      (.key "INSERT" :: .key "INTO" :: .word t.name.toList ::
        (bracketed (nameTokens (fs.map (·.1))) ++ .key "VALUES" :: bracketed tss)) :=
    Lexes.spaced (by decide) (Lexes.spaced (by decide) (Lexes.spaced hr.name.1
      ((Lexes.parenthesized hnames).append
        (Lexes.spaced (by decide) (Lexes.parenthesized hlex)).space breaks_space)))
  have hw := @writes_of_lexes d s _ _ ((Statement.insert t.name values).canonical s) hl (by
    rw [statement?_append, if_pos rfl, insert?_eq hs ht (fields_ne_nil hne hfs)
      (fun f hf => column_of_field hfs hf) hwhole hread, Statement.canonical]
    simp only [canonical_table htable, canonical_eq hfs])
  unfold insertText
  have h1 : "INSERT INTO ".toList = "INSERT".toList ++ ' ' :: "INTO".toList ++ [' '] := rfl
  have h2 : " VALUES ".toList = ' ' :: "VALUES".toList ++ [' '] := rfl
  rw [h1, h2]
  simpa only [List.append_assoc, List.cons_append, List.nil_append] using hw

theorem update?_eq (hs : s.Readable) (ht : t ∈ s.tables) {fs : List (Column × Value)}
    (hne : fs ≠ []) {tss : List (List Token)} (hwhole : ∀ ts ∈ tss, Whole ts)
    (hread : List.Forall₂ (fun f ts => assignment? d t ts = some (f.1.name, f.1.canonical f.2))
      fs tss) (hw : Condition d t tests l ts) :
    update? d s (.word t.name.toList :: .key "SET" :: ([.mark ','].intercalate tss ++ ts)) =
      some (.update t.name (fs.map fun f => (f.1.name, f.1.canonical f.2))
        (t.canonical tests)) := by
  have htne : tss ≠ [] := by
    rintro rfl
    exact hne (List.forall₂_nil_right_iff.mp hread)
  -- The condition begins at the first key word, so none may be in an assignment.
  have hend : Token.key "WHERE" ∉ [Token.mark ','].intercalate tss :=
    not_mem_parts hwhole (by decide) (by decide)
  obtain ⟨htake, hdrop⟩ := cut_at hend hw.begins
  rw [update?]
  simp only [tableOf?_eq hs ht, Option.bind_eq_bind, Option.bind_some, htake, hdrop,
    splitOn_parts htne hwhole (show Token.mark ',' ∈ cuts by decide), mapM_parts hread, hw.value,
    if_true]

theorem update_reads (hs : s.Readable) (h : update d.literal s table values tests = .ok text) :
    Writes d s text ((Statement.update table values tests).canonical s) := by
  obtain ⟨t, fs, as, where', htable, hne, hfs, has, hwhere, rfl⟩ := update_eq_ok.mp h
  obtain ⟨ht, rfl⟩ := Schema.table_eq_ok htable
  have hr := hs.readable t ht
  obtain ⟨ws, hw⟩ := exists_condition hr hwhere
  obtain ⟨tss, hlex, hwhole, hread⟩ := exists_parts (fun _ => assignment? d t)
    (fun f hf l hl => by
      obtain ⟨ts, hts, -⟩ := exists_assignment hr (column_of_field hfs hf) hl
      exact ⟨_, hts⟩) has
  have hl : Lexes ("UPDATE".toList ++ ' ' :: (t.name.toList ++ ' ' :: ("SET".toList ++ ' ' ::
      (commaSeparated as ++ where'))))
      (.key "UPDATE" :: .word t.name.toList :: .key "SET" ::
        ([.mark ','].intercalate tss ++ ws)) :=
    Lexes.spaced (by decide) (Lexes.spaced hr.name.1 (Lexes.spaced (by decide)
      ((Lexes.join separates_comma hlex).append hw.lexes hw.breaks)))
  have hx := @writes_of_lexes d s _ _ ((Statement.update t.name values tests).canonical s) hl (by
    rw [statement?_append, if_neg (by decide), if_pos rfl,
      update?_eq hs ht (fields_ne_nil hne hfs) hwhole hread hw, Statement.canonical]
    simp only [canonical_table htable, canonical_eq hfs])
  have h1 : "UPDATE ".toList = "UPDATE".toList ++ [' '] := rfl
  have h2 : " SET ".toList = ' ' :: "SET".toList ++ [' '] := rfl
  rw [h1, h2]
  simpa only [List.append_assoc, List.cons_append, List.nil_append] using hx

theorem delete_reads (hs : s.Readable) (h : delete d.literal s table tests = .ok text) :
    Writes d s text ((Statement.delete table tests).canonical s) := by
  obtain ⟨t, where', htable, hwhere, rfl⟩ := delete_eq_ok.mp h
  obtain ⟨ht, rfl⟩ := Schema.table_eq_ok htable
  have hr := hs.readable t ht
  obtain ⟨ws, hw⟩ := exists_condition hr hwhere
  have hl : Lexes ("DELETE".toList ++ ' ' :: ("FROM".toList ++ ' ' :: (t.name.toList ++ where')))
      (.key "DELETE" :: .key "FROM" :: .word t.name.toList :: ws) :=
    Lexes.spaced (by decide) (Lexes.spaced (by decide)
      ((Lexes.word hr.name.1).append hw.lexes hw.breaks))
  have hx := @writes_of_lexes d s _ _ ((Statement.delete t.name tests).canonical s) hl (by
    rw [statement?_append, if_neg (by decide), if_neg (by decide), if_pos rfl, delete?,
      Statement.canonical]
    simp only [tableOf?_eq hs ht, Option.bind_eq_bind, Option.bind_some, hw.value, if_true,
      canonical_table htable])
  have h1 : "DELETE FROM ".toList = "DELETE".toList ++ ' ' :: "FROM".toList ++ [' '] := rfl
  rw [h1]
  simpa only [List.append_assoc, List.cons_append, List.nil_append] using hx

theorem select_reads_of (hs : s.Readable) {names : List String} (htable : s.table t.name = .ok t)
    {selected where' : Text} {ss ws : List Token} (hsel : Lexes selected ss)
    (hfrom : Token.key "FROM" ∉ ss) (hw : Condition d t tests where' ws)
    (hread : selected? t ss = some ((t.columns.filter (·.name ∈ names)).map (·.name))) :
    Writes d s (selectText t selected where') ((Statement.select t.name names tests).canonical s) := by
  obtain ⟨ht, -⟩ := Schema.table_eq_ok htable
  have hr := hs.readable t ht
  have hl : Lexes ("SELECT".toList ++ ' ' :: (selected ++ ' ' :: ("FROM".toList ++ ' ' ::
      (t.name.toList ++ where'))))
      (.key "SELECT" :: (ss ++ .key "FROM" :: .word t.name.toList :: ws)) :=
    Lexes.spaced (by decide) (hsel.append (Lexes.spaced (by decide)
      ((Lexes.word hr.name.1).append hw.lexes hw.breaks)).space breaks_space)
  obtain ⟨htake, hdrop⟩ := cut_at (r := .key "FROM" :: .word t.name.toList :: ws) hfrom (by simp)
  have hx := @writes_of_lexes d s _ _ ((Statement.select t.name names tests).canonical s) hl (by
    rw [statement?_append, if_neg (by decide), if_neg (by decide), if_neg (by decide), if_pos rfl,
      select?, Statement.canonical]
    simp only [htake, hdrop, tableOf?_eq hs ht, Option.bind_eq_bind, Option.bind_some, hread,
      hw.value, canonical_table htable])
  unfold selectText
  have h1 : "SELECT ".toList = "SELECT".toList ++ [' '] := rfl
  have h2 : " FROM ".toList = ' ' :: "FROM".toList ++ [' '] := rfl
  rw [h1, h2]
  simpa only [List.append_assoc, List.cons_append, List.nil_append] using hx

theorem select_reads (hs : s.Readable) {names : List String}
    (h : select d.literal s table names tests = .ok text) :
    Writes d s text ((Statement.select table names tests).canonical s) := by
  obtain ⟨t, where', htable, hwhere, hcase⟩ := select_eq_ok.mp h
  obtain ⟨ht, rfl⟩ := Schema.table_eq_ok htable
  have hr := hs.readable t ht
  obtain ⟨ws, hw⟩ := exists_condition hr hwhere
  rcases hcase with ⟨hnil, htext⟩ | ⟨hne, cs, hcs, htext⟩
  · rw [htext, hnil]
    refine select_reads_of hs htable (Lexes.nil.mark (by decide)) (by decide) hw ?_
    simp [selected?]
  · have hcne := columns_ne_nil hne hcs
    obtain ⟨-, rfl⟩ := columns_eq_ok.mp hcs
    have hmem : ∀ c ∈ t.columns.filter (·.name ∈ names), c ∈ t.columns :=
      fun c hc => (List.mem_filter.mp hc).1
    obtain ⟨hlex, hwhole, hread⟩ := names_read hr _ hmem
    rw [htext]
    refine select_reads_of hs htable (Lexes.join separates_comma hlex) ?_ hw ?_
    · -- No name of a column is the word that ends the list of columns.
      intro hm
      rcases mem_names hm with h | ⟨c, hc, h⟩
      · cases h
      · exact (hr.names c (hmem c hc)).2 (h ▸ List.mem_cons_self)
    · have hstar : [Token.mark ','].intercalate (nameTokens (t.columns.filter (·.name ∈ names))) ≠
          [.mark '*'] := by
        intro h
        rcases mem_names (h ▸ List.mem_cons_self) with h | ⟨c, -, h⟩ <;> cases h
      rw [selected?, if_neg hstar, splitOn_parts (by simpa [nameTokens] using hcne) hwhole
        (by decide)]
      refine mapM_parts (hread.imp fun c ts h => ?_)
      rw [h]
      rfl

end Sql

open Sql

theorem Statement.writes_of_toSql {d : Dialect} {s : Schema} (hs : s.Readable) {x : Statement}
    {text : Text} (h : x.toSql d s = .ok text) :
    Writes d s text (x.canonical s) := by
  cases x with
  | insert table values => exact insert_reads hs h
  | update table values condition => exact update_reads hs h
  | delete table condition => exact delete_reads hs h
  | select table columns condition => exact select_reads hs h

end OutlineTables
