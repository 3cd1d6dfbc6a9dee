import OutlineTables.Proofs.Lookup
import OutlineTables.Proofs.Sql.Literals
import OutlineTables.Proofs.Sql.Parts
import OutlineTables.Proofs.Text.Readers

/-!
Clauses of statements read back. Names and literals are never taken for the key words and commas
that clauses are cut at.
-/
namespace OutlineTables

namespace Sql

/-- A word that no clause is cut at. -/
def IsName (w : Text) : Prop := IsWord w ∧ Token.word w ∉ Token.key "FROM" :: cuts

instance (w : Text) : Decidable (IsName w) := inferInstanceAs (Decidable (_ ∧ _))

end Sql

open Sql

/-- A table whose names can be read, and that has enumerations of single lines. -/
structure Table.Readable (t : Table) : Prop where
  name : IsName t.name.toList
  columns : (t.columns.map (·.name)).Nodup
  names : ∀ c ∈ t.columns, IsName c.name.toList
  allowed : ∀ c ∈ t.columns, ∀ a ∈ c.allowed, '\n' ∉ a

structure Schema.Readable (s : Schema) : Prop where
  tables : (s.tables.map (·.name)).Nodup
  readable : ∀ t ∈ s.tables, t.Readable

theorem find?_name {α : Type} {name : α → String} {as : List α} (hn : (as.map name).Nodup) {a : α}
    (h : a ∈ as) : as.find? (fun b => (name b).toList = (name a).toList) = some a := by
  refine @find?_of_mem α Text _ (fun b => (name b).toList) as ?_ a h
  have hmap := hn.map (f := String.toList) fun s t => String.toList_inj.mp
  rw [List.map_map] at hmap
  exact hmap

namespace Sql

variable {d : Dialect} {s : Schema} {t : Table} {c : Column} {v : Value} {l : Text}
  {fs : List (Column × Value)} {values tests : Record}

theorem tableOf?_eq (hs : s.Readable) (ht : t ∈ s.tables) :
    tableOf? s t.name.toList = some t := find?_name hs.tables ht

theorem columnOf?_eq (ht : t.Readable) (hc : c ∈ t.columns) :
    columnOf? t c.name.toList = some c := find?_name ht.columns hc

theorem reads_column (ht : t.Readable) (hc : c ∈ t.columns) :
    Reads (column? t) c c.name.toList [.word c.name.toList] where
  lexes := Lexes.word (ht.names c hc).1
  whole := whole_cons.mpr ⟨fun h => (ht.names c hc).2 (List.mem_cons_of_mem _ h), by decide⟩
  value := columnOf?_eq ht hc

theorem exists_assignment (ht : t.Readable) (hc : c ∈ t.columns)
    (h : assignment d.literal c v = .ok l) :
    ∃ ts, Reads (assignment? d t) (c.name, c.canonical v) l (.word c.name.toList :: .mark '=' :: ts) ∧
      (ts = [.key "NULL"] → v = .null) := by
  obtain ⟨literal, hl, h⟩ := bind_eq_ok.mp h
  cases h
  obtain ⟨ts, hts⟩ := exists_literal (ht.allowed c hc) hl
  have hname := reads_column ht hc
  refine ⟨ts, ⟨hname.lexes.append (hts.lexes.mark (by decide)) (IsMark.breaks (by decide)), ?_, ?_⟩, ?_⟩
  · exact whole_cons.mpr ⟨(whole_cons.mp hname.whole).1, whole_cons.mpr ⟨by decide, hts.whole⟩⟩
  · simp [assignment?, columnOf?_eq ht hc, hts.value]
  · rintro rfl
    have hnull : c.canonical v = .null := by
      have hvalue := hts.value
      rw [value?, if_pos rfl] at hvalue
      exact (Option.some.inj hvalue).symm
    cases v with
    | null => rfl
    | _ => cases htype : c.type <;> simp [Column.canonical, htype] at hnull

/-- A test for null is read as one, and no other test is. -/
theorem exists_test (ht : t.Readable) (hc : c ∈ t.columns) (h : test d.literal c v = .ok l) :
    ∃ ts, Reads (test? d t) (c.name, c.canonical v) l ts := by
  unfold test at h
  split at h
  · cases h
    have hname := reads_column ht hc
    have hnull : Lexes " IS NULL".toList [.key "IS", .key "NULL"] :=
      Lexes.space (Lexes.spaced (w := "IS".toList) (by decide)
        (Lexes.word (w := "NULL".toList) (by decide)))
    refine ⟨[.word c.name.toList, .key "IS", .key "NULL"], hname.lexes.append hnull breaks_space,
      ?_, ?_⟩
    · exact whole_cons.mpr ⟨(whole_cons.mp hname.whole).1, by decide⟩
    · simp [test?, columnOf?_eq ht hc, Column.canonical]
  · rename_i hv
    obtain ⟨ts, hts, hnull⟩ := exists_assignment ht hc h
    refine ⟨_, hts.lexes, hts.whole, ?_⟩
    rw [← hts.value]
    -- Three tokens could also be a test for null, so the literal must not be its key word.
    unfold test?
    split
    · rename_i heq
      cases heq
      rw [if_neg (by simp [Token.key])]
      split
      · rename_i heq
        exact absurd (hnull (by rw [heq])) hv
      · rfl
    · rfl

/-! ### Lists of parts -/

variable {α β : Type} {read : List Token → Option β} {g : α → β} {as : List α} {ls : List Text}
  {tss : List (List Token)} {sep : Token}

/-- Parts that can be read one by one. -/
theorem exists_parts {R : α → Text → Prop} (read : α → List Token → Option β)
    (h : ∀ a ∈ as, ∀ l, R a l → ∃ ts, Reads (read a) (g a) l ts) (hls : List.Forall₂ R as ls) :
    ∃ tss, List.Forall₂ Lexes ls tss ∧ (∀ ts ∈ tss, Whole ts) ∧
      List.Forall₂ (fun a ts => read a ts = some (g a)) as tss := by
  induction hls with
  | nil => exact ⟨[], List.Forall₂.nil, fun _ h => absurd h List.not_mem_nil, List.Forall₂.nil⟩
  | cons ha _ ih =>
    obtain ⟨ts, hts⟩ := h _ List.mem_cons_self _ ha
    obtain ⟨tss, hlex, hwhole, hread⟩ := ih fun b hb => h b (List.mem_cons_of_mem _ hb)
    exact ⟨ts :: tss, List.Forall₂.cons hts.lexes hlex,
      List.forall_mem_cons.mpr ⟨hts.whole, hwhole⟩, List.Forall₂.cons hts.value hread⟩

theorem mapM_parts (h : List.Forall₂ (fun a ts => read ts = some (g a)) as tss) :
    tss.mapM read = some (as.map g) := by
  induction h with
  | nil => rfl
  | cons ha _ ih => simp [ha, ih]

/-- Parts with a separator that none of them holds are found again. -/
theorem splitOn_parts (hne : tss ≠ []) (hwhole : ∀ ts ∈ tss, Whole ts) (hsep : sep ∈ cuts) :
    ([sep].intercalate tss).splitOn sep = tss :=
  List.splitOn_intercalate sep (fun ts hts hm => hwhole ts hts sep hm hsep) hne

theorem not_mem_parts (hwhole : ∀ ts ∈ tss, Whole ts) {x : Token} (hx : x ∈ cuts) (hne : x ≠ sep) :
    x ∉ [sep].intercalate tss := by
  intro hm
  rcases mem_intercalate hm with hm | ⟨ts, hts, hm⟩
  · exact hne (List.mem_singleton.mp hm)
  · exact hwhole ts hts x hm hx

/-- Tokens up to a key word and from it on. -/
theorem cut_at {ts r : List Token} {x : Token} (hts : x ∉ ts) (hr : ∀ y ∈ r.head?, y = x) :
    (ts ++ r).takeWhile (· ≠ x) = ts ∧ (ts ++ r).dropWhile (· ≠ x) = r := by
  have hall : ∀ y ∈ ts, decide (y ≠ x) = true :=
    fun y hy => decide_eq_true fun h => hts (h ▸ hy)
  exact Text.takeWhile_append_stop hall fun y hy => decide_eq_false (not_not.mpr (hr y hy))

theorem canonical_eq (hfs : fields t values = .ok fs) :
    t.canonical values = fs.map fun f => (f.1.name, f.1.canonical f.2) := by
  obtain ⟨-, rfl⟩ := fields_eq_ok.mp hfs
  rw [List.map_map]
  rfl

theorem column_of_field (hfs : fields t values = .ok fs) {f : Column × Value} (hf : f ∈ fs) :
    f.1 ∈ t.columns := by
  obtain ⟨-, rfl⟩ := fields_eq_ok.mp hfs
  obtain ⟨c, hc, rfl⟩ := List.mem_map.mp hf
  exact (List.mem_filter.mp hc).1

/-- A condition is nothing, or begins with its key word. -/
structure Condition (d : Dialect) (t : Table) (tests : Record) (l : Text) (ts : List Token) :
    Prop where
  lexes : Lexes l ts
  breaks : Breaks l
  begins : ∀ x ∈ ts.head?, x = .key "WHERE"
  value : condition? d t ts = some (t.canonical tests)

theorem exists_condition (ht : t.Readable) (h : condition d.literal t tests = .ok l) :
    ∃ ts, Condition d t tests l ts := by
  rcases condition_eq_ok.mp h with ⟨rfl, rfl⟩ | ⟨hne, fs, ls, hfs, hls, rfl⟩
  · exact ⟨[], Lexes.nil, breaks_nil, fun _ h => (nomatch h), by simp [condition?, Table.canonical]⟩
  · obtain ⟨tss, hlex, hwhole, hread⟩ := exists_parts (fun _ => test? d t)
      (fun f hf l hl => exists_test ht (column_of_field hfs hf) hl) hls
    have hne' : tss ≠ [] := by
      rintro rfl
      exact fields_ne_nil hne hfs (List.forall₂_nil_right_iff.mp hread)
    refine ⟨.key "WHERE" :: [.key "AND"].intercalate tss, ?_, breaks_space, ?_, ?_⟩
    · exact Lexes.space (Lexes.spaced (w := "WHERE".toList) (by decide)
        (Lexes.join separates_and hlex))
    · simp
    · rw [condition?, if_pos rfl, splitOn_parts hne' hwhole (by decide), mapM_parts hread,
        canonical_eq hfs]

end Sql

end OutlineTables
