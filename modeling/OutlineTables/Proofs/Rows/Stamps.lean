import OutlineTables.Proofs.Logbook.OldStamps
import OutlineTables.Proofs.Logbook.Records
import OutlineTables.Proofs.Outline.Verbatim
import OutlineTables.Proofs.Rows.Lists

/-!
Timestamp rows and their text. The timestamps of planning lines and of bodies stand at the positions
of their rows. Those of changed dates do so too, unless white space was trimmed in front of them:
then they stand as many characters further back.
-/
namespace OutlineTables

namespace Text

variable {t u w : Text} {p : Int} {n : Nat}

theorem StandsAt.inside (h : t.StandsAt p u) (h' : u.Has n w) : t.StandsAt (p + n) w := by
  obtain ⟨before, after, rfl, rfl⟩ := h
  obtain ⟨before', after', rfl, rfl⟩ := h'
  refine ⟨before ++ before', after' ++ after, by simp, ?_⟩
  rw [List.length_append]
  omega

theorem standsAt_iff : t.StandsAt p w ↔ 1 ≤ p ∧ p ≤ t.length + 1 ∧ w <+: t.drop (p - 1).toNat := by
  constructor
  · rintro ⟨before, after, rfl, rfl⟩
    have hbefore : ((before.length : Int) + 1 - 1).toNat = before.length := by omega
    refine ⟨by omega, ?_, after, ?_⟩
    · simp only [List.length_append]
      omega
    · rw [hbefore, List.append_assoc, List.drop_left]
  · rintro ⟨hfirst, hlast, after, hafter⟩
    refine ⟨t.take (p - 1).toNat, after, ?_, ?_⟩
    · rw [List.append_assoc, hafter, List.take_append_drop]
    · rw [List.length_take]
      omega

instance (t : Text) (p : Int) (w : Text) : Decidable (t.StandsAt p w) :=
  decidable_of_iff _ standsAt_iff.symm

theorem head_of_stampRange? {a b : Char} {t s : Text} (h : stampRange? a b t = some s) :
    s.head? = some a := by
  obtain ⟨⟨x, rest⟩, hx, h⟩ := Option.bind_eq_some_iff.mp h
  have hhead : x.head? = some a := by
    obtain ⟨t₁, -, hx⟩ := Option.bind_eq_some_iff.mp hx
    obtain ⟨⟨d, t₂⟩, -, hx⟩ := Option.bind_eq_some_iff.mp hx
    obtain ⟨⟨body, t₃⟩, -, hx⟩ := Option.bind_eq_some_iff.mp hx
    cases hx
    rfl
  dsimp only at h
  split at h
  · cases h
    rw [List.head?_append, hhead]
    rfl
  · cases h
    exact hhead

/-- A timestamp in a line begins with its bracket, so nothing is trimmed in front of it. -/
theorem lead_of_stampToken? {s : Text} (h : stampToken? t = some s) : lead s = 0 := by
  have hblank {c : Char} (hc : isBlank c = false) (hhead : s.head? = some c) : lead s = 0 := by
    obtain ⟨rest, rfl⟩ := List.head?_eq_some_iff.mp hhead
    unfold lead
    rw [List.takeWhile_cons_of_neg (by simp [hc])]
    rfl
  rcases Option.or_eq_some_iff.mp h with h | ⟨-, h⟩
  · exact hblank (by decide) (head_of_stampRange? h)
  · exact hblank (by decide) (head_of_stampRange? h)

end Text

/-- Timestamps that are read from a line as such. -/
def Excerpt.IsStamp (e : Excerpt) : Prop := ∃ t, Text.stampToken? t = some e.text

theorem Line.isStamp_timestamp {l : Line} {e : Excerpt} (h : e ∈ l.timestamps) : e.IsStamp := by
  obtain ⟨⟨pos, w⟩, hx, rfl⟩ := List.mem_map.mp h
  obtain ⟨lead, behind, -, -, -, -, hw⟩ := Text.read_of_mem_scan hx
  exact ⟨behind, hw⟩

theorem Line.isStamp_planning {l : Line} {p : Planning} (h : p ∈ l.planning) :
    p.stamp.IsStamp := by
  obtain ⟨⟨pos, kind, n, w⟩, hx, rfl⟩ := List.mem_map.mp h
  obtain ⟨front, behind, -, -, -, -, hw⟩ := Text.read_of_mem_scan hx
  obtain ⟨k, -, hw⟩ := List.exists_of_findSome?_eq_some hw
  obtain ⟨rest, -, hw⟩ := Option.bind_eq_some_iff.mp hw
  obtain ⟨stamp, hstamp, hw⟩ := Option.bind_eq_some_iff.mp hw
  cases hw
  exact ⟨_, hstamp⟩

/-- What a heading of a text says about its timestamps. -/
structure Heading.Stamped (t : Text) (h : Heading) : Prop where
  verbatim : h.Verbatim t
  planning : ∀ p ∈ h.planning, p.stamp.IsStamp
  timestamps : ∀ e ∈ h.timestamps, e.IsStamp

theorem Outline.stamped_headings (o : Options) (t : Text) :
    ∀ h ∈ (Outline.read o t).headings, h.Stamped t := by
  obtain ⟨front, groups, hlines, -, hall⟩ := Outline.exists_sections o t
  intro h hh
  obtain ⟨⟨l, ls⟩, hg, s, hs, rfl⟩ := exists_right_of_mem hall hh
  have hsub := sublist_of_mem_groups hlines hg
  have hbehind := (List.sublist_cons_self l ls).trans hsub
  refine ⟨?_, ?_, ?_⟩
  · exact Heading.verbatim_attach hs (hsub.subset List.mem_cons_self) hbehind.subset _
  · intro p hp
    obtain ⟨lead, inside, blocks, hplanning, -, -, -⟩ :=
      Section.exists_lines o.logDrawer.isNone ls
    change p ∈ (Section.ofLines o.logDrawer.isNone ls).planning at hp
    rw [hplanning] at hp
    obtain ⟨l', -, hp⟩ := List.mem_flatMap.mp hp
    exact Line.isStamp_planning hp
  · intro e he
    obtain ⟨l', -, he⟩ := List.mem_flatMap.mp he
    exact Line.isStamp_timestamp he

/-- A timestamp that is read from a line stands where it was found. -/
theorem Excerpt.IsStamp.standsAt {t : Text} {e : Excerpt} {st : Stamp} (h : e.IsStamp)
    (ht : t.StandsAt e.offset e.text) (hst : Stamp.decode? e.text = .ok (some st)) :
    t.StandsAt e.offset st.raw := by
  obtain ⟨u, hu⟩ := h
  have hinside := ht.inside (Text.has_strip e.text)
  rw [Text.lead_of_stampToken? hu, Int.natCast_zero, Int.add_zero] at hinside
  rw [(Stamp.raw_of_decode (Stamp.decode?_eq_some_iff.mp hst)).1]
  exact hinside

namespace Rows

theorem Lists.mem_concat {α : Type} {f : Rows → List α} (hf : Lists f) {rs : List Rows} {a : α} :
    a ∈ f (Rows.concat rs) ↔ ∃ r ∈ rs, a ∈ f r := by
  rw [hf.concat, List.mem_flatMap]

theorem lists_stamps : Lists (·.stamps) := ⟨rfl, fun _ _ => rfl⟩

theorem lists_planningChanges : Lists (·.planningChanges) := ⟨rfl, fun _ _ => rfl⟩

section Heading

variable {s : Scope} {h : Heading} {above : List Heading} {r : Rows} {row : StampRow}

theorem stamp_of_planning {p : Planning} (hr : ofPlanning s h p = .ok r) (hrow : row ∈ r.stamps) :
    row.offset = p.stamp.offset ∧ Stamp.decode? p.stamp.text = .ok (some row.stamp) := by
  rcases ofPlanning_eq_ok.mp hr with ⟨-, rfl⟩ | ⟨-, -, rfl⟩ | ⟨st, -, hstamp, rfl⟩
  · cases hrow
  · cases hrow
  · cases List.mem_singleton.mp hrow
    exact ⟨rfl, hstamp⟩

theorem stamp_of_bodyStamp {e : Excerpt} (hr : ofBodyStamp s h e = .ok r)
    (hrow : row ∈ r.stamps) :
    row.offset = e.offset ∧ Stamp.decode? e.text = .ok (some row.stamp) := by
  rcases ofBodyStamp_eq_ok.mp hr with ⟨-, rfl⟩ | ⟨st, hstamp, ⟨-, rfl⟩ | ⟨-, rfl⟩⟩
  · cases hrow
  · cases hrow
  · cases List.mem_singleton.mp hrow
    exact ⟨rfl, hstamp⟩

theorem stamp_of_note {n : Note} (hrow : row ∈ (ofNote s h n).stamps) :
    n.oldStamp = some (row.offset, row.stamp) ∧
      ⟨row.file, n.offset, row.offset⟩ ∈ (ofNote s h n).planningChanges := by
  rcases ofNote_cases s h n with ⟨-, he⟩ | ⟨-, -, he⟩ | ⟨pos, st, -, -, hst, he⟩ | ⟨-, -, -, he⟩ <;>
    rw [he] at hrow ⊢
  · cases hrow
  · cases hrow
  · cases List.mem_singleton.mp hrow
    exact ⟨hst, List.mem_singleton_self _⟩
  · cases hrow

/-- The row is that of the old timestamp of an item, and stands further back by its drift. -/
def Drifts (t : Text) (types : List NoteType) (entries : List Entry) (r : Rows) (row : StampRow) :
    Prop :=
  ∃ e ∈ entries, ∃ c, Note.Changes types e c ∧
    ⟨row.file, e.offset, row.offset⟩ ∈ r.planningChanges ∧
    0 < Note.drift e c ∧ t.StandsAt (row.offset + Note.drift e c) row.stamp.raw

theorem stands_or_drifts_note {t : Text} {e : Entry} {n : Note} {entries : List Entry}
    (hn : Note.ofEntry s.types e = .ok n) (he : e ∈ entries) (hkind : e.kind = .item)
    (hverbatim : e.Verbatim t) (hrow : row ∈ (ofNote s h n).stamps) :
    t.StandsAt row.offset row.stamp.raw ∨ Drifts t s.types entries (ofNote s h n) row := by
  obtain ⟨hold, hchange⟩ := stamp_of_note hrow
  obtain ⟨c, hc, -, k, hp, hplace⟩ := Note.has_oldStamp hn hold
  unfold Entry.Verbatim at hverbatim
  rw [hkind] at hverbatim
  have hstands : t.StandsAt (row.offset + Note.drift e c) row.stamp.raw := by
    have hinside := hverbatim.2.inside hplace
    have hsum : e.textOffset + ((k + Note.drift e c : Nat) : Int) =
        row.offset + Note.drift e c := by
      omega
    rwa [hsum] at hinside
  rcases Nat.eq_zero_or_pos (Note.drift e c) with hzero | hpos
  · left
    simpa [hzero] using hstands
  · right
    rw [Note.offset_ofEntry hn] at hchange
    exact ⟨e, he, c, hc, hchange, hpos, hstands⟩

theorem Drifts.mono {t : Text} {types : List NoteType} {entries : List Entry} {r' : Rows}
    (hd : Drifts t types entries r row) (hr : r.planningChanges ⊆ r'.planningChanges) :
    Drifts t types entries r' row := by
  obtain ⟨e, he, c, hc, hchange, hstands⟩ := hd
  exact ⟨e, he, c, hc, hr hchange, hstands⟩

theorem verbatim_logEntries {t : Text} {o : Options} (hh : h.Verbatim t) :
    ∀ e ∈ logEntries o h, e.Verbatim t := by
  unfold logEntries
  split
  · exact hh.looseEntries
  · rename_i name _
    cases hd : h.drawer? name with
    | none =>
      intro e he
      cases he
    | some d => exact hh.entries d (List.mem_of_find?_eq_some hd)

theorem stands_or_drifts {t : Text} (hh : h.Stamped t) (hr : ofHeading s h above = .ok r) :
    ∀ row ∈ r.stamps, t.StandsAt row.offset row.stamp.raw ∨
      Drifts t s.types (logEntries s.options h) r row := by
  obtain ⟨own, planning, stamps, log, -, hplanning, hstamps, hlog, rfl⟩ := ofHeading_eq_ok.mp hr
  intro row hrow
  obtain ⟨part, hpart, hrow⟩ := lists_stamps.mem_concat.mp hrow
  have hchanges : part.planningChanges ⊆ (concat _).planningChanges := fun x hx =>
    lists_planningChanges.mem_concat.mpr ⟨part, hpart, hx⟩
  simp only [List.cons_append, List.mem_cons, List.mem_append, List.mem_map, or_assoc] at hpart
  rcases hpart with rfl | ⟨p, -, rfl⟩ | hpart | hpart | ⟨x, hx, rfl⟩
  · cases hrow
  · unfold ofProperty at hrow
    split at hrow <;> cases hrow
  · left
    obtain ⟨p, hp, hpart⟩ := exists_of_mem_mapM hplanning hpart
    obtain ⟨hoffset, hst⟩ := stamp_of_planning hpart hrow
    rw [hoffset]
    exact (hh.planning p hp).standsAt (hh.verbatim.planning p hp) hst
  · left
    obtain ⟨e, he, hpart⟩ := exists_of_mem_mapM hstamps hpart
    obtain ⟨hoffset, hst⟩ := stamp_of_bodyStamp hpart hrow
    rw [hoffset]
    exact (hh.timestamps e he).standsAt (hh.verbatim.timestamps e he) hst
  · cases x with
    | clock c =>
      unfold ofRecord ofClock at hrow
      dsimp only at hrow
      split at hrow <;> cases hrow
    | note n =>
      obtain ⟨e, he, hkind, hn⟩ := LogRecord.exists_item hlog hx
      have hverbatim := verbatim_logEntries hh.verbatim e he
      have hstands := stands_or_drifts_note hn he hkind hverbatim hrow
      exact hstands.imp id fun hd => hd.mono hchanges

end Heading

variable {o : Options} {t file md5 : Text} {size : Option Int} {r : Rows}

/-- Timestamps stand in the text at the positions of their rows, except for old timestamps of
planning changes with white space in front of the header, the old value or the text in its quotes.
These stand behind that position by the number of white space characters there. -/
theorem stamps_stand (hr : ofOutline o (Outline.read o t) file md5 size = .ok r) :
    ∀ row ∈ r.stamps, t.StandsAt row.offset row.stamp.raw ∨
      ∃ h ∈ (Outline.read o t).headings,
        Drifts t (NoteType.all o.templates) (logEntries o h) r row := by
  obtain ⟨rows, hrows, rfl⟩ := ofOutline_eq_ok.mp hr
  intro row hrow
  obtain ⟨part, hpart, hrow⟩ := lists_stamps.mem_concat.mp hrow
  have hchanges : part.planningChanges ⊆ (concat _).planningChanges := fun x hx =>
    lists_planningChanges.mem_concat.mpr ⟨part, hpart, hx⟩
  rcases List.mem_cons.mp hpart with rfl | hpart
  · -- What belongs to the file as a whole has no timestamps.
    rw [lists_stamps.of_file fun _ _ _ => rfl] at hrow
    cases hrow
  · obtain ⟨⟨h, above⟩, hp, hpart⟩ := exists_of_mem_mapM hrows hpart
    have hh : h ∈ (Outline.read o t).headings := by
      rw [← Heading.map_fst_withAncestors [] (Outline.read o t).headings]
      exact List.mem_map_of_mem hp
    have hstands := stands_or_drifts (Outline.stamped_headings o t h hh) hpart row hrow
    exact hstands.imp id fun hd => ⟨h, hh, hd.mono hchanges⟩

/-- Four timestamps. That of the first note stands at the position of its row, and that of the
second one two characters further back. -/
theorem stamps_stand_rescheduled :
    let t : Text := ("* a\nSCHEDULED: <2024-01-01>\n:LOGBOOK:\n" ++
      "- Rescheduled from \"<2024-01-02>\" on [2024-01-03]\n" ++
      "- Rescheduled from \"  [2024-01-04]\" on [2024-01-05]\n:END:\n<2024-01-06>").toList
    ∃ r, ofOutline .default (Outline.read .default t) "a.org".toList [] none = .ok r ∧
      r.stamps.map (fun row => decide (t.StandsAt row.offset row.stamp.raw)) =
        [true, true, true, false] ∧
      ∀ row ∈ r.stamps, t.StandsAt row.offset row.stamp.raw ∨
        ∃ h ∈ (Outline.read .default t).headings,
          Drifts t (NoteType.all Options.default.templates) (logEntries .default h) r row := by
  intro t
  have h : ((ofOutline .default (Outline.read .default t) "a.org".toList [] none).map
      fun r => r.stamps.map fun row => decide (t.StandsAt row.offset row.stamp.raw)).toOption =
        some [true, true, true, false] := by
    decide +kernel
  obtain ⟨r, hr, hstand⟩ := exists_of_map h
  exact ⟨r, hr, hstand, stamps_stand hr⟩

/-- White space inside the quotes of an old value: the position of the row is that of the space. -/
theorem not_stands_quoted_space :
    let t : Text := "* a\n:LOGBOOK:\n- Rescheduled from \" [2024-01-02]\" on [2024-01-03]\n:END:\n".toList
    ∃ r, ofOutline .default (Outline.read .default t) "a.org".toList "md5".toList (some 71) = .ok r ∧
      ∃ row ∈ r.stamps, ¬t.StandsAt row.offset row.stamp.raw := by
  intro t
  have h : ((ofOutline .default (Outline.read .default t) "a.org".toList "md5".toList
      (some 71)).map fun r =>
        decide (∃ row ∈ r.stamps, ¬t.StandsAt row.offset row.stamp.raw)).toOption = some true := by
    decide +kernel
  obtain ⟨r, hr, hrow⟩ := exists_of_map h
  exact ⟨r, hr, of_decide_eq_true hrow⟩

end Rows

end OutlineTables
