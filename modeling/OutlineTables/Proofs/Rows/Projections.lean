import OutlineTables.Proofs.Rows.Keys
import OutlineTables.Proofs.Rows.Restrictions

/-!
What the options leave out. Main statement: the rows of a text under a restriction are a projection
of the rows that it has without it. Nothing else depends on a restriction: no tag that is passed
on, no effort and no classification of a logbook.
-/
namespace OutlineTables

namespace Rows

open Restriction

/-- A scope with its options changed. -/
def Scope.under (s : Scope) (f : Options → Options) : Scope := { s with options := f s.options }

variable {s : Scope} {h : Heading}

/-! Each part of the rows by itself. A part that the restriction does not concern keeps its rows. -/

theorem keep_ofProperty (c : Restriction) (s : Scope) (p : Property)
    {fileProperties : List FilePropertyRow} {headingProperties : List HeadingPropertyRow}
    (hfile : ∀ a ∈ fileProperties, a.property = p.offset)
    (hheading : ∀ a ∈ headingProperties, a.property = p.offset) :
    c.keep (ofProperty (s.under c.lift) p { fileProperties, headingProperties }) =
      ofProperty (s.under c.impose) p { fileProperties, headingProperties } := by
  cases c with
  | properties x =>
    by_cases hx : x.covers p.key = true
    · have hnofile : fileProperties.filter (fun a => a.property ∉ [p.offset]) = [] := by
        simpa using hfile
      have hnoheading : headingProperties.filter (fun a => a.property ∉ [p.offset]) = [] := by
        simpa using hheading
      simpa [ofProperty, Scope.under, lift, impose, Exclusion.covers_nothing, keep, append,
        propertiesUnder, hx] using And.intro hnofile hnoheading
    · simp [ofProperty, Scope.under, lift, impose, Exclusion.covers_nothing, keep, append,
        propertiesUnder, hx]
  | _ =>
    by_cases hx : s.options.excludedProperties.covers p.key = true
    · simp [ofProperty, Scope.under, lift, impose, hx, keep_empty]
    · simp [ofProperty, Scope.under, lift, impose, hx, keep, append]

theorem keep_ofPlanning (c : Restriction) {p : Planning} {r : Rows}
    (hr : ofPlanning (s.under c.lift) h p = .ok r) :
    ofPlanning (s.under c.impose) h p = .ok (c.keep r) := by
  rw [ofPlanning_eq_ok] at hr ⊢
  cases c with
  | planning x =>
    rcases hr with ⟨hnone, -⟩ | ⟨-, hst, rfl⟩ | ⟨st, -, hst, rfl⟩
    · cases hnone.symm.trans (Exclusion.covers_nothing p.kind)
    · cases hx : x.covers p.kind with
      | true => exact Or.inl ⟨hx, keep_empty _⟩
      | false => exact Or.inr (Or.inl ⟨hx, hst, keep_empty _⟩)
    · cases hx : x.covers p.kind with
      | true => exact Or.inl ⟨hx, by simp [keep, plannedRows, plannedUnder, hx]⟩
      | false =>
        have hkeep : (Restriction.planning x).keep (plannedRows s.file h p st) =
            plannedRows s.file h p st := by
          simp [keep, plannedRows, plannedUnder, hx]
        exact Or.inr (Or.inr ⟨st, hx, hst, hkeep⟩)
  | _ =>
    rcases hr with ⟨hx, rfl⟩ | ⟨hx, hst, rfl⟩ | ⟨st, hx, hst, rfl⟩
    · exact Or.inl ⟨hx, keep_empty _⟩
    · exact Or.inr (Or.inl ⟨hx, hst, keep_empty _⟩)
    · refine Or.inr (Or.inr ⟨st, hx, hst, ?_⟩)
      simp [keep, plannedRows, boundStamps, replacedUnder, Scope.under]

theorem keep_ofBodyStamp (c : Restriction) {e : Excerpt} {r : Rows}
    (hr : ofBodyStamp (s.under c.lift) h e = .ok r) :
    ofBodyStamp (s.under c.impose) h e = .ok (c.keep r) := by
  rw [ofBodyStamp_eq_ok] at hr ⊢
  rcases hr with ⟨hst, rfl⟩ | ⟨st, hst, hr⟩
  · exact Or.inl ⟨hst, c.keep_empty⟩
  · refine Or.inr ⟨st, hst, ?_⟩
    cases c with
    | bodyStamps x =>
      rcases hr with ⟨hnone, -⟩ | ⟨-, rfl⟩
      · cases hnone.symm.trans (Exclusion.covers_nothing (StampKind.ofActive st.active))
      · cases hx : x.covers (StampKind.ofActive st.active) with
        | true => exact Or.inl ⟨hx, by simp [keep, bodyRows, boundStamps, hx]⟩
        | false => exact Or.inr ⟨hx, by simp [keep, bodyRows, boundStamps, hx, Scope.under]⟩
    | _ =>
      rcases hr with ⟨hx, rfl⟩ | ⟨hx, rfl⟩
      · exact Or.inl ⟨hx, keep_empty _⟩
      · exact Or.inr ⟨hx, by simp [keep, bodyRows, plannedUnder, replacedUnder, Scope.under]⟩

theorem keep_ofClock (c : Restriction) (s : Scope) (h : Heading) (k : Clock) :
    c.keep (ofClock (s.under c.lift) h k) = ofClock (s.under c.impose) h k := by
  cases c with
  | clocks out =>
    cases out
    · rfl
    · simp [ofClock, Scope.under, lift, impose, keep]
  | clockNotes out =>
    by_cases hx : s.options.excludeClocks = true
    · cases out <;> simp [ofClock, Scope.under, lift, impose, keep, hx]
    · cases out <;> simp [ofClock, Scope.under, lift, impose, keep, hx]
  | _ =>
    by_cases hx : s.options.excludeClocks = true
    · simp [ofClock, Scope.under, lift, impose, hx, keep_empty]
    · simp [ofClock, Scope.under, lift, impose, hx, keep]

theorem keep_ofNote (c : Restriction) (s : Scope) (h : Heading) (n : Note) :
    c.keep (ofNote (s.under c.lift) h n) = ofNote (s.under c.impose) h n := by
  have hlift := ofNote_cases (s.under c.lift) h n
  cases c with
  | notes x =>
    have himpose : ofNote (s.under (Restriction.notes x).impose) h n =
        if x.covers n.type then {} else ofNote (s.under (Restriction.notes x).lift) h n := by
      cases hx : x.covers n.type <;>
        simp [ofNote, Scope.under, lift, impose, Exclusion.covers_nothing, hx]
    rw [himpose]
    rcases hlift with ⟨hnone, -⟩ | ⟨-, -, he⟩ | ⟨pos, st, -, -, -, he⟩ | ⟨-, -, -, he⟩
    · cases hnone.symm.trans (Exclusion.covers_nothing n.type)
    all_goals
      rw [he]
      cases hx : x.covers n.type <;>
        simp [keep, stateRows, changeRows, noteRow, notesUnder, replacedUnder, hx]
  | _ =>
    rcases hlift with ⟨-, he⟩ | ⟨-, -, he⟩ | ⟨pos, st, -, -, -, he⟩ | ⟨-, -, -, he⟩
    all_goals
      refine Eq.trans ?_ he.symm
      rw [he]
      simp [keep, stateRows, changeRows, boundStamps, plannedUnder]

theorem keep_ofRecord (c : Restriction) (s : Scope) (h : Heading) (x : LogRecord) :
    c.keep (ofRecord (s.under c.lift) h x) = ofRecord (s.under c.impose) h x := by
  cases x with
  | clock k => exact keep_ofClock c s h k
  | note n => exact keep_ofNote c s h n

theorem keep_ofTags (x : Exclusion Text) (s : Scope) (h : Heading) (above : List Heading) :
    (ofTags (s.under (Restriction.tags x).lift) h above).filter (fun a => !x.covers a.tag) =
      ofTags (s.under (Restriction.tags x).impose) h above := by
  unfold ofTags
  dsimp only
  rw [List.filter_filterMap]
  congr 1
  funext ⟨tag, isInherited⟩
  have hlift : ((s.under (Restriction.tags x).lift).options.excludedTags.covers tag) = false :=
    Exclusion.covers_nothing tag
  have himpose : (s.under (Restriction.tags x).impose).options.excludedTags = x := rfl
  dsimp only
  rw [hlift, himpose, if_neg Bool.false_ne_true]
  cases hx : x.covers tag <;> simp [hx, Scope.under]

theorem keep_ofLink (x : Exclusion Text) (s : Scope) (h : Heading) (e : Excerpt) :
    (ofLink (s.under (Restriction.links x).lift) h e).filter (fun a => !x.covers a.link.type) =
      ofLink (s.under (Restriction.links x).impose) h e := by
  unfold ofLink
  cases Link.ofText? e.text with
  | none => rfl
  | some l =>
    have hlift : ((s.under (Restriction.links x).lift).options.excludedLinks.covers l.type) = false :=
      Exclusion.covers_nothing l.type
    have himpose : (s.under (Restriction.links x).impose).options.excludedLinks = x := rfl
    dsimp only
    rw [hlift, himpose, if_neg Bool.false_ne_true]
    cases hx : x.covers l.type <;> simp [hx, Scope.under]

/-- The rows of a heading that come from no other part of it. -/
def ownRows (s : Scope) (h : Heading) (above : List Heading) (row : HeadingRow) : Rows where
  headings := [row]
  closures := ofAncestors s h above
  headingTags := ofTags s h above
  links := h.links.flatMap (ofLink s h)

theorem keep_ownRows (c : Restriction) (s : Scope) (h : Heading) (above : List Heading)
    (row : HeadingRow) :
    c.keep (ownRows (s.under c.lift) h above row) = ownRows (s.under c.impose) h above row := by
  cases c with
  | tags x =>
    have htags := keep_ofTags x s h above
    simp only [keep, ownRows, htags]
    rfl
  | links x =>
    have hlinks : (h.links.flatMap (ofLink (s.under (Restriction.links x).lift) h)).filter
        (fun a => !x.covers a.link.type) =
          h.links.flatMap (ofLink (s.under (Restriction.links x).impose) h) := by
      rw [List.filter_flatMap]
      exact List.flatMap_congr fun e _ => keep_ofLink x s h e
    simp only [keep, ownRows, hlinks]
    rfl
  | clocks out => cases out <;> rfl
  | clockNotes out => cases out <;> rfl
  | _ => rfl

/-! Each part refers to itself only. -/

theorem closed_ofProperty (s : Scope) (p : Property) {fileProperties : List FilePropertyRow}
    {headingProperties : List HeadingPropertyRow}
    (hfile : ∀ a ∈ fileProperties, a.property = p.offset)
    (hheading : ∀ a ∈ headingProperties, a.property = p.offset) :
    (ofProperty s p { fileProperties, headingProperties }).Closed := by
  have hhere {α : Type} {key : α → Int} {as : List α} (ha : ∀ a ∈ as, key a = p.offset) :
      as.map key ⊆ [p.offset] := by
    intro k hk
    obtain ⟨a, hm, rfl⟩ := List.mem_map.mp hk
    exact List.mem_singleton.mpr (ha a hm)
  have hfile := hhere hfile
  have hheading := hhere hheading
  rcases ofProperty_cases s p { fileProperties, headingProperties } with ⟨-, he⟩ | ⟨-, he⟩ <;> rw [he]
  · exact closed_of_nil rfl rfl rfl rfl rfl
  · constructor <;> simp [append, hfile, hheading]

theorem closed_ofPlanning {p : Planning} {r : Rows} (hr : ofPlanning s h p = .ok r) :
    r.Closed := by
  rcases ofPlanning_eq_ok.mp hr with ⟨-, rfl⟩ | ⟨-, -, rfl⟩ | ⟨st, -, -, rfl⟩
  · exact closed_of_nil rfl rfl rfl rfl rfl
  · exact closed_of_nil rfl rfl rfl rfl rfl
  · constructor <;> simp [plannedRows]

theorem closed_ofBodyStamp {e : Excerpt} {r : Rows} (hr : ofBodyStamp s h e = .ok r) :
    r.Closed := by
  rcases ofBodyStamp_eq_ok.mp hr with ⟨-, rfl⟩ | ⟨st, -, ⟨-, rfl⟩ | ⟨-, rfl⟩⟩ <;>
    exact closed_of_nil rfl rfl rfl rfl rfl

theorem closed_ofNote (s : Scope) (h : Heading) (n : Note) : (ofNote s h n).Closed := by
  rcases ofNote_cases s h n with ⟨-, he⟩ | ⟨-, -, he⟩ | ⟨pos, st, -, -, -, he⟩ | ⟨-, -, -, he⟩ <;>
    rw [he]
  · exact closed_of_nil rfl rfl rfl rfl rfl
  · constructor <;> simp [stateRows, noteRow]
  · constructor <;> simp [changeRows, noteRow]
  · exact closed_of_nil rfl rfl rfl rfl rfl

theorem closed_ofRecord (s : Scope) (h : Heading) (x : LogRecord) : (ofRecord s h x).Closed := by
  cases x with
  | clock k =>
    unfold ofRecord ofClock
    dsimp only
    split <;> exact closed_of_nil rfl rfl rfl rfl rfl
  | note n => exact closed_ofNote s h n

/-! The parts of a heading together. -/

/-- The rows of a heading part by part. -/
def parts (s : Scope) (h : Heading) (above : List Heading) (row : HeadingRow)
    (planning stamps : List Rows) (log : List LogRecord) : List Rows :=
  ownRows s h above row :: (h.properties.map fun p =>
      ofProperty s p { headingProperties := [⟨s.file, p.offset, h.offset⟩] }) ++
    planning ++ stamps ++ log.map (ofRecord s h)

theorem closed_parts {above : List Heading} {row : HeadingRow} {planning stamps : List Rows}
    (log : List LogRecord) (hp : h.planning.mapM (ofPlanning s h) = .ok planning)
    (hs : h.timestamps.mapM (ofBodyStamp s h) = .ok stamps) :
    ∀ r ∈ parts s h above row planning stamps log, r.Closed := by
  simp only [parts, List.forall_mem_append, List.forall_mem_cons, List.forall_mem_map]
  refine ⟨⟨⟨⟨closed_of_nil rfl rfl rfl rfl rfl, ?_⟩, ?_⟩, ?_⟩, ?_⟩
  · intro p _
    exact closed_ofProperty s p (List.forall_mem_nil _) (List.forall_mem_singleton.mpr rfl)
  · intro r hr
    obtain ⟨p, -, hpr⟩ := exists_of_mem_mapM hp hr
    exact closed_ofPlanning hpr
  · intro r hr
    obtain ⟨e, -, her⟩ := exists_of_mem_mapM hs hr
    exact closed_ofBodyStamp her
  · intro x _
    exact closed_ofRecord s h x

theorem keep_parts (c : Restriction) (s : Scope) (h : Heading) (above : List Heading)
    (row : HeadingRow) (planning stamps : List Rows) (log : List LogRecord) :
    (parts (s.under c.lift) h above row planning stamps log).map c.keep =
      parts (s.under c.impose) h above row (planning.map c.keep) (stamps.map c.keep) log := by
  have hproperties : (h.properties.map fun p => ofProperty (s.under c.lift) p
        { headingProperties := [⟨(s.under c.lift).file, p.offset, h.offset⟩] }).map c.keep =
      h.properties.map fun p => ofProperty (s.under c.impose) p
        { headingProperties := [⟨(s.under c.impose).file, p.offset, h.offset⟩] } := by
    rw [List.map_map]
    apply List.map_congr_left
    intro p _
    exact keep_ofProperty c s p (List.forall_mem_nil _) (List.forall_mem_singleton.mpr rfl)
  have hlog : (log.map (ofRecord (s.under c.lift) h)).map c.keep =
      log.map (ofRecord (s.under c.impose) h) := by
    rw [List.map_map]
    exact List.map_congr_left fun x _ => keep_ofRecord c s h x
  simp only [parts, List.map_append, List.map_cons, keep_ownRows, hproperties, hlog]

theorem closed_ofHeading {above : List Heading} {r : Rows} (hr : ofHeading s h above = .ok r) :
    r.Closed := by
  obtain ⟨row, planning, stamps, log, -, hp, hs, -, rfl⟩ := ofHeading_eq_ok.mp hr
  exact closed_concat (closed_parts log hp hs)

theorem keep_ofHeading (c : Restriction) {above : List Heading} {r : Rows} (hk : r.Keyed)
    (hr : ofHeading (s.under c.lift) h above = .ok r) :
    ofHeading (s.under c.impose) h above = .ok (c.keep r) := by
  obtain ⟨row, planning, stamps, log, hrow, hp, hs, hl, rfl⟩ := ofHeading_eq_ok.mp hr
  have hlog : LogRecord.classify (s.under c.impose).types
      (logEntries (s.under c.impose).options h) = .ok log := by
    rw [← hl]
    cases c <;> rfl
  have hkeep : c.keep (concat (parts (s.under c.lift) h above row planning stamps log)) =
      concat (parts (s.under c.impose) h above row (planning.map c.keep) (stamps.map c.keep)
        log) := by
    rw [← keep_parts]
    exact c.keep_concat (closed_parts log hp hs) hk
  exact ofHeading_eq_ok.mpr ⟨row, planning.map c.keep, stamps.map c.keep, log, hrow,
    mapM_eq_ok_map (fun _ _ _ => keep_ofPlanning c) hp,
    mapM_eq_ok_map (fun _ _ _ => keep_ofBodyStamp c) hs, hlog, hkeep.symm⟩

/-! The file and its headings together. -/

/-- The rows of a file that come from no property. -/
def ownFileRows (s : Scope) (md5 : Text) (size : Option Int) : Rows where
  files := [⟨s.file, md5, size⟩]
  fileTags := (s.fileTags.filter (!s.options.excludedTags.covers ·)).map (⟨s.file, ·⟩)

theorem keep_ownFileRows (c : Restriction) (s : Scope) (md5 : Text) (size : Option Int) :
    c.keep (ownFileRows (s.under c.lift) md5 size) = ownFileRows (s.under c.impose) md5 size := by
  cases c with
  | tags x =>
    simp [keep, ownFileRows, Scope.under, lift, impose, Exclusion.covers_nothing, List.filter_map,
      Function.comp_def]
  | clocks out => cases out <;> rfl
  | clockNotes out => cases out <;> rfl
  | _ => rfl

theorem closed_fileParts (s : Scope) (properties : List Property) (md5 : Text)
    (size : Option Int) :
    ∀ r ∈ ownFileRows s md5 size :: properties.map fun p =>
      ofProperty s p { fileProperties := [⟨s.file, p.offset⟩] }, r.Closed := by
  rw [List.forall_mem_cons]
  refine ⟨closed_of_nil rfl rfl rfl rfl rfl, List.forall_mem_map.mpr fun p _ => ?_⟩
  exact closed_ofProperty s p (List.forall_mem_singleton.mpr rfl) (List.forall_mem_nil _)

theorem keep_ofFile (c : Restriction) (s : Scope) (properties : List Property) (md5 : Text)
    (size : Option Int) (hk : (ofFile (s.under c.lift) properties md5 size).Keyed) :
    c.keep (ofFile (s.under c.lift) properties md5 size) =
      ofFile (s.under c.impose) properties md5 size := by
  have hproperties : (properties.map fun p => ofProperty (s.under c.lift) p
        { fileProperties := [⟨(s.under c.lift).file, p.offset⟩] }).map c.keep =
      properties.map fun p => ofProperty (s.under c.impose) p
        { fileProperties := [⟨(s.under c.impose).file, p.offset⟩] } := by
    rw [List.map_map]
    apply List.map_congr_left
    intro p _
    exact keep_ofProperty c s p (List.forall_mem_singleton.mpr rfl) (List.forall_mem_nil _)
  have hkeep := c.keep_concat (closed_fileParts (s.under c.lift) properties md5 size) hk
  rw [List.map_cons, hproperties, keep_ownFileRows] at hkeep
  exact hkeep

theorem keep_ofOutline (c : Restriction) {o : Options} {x : Outline} {file md5 : Text}
    {size : Option Int} {r : Rows} (hk : r.Keyed)
    (hr : ofOutline (c.lift o) x file md5 size = .ok r) :
    ofOutline (c.impose o) x file md5 size = .ok (c.keep r) := by
  obtain ⟨rows, hrows, rfl⟩ := ofOutline_eq_ok.mp hr
  let s := Scope.ofOptions o file (firsts x.tags)
  have hlift : Scope.ofOptions (c.lift o) file (firsts x.tags) = s.under c.lift := by
    cases c <;> rfl
  have himpose : Scope.ofOptions (c.impose o) file (firsts x.tags) = s.under c.impose := by
    cases c <;> rfl
  rw [hlift] at hrows hk ⊢
  obtain ⟨hfile, hheadings⟩ := List.forall_mem_cons.mp hk.of_concat
  have hclosed : ∀ r ∈ ofFile (s.under c.lift) x.properties md5 size :: rows, r.Closed := by
    refine List.forall_mem_cons.mpr ⟨closed_concat (closed_fileParts _ _ _ _), fun r hr => ?_⟩
    obtain ⟨p, -, hpr⟩ := exists_of_mem_mapM hrows hr
    exact closed_ofHeading hpr
  rw [ofOutline_eq_ok, himpose]
  refine ⟨rows.map c.keep, ?_, ?_⟩
  · exact mapM_eq_ok_map (fun p r hm => keep_ofHeading c (hheadings r hm)) hrows
  · rw [c.keep_concat hclosed hk, List.map_cons, keep_ofFile c s x.properties md5 size hfile]

/-- Rows that are read from a text refer to positions, of which none is used twice. -/
theorem keyed_ofText {o : Options} {t file md5 : Text} {size : Option Int} {r : Rows}
    (hr : ofOutline o (Outline.read o t) file md5 size = .ok r) : r.Keyed :=
  ⟨(owned_stamps hr).nodup, (owned_properties hr).nodup, (owned_notes hr).nodup⟩

/-- Under a restriction a text has the rows that are kept of those that it has without it. -/
theorem restricted_ofText (c : Restriction) {o : Options} {t file md5 : Text} {size : Option Int}
    {r : Rows} (hr : ofOutline (c.lift o) (Outline.read (c.lift o) t) file md5 size = .ok r) :
    ofOutline (c.impose o) (Outline.read (c.impose o) t) file md5 size = .ok (c.keep r) := by
  have hread : Outline.read (c.impose o) t = Outline.read (c.lift o) t := by
    cases c <;> rfl
  rw [hread]
  exact keep_ofOutline c (keyed_ofText hr) hr

/-- A note that is left out takes its old timestamp along, and leaves that of the planning line. -/
theorem restricted_ofText_rescheduled :
    let t : Text := ("* a\nSCHEDULED: <2024-01-01>\n:LOGBOOK:\n" ++
      "- Rescheduled from \"[2024-01-02]\" on [2024-01-03]\n:END:\n<2024-01-04>").toList
    let c : Restriction := .notes (.only ["reschedule".toList])
    ∃ r, ofOutline (c.lift .default) (Outline.read (c.lift .default) t) "a.org".toList [] none =
        .ok r ∧
      r.stamps.map (·.offset) = [16, 95, 59] ∧ (c.keep r).stamps.map (·.offset) = [16, 95] ∧
      ofOutline (c.impose .default) (Outline.read (c.impose .default) t) "a.org".toList [] none =
        .ok (c.keep r) := by
  intro t c
  have h : ((ofOutline (c.lift .default) (Outline.read (c.lift .default) t) "a.org".toList []
      none).map fun r => (r.stamps.map (·.offset), (c.keep r).stamps.map (·.offset))).toOption =
        some ([16, 95, 59], [16, 95]) := by
    decide +kernel
  obtain ⟨r, hr, hstamps⟩ := exists_of_map h
  exact ⟨r, hr, congrArg Prod.fst hstamps, congrArg Prod.snd hstamps, restricted_ofText c hr⟩

end Rows

end OutlineTables
