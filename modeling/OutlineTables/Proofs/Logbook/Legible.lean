import OutlineTables.Logbook.Record
import OutlineTables.Proofs.Stamp.Suffixes

/-!
Logbook entries that are no fault. Entries are classified whatever they hold, unless one of the
timestamps that are looked for in them has a count that is too long.
-/
namespace OutlineTables

namespace Note

/-- Captured times, each of them legible if none before it is a timestamp. -/
def TimesLegible (cs : List Capture) : Prop :=
  ∀ before c after, cs.filter (·.hole.isTime) = before ++ c :: after →
    (∀ b ∈ before, Stamp.decode? b.text = .ok none) → Stamp.Legible c.text

theorem timesLegible_nil : TimesLegible [] := by
  intro before c after hsplit
  rw [List.filter_nil] at hsplit
  exact absurd hsplit.symm (List.append_ne_nil_of_right_ne_nil _ (List.cons_ne_nil _ _))

theorem timesLegible_cons {c : Capture} {cs : List Capture} (h : c.hole.isTime = true) :
    TimesLegible (c :: cs) ↔
      Stamp.Legible c.text ∧ (Stamp.decode? c.text = .ok none → TimesLegible cs) := by
  have hfilter : (c :: cs).filter (·.hole.isTime) = c :: cs.filter (·.hole.isTime) :=
    List.filter_cons_of_pos h
  unfold TimesLegible
  rw [hfilter]
  constructor
  · intro hall
    refine ⟨hall [] c _ rfl fun b hb => absurd hb List.not_mem_nil, ?_⟩
    intro hnone before c' after hsplit hbefore
    apply hall (c :: before) c' after (by rw [hsplit, List.cons_append])
    exact List.forall_mem_cons.mpr ⟨hnone, hbefore⟩
  · rintro ⟨hc, hrest⟩ before c' after hsplit hbefore
    cases before with
    | nil =>
      cases hsplit
      exact hc
    | cons b before =>
      obtain ⟨rfl, hsplit'⟩ := List.cons.inj hsplit
      obtain ⟨hnone, hbefore⟩ := List.forall_mem_cons.mp hbefore
      exact hrest hnone before c' after hsplit' hbefore

theorem exists_loggedAt_iff {cs : List Capture} : (∃ t, loggedAt cs = .ok t) ↔ TimesLegible cs := by
  induction cs with
  | nil => exact ⟨fun _ => timesLegible_nil, fun _ => ⟨none, rfl⟩⟩
  | cons c cs ih =>
    unfold loggedAt
    by_cases htime : c.hole.isTime = true
    · -- The search goes on only behind a time that is no timestamp.
      rw [if_pos htime, timesLegible_cons htime, ← ih, ← Stamp.exists_decode?_iff, exists_bind_iff]
      constructor
      · rintro ⟨s, hs, hrest⟩
        refine ⟨⟨s, hs⟩, fun hnone => ?_⟩
        rw [hnone] at hs
        cases hs
        exact hrest
      · rintro ⟨⟨s, hs⟩, hrest⟩
        cases s with
        | none => exact ⟨none, hs, hrest hs⟩
        | some s => exact ⟨some s, hs, some s.start.seconds, rfl⟩
    · have hfilter : (c :: cs).filter (·.hole.isTime) = cs.filter (·.hole.isTime) :=
        List.filter_cons_of_neg htime
      have hskip : TimesLegible (c :: cs) ↔ TimesLegible cs := by
        unfold TimesLegible
        rw [hfilter]
      rw [if_neg htime, hskip]
      exact ih

theorem exists_stampOf_iff {pos : Int} {c : Capture} : (∃ s, stampOf pos c = .ok s) ↔
    ∀ t, (unquote c.text).1 = some t → Stamp.Legible t := by
  unfold stampOf
  obtain ⟨t, shift⟩ := unquote c.text
  refine exists_option_iff (fun hnone => ?_) fun t ht => ?_
  · subst hnone
    exact ⟨none, rfl⟩
  · subst ht
    exact (exists_bind_of_forall fun s => ⟨_, rfl⟩).trans Stamp.exists_decode?_iff

/-- Captures of a header that are no fault: the old value only counts where it is a planned date. -/
structure CapturesLegible (type : Text) (cs : List Capture) : Prop where
  times : TimesLegible cs
  old : ∀ c, firstOf .oldValue cs = some c → type ∈ NoteType.planningChanges →
    ∀ t, (unquote c.text).1 = some t → Stamp.Legible t

theorem CapturesLegible.of_nil (type : Text) : CapturesLegible type [] where
  times := timesLegible_nil
  old c hc := by cases hc

/-- A changed date is read as a stamp, and a changed state is not. -/
theorem reads_old_iff {type : Text} : (!decide (type = NoteType.state) &&
    Text.isIn type NoteType.planningChanges) = true ↔ type ∈ NoteType.planningChanges := by
  rw [Bool.and_eq_true, Text.isIn_iff, and_iff_right_iff_imp]
  intro hplanned
  have hstate : type ≠ NoteType.state := by
    intro he
    rw [he] at hplanned
    exact absurd hplanned (by decide)
  rw [decide_eq_false hstate]
  rfl

theorem exists_ofCaptures_iff {e : Entry} {type header : Text} {body : Option Text}
    {cs : List Capture} : (∃ n, ofCaptures e type header body cs = .ok n) ↔
      CapturesLegible type cs := by
  have hlegible : CapturesLegible type cs ↔ TimesLegible cs ∧ ∀ c, firstOf .oldValue cs = some c →
      type ∈ NoteType.planningChanges → ∀ t, (unquote c.text).1 = some t → Stamp.Legible t :=
    ⟨fun h => ⟨h.times, h.old⟩, fun h => ⟨h.1, h.2⟩⟩
  rw [hlegible, ← exists_loggedAt_iff]
  unfold ofCaptures
  refine exists_bind_and_iff fun time => ?_
  dsimp only
  refine exists_option_iff (fun hnone => ?_) fun c hc => ?_
  · rw [hnone]
    exact ⟨_, rfl⟩
  · rw [hc]
    dsimp only
    refine (exists_ite_iff ⟨_, rfl⟩).trans ?_
    rw [reads_old_iff, exists_bind_of_forall fun s => ⟨_, rfl⟩, exists_stampOf_iff]

/-- A list item is classified unless what its template captures is a fault. -/
theorem exists_ofEntry_iff {types : List NoteType} {e : Entry} :
    (∃ n, ofEntry types e = .ok n) ↔ ∀ ty cs,
      NoteType.match? types (split e.text).1 = some (ty, cs) → CapturesLegible ty.name cs := by
  unfold ofEntry
  obtain ⟨header, body⟩ := split e.text
  dsimp only
  rw [← Prod.forall (p := fun p => NoteType.match? types header = some p →
    CapturesLegible p.1.name p.2)]
  refine exists_option_iff (fun hnone => ?_) fun p hp => ?_
  · -- An entry that fits no template has nothing captured.
    rw [hnone]
    exact exists_ofCaptures_iff.mpr (CapturesLegible.of_nil _)
  · rw [hp]
    exact exists_ofCaptures_iff

end Note

/-- An entry that is no fault, as a clock or as a list item. -/
def Entry.Legible (types : List NoteType) (e : Entry) : Prop :=
  match e.kind with
  | .clock => ∀ t, Clock.stampText? e.text = some t → Stamp.Legible t
  | .item => ∀ ty cs, NoteType.match? types (Note.split e.text).1 = some (ty, cs) →
      Note.CapturesLegible ty.name cs

theorem Clock.exists_ofEntry?_iff {e : Entry} : (∃ c, ofEntry? e = .ok c) ↔
    ∀ t, stampText? e.text = some t → Stamp.Legible t := by
  unfold ofEntry?
  refine exists_option_iff (fun hnone => ?_) fun t ht => ?_
  · rw [hnone]
    exact ⟨none, rfl⟩
  · rw [ht]
    exact (exists_bind_of_forall fun s => ⟨_, rfl⟩).trans Stamp.exists_decode?_iff

namespace LogRecord

theorem exists_classifyAfter_iff {types : List NoteType} {waiting : Option Clock}
    {es : List Entry} : (∃ rs, classifyAfter types waiting es = .ok rs) ↔
      ∀ e ∈ es, e.Legible types := by
  induction es generalizing waiting with
  | nil =>
    constructor
    · intro _ e he
      cases he
    · intro _
      exact ⟨_, rfl⟩
  | cons e es ih =>
    unfold classifyAfter
    rw [List.forall_mem_cons]
    unfold Entry.Legible
    cases e.kind with
    | clock =>
      dsimp only
      rw [← Clock.exists_ofEntry?_iff]
      refine exists_bind_and_iff fun c => ?_
      exact (exists_bind_of_forall fun rs => ⟨_, rfl⟩).trans ih
    | item =>
      dsimp only
      rw [← Note.exists_ofEntry_iff]
      refine exists_bind_and_iff fun n => ?_
      -- However the note and a waiting clock go together, the other entries are classified next.
      cases waiting with
      | none => exact (exists_bind_of_forall fun rs => ⟨_, rfl⟩).trans ih
      | some c =>
        dsimp only
        split
        · exact (exists_bind_of_forall fun rs => ⟨_, rfl⟩).trans ih
        · exact (exists_bind_of_forall fun rs => ⟨_, rfl⟩).trans ih

end LogRecord

end OutlineTables
