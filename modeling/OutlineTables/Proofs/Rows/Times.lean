import OutlineTables.Proofs.Logbook.Records
import OutlineTables.Proofs.Rows.References
import OutlineTables.Proofs.Stamp.Times

/-!
Times in rows. Every time that the rows of an outline hold is a moment of a timestamp, so it lies
in the years 1 to 9999.
-/
namespace OutlineTables

open Calendar (InRange)

namespace Note

theorem inRange_loggedAt {cs : List Capture} {time : Option Int} (h : loggedAt cs = .ok time) :
    ∀ s, time = some s → InRange s := by
  induction cs with
  | nil =>
    cases h
    intro s hs
    cases hs
  | cons c cs ih =>
    unfold loggedAt at h
    split at h
    · obtain ⟨stamp, hstamp, h⟩ := bind_eq_ok.mp h
      cases stamp with
      | none => exact ih h
      | some st =>
        cases h
        rintro s ⟨⟩
        exact (Stamp.inRange_decode? hstamp).start
    · exact ih h

theorem inRange_stampOf {pos : Int} {c : Capture} {old : Option (Int × Stamp)}
    (h : stampOf pos c = .ok old) : ∀ p st, old = some (p, st) → st.InRange := by
  rintro p st rfl
  unfold stampOf at h
  split at h
  · obtain ⟨stamp, hstamp, h⟩ := bind_eq_ok.mp h
    obtain ⟨st', rfl, he⟩ := Option.map_eq_some_iff.mp (Except.ok.inj h)
    cases he
    exact Stamp.inRange_decode? hstamp
  · cases h

/-- The times of the note lie in the calendar. -/
structure Timed (n : Note) : Prop where
  logged : ∀ s, n.timeLogged = some s → InRange s
  old : ∀ p st, n.oldStamp = some (p, st) → st.InRange

theorem timed_ofCaptures {e : Entry} {type header : Text} {body : Option Text}
    {cs : List Capture} {n : Note} (h : ofCaptures e type header body cs = .ok n) : n.Timed := by
  unfold ofCaptures at h
  obtain ⟨time, htime, h⟩ := bind_eq_ok.mp h
  have hlogged := inRange_loggedAt htime
  dsimp only at h
  split at h
  · split at h
    · obtain ⟨stamp, hstamp, h⟩ := bind_eq_ok.mp h
      cases h
      exact ⟨hlogged, inRange_stampOf hstamp⟩
    · cases h
      exact ⟨hlogged, fun _ _ hold => nomatch hold⟩
  · cases h
    exact ⟨hlogged, fun _ _ hold => nomatch hold⟩

theorem timed_ofEntry {types : List NoteType} {e : Entry} {n : Note}
    (h : ofEntry types e = .ok n) : n.Timed := by
  unfold ofEntry at h
  dsimp only at h
  split at h <;> exact timed_ofCaptures h

end Note

/-- The times of the clock lie in the calendar. -/
structure Clock.Timed (c : Clock) : Prop where
  start : InRange c.start
  finish : ∀ s, c.finish = some s → InRange s

theorem Clock.timed_ofEntry? {e : Entry} {c : Clock} (h : ofEntry? e = .ok (some c)) :
    c.Timed := by
  unfold ofEntry? at h
  split at h
  · cases h
  · obtain ⟨stamp, hstamp, h⟩ := bind_eq_ok.mp h
    obtain ⟨st, rfl, rfl⟩ := Option.map_eq_some_iff.mp (Except.ok.inj h)
    have hrange := Stamp.inRange_decode? hstamp
    refine ⟨hrange.start, fun s hs => ?_⟩
    obtain ⟨m, hm, rfl⟩ := Option.map_eq_some_iff.mp hs
    exact hrange.finish m hm

namespace LogRecord

def Timed : LogRecord → Prop
  | clock c => c.Timed
  | note n => n.Timed

theorem timed_classify {types : List NoteType} {es : List Entry} {rs : List LogRecord}
    (h : classify types es = .ok rs) : ∀ x ∈ rs, x.Timed := by
  apply forall_classifyAfter (P := Timed) _ _ _ _ h
  · intro c hc
    cases hc
  · -- A clock keeps its times when it gets a note.
    intro c body hc
    exact ⟨hc.start, hc.finish⟩
  · intro e _ c hc
    exact Clock.timed_ofEntry? hc
  · intro e _ _ n hn
    exact Note.timed_ofEntry hn

end LogRecord

namespace Rows

/-- All times in the rows lie in the calendar. -/
structure Timed (r : Rows) : Prop where
  stamps : ∀ x ∈ r.stamps, x.stamp.InRange
  clocks : ∀ x ∈ r.clocks, InRange x.start ∧ ∀ s, x.finish = some s → InRange s
  notes : ∀ x ∈ r.notes, ∀ s, x.time = some s → InRange s

/-- Rows without clocks. -/
theorem timed_of_clocks {r : Rows} (hs : ∀ x ∈ r.stamps, x.stamp.InRange) (hc : r.clocks = [])
    (hn : ∀ x ∈ r.notes, ∀ s, x.time = some s → InRange s) : r.Timed := by
  refine ⟨hs, ?_, hn⟩
  rw [hc]
  exact List.forall_mem_nil _

/-- Rows without times. -/
theorem timed_of_nil {r : Rows} (hs : r.stamps = []) (hc : r.clocks = []) (hn : r.notes = []) :
    r.Timed := by
  refine timed_of_clocks ?_ hc ?_
  · rw [hs]
    exact List.forall_mem_nil _
  · rw [hn]
    exact List.forall_mem_nil _

/-- Rows of one timestamp. -/
theorem timed_of_stamp {r : Rows} {x : StampRow} (hs : r.stamps = [x]) (hc : r.clocks = [])
    (hn : r.notes = []) (hx : x.stamp.InRange) : r.Timed := by
  refine timed_of_clocks ?_ hc ?_
  · rw [hs]
    exact List.forall_mem_singleton.mpr hx
  · rw [hn]
    exact List.forall_mem_nil _

theorem Timed.append {a b : Rows} (ha : a.Timed) (hb : b.Timed) : (a.append b).Timed where
  stamps := List.forall_mem_append.mpr ⟨ha.stamps, hb.stamps⟩
  clocks := List.forall_mem_append.mpr ⟨ha.clocks, hb.clocks⟩
  notes := List.forall_mem_append.mpr ⟨ha.notes, hb.notes⟩

theorem timed_concat {rs : List Rows} (h : ∀ r ∈ rs, r.Timed) : (concat rs).Timed := by
  induction rs with
  | nil => exact timed_of_nil rfl rfl rfl
  | cons r rs ih =>
    exact (h r List.mem_cons_self).append (ih fun a ha => h a (List.mem_cons_of_mem r ha))

variable {s : Scope} {h : Heading} {r : Rows}

theorem timed_ofProperty {p : Property} {link : Rows} (hlink : link.Timed) :
    (ofProperty s p link).Timed := by
  unfold ofProperty
  split
  · exact timed_of_nil rfl rfl rfl
  · exact (timed_of_nil rfl rfl rfl).append hlink

theorem timed_ofPlanning {p : Planning} (hr : ofPlanning s h p = .ok r) : r.Timed := by
  rcases ofPlanning_eq_ok.mp hr with ⟨-, rfl⟩ | ⟨-, -, rfl⟩ | ⟨st, -, hstamp, rfl⟩
  · exact timed_of_nil rfl rfl rfl
  · exact timed_of_nil rfl rfl rfl
  · exact timed_of_stamp rfl rfl rfl (Stamp.inRange_decode? hstamp)

theorem timed_ofBodyStamp {e : Excerpt} (hr : ofBodyStamp s h e = .ok r) : r.Timed := by
  rcases ofBodyStamp_eq_ok.mp hr with ⟨-, rfl⟩ | ⟨st, hstamp, ⟨-, rfl⟩ | ⟨-, rfl⟩⟩
  · exact timed_of_nil rfl rfl rfl
  · exact timed_of_nil rfl rfl rfl
  · exact timed_of_stamp rfl rfl rfl (Stamp.inRange_decode? hstamp)

theorem timed_ofClock {c : Clock} (hc : c.Timed) : (ofClock s h c).Timed := by
  unfold ofClock
  split
  · exact timed_of_nil rfl rfl rfl
  · refine ⟨List.forall_mem_nil _, ?_, List.forall_mem_nil _⟩
    exact List.forall_mem_singleton.mpr ⟨hc.start, hc.finish⟩

theorem timed_ofNote {n : Note} (hn : n.Timed) : (ofNote s h n).Timed := by
  have hlogged : ∀ row ∈ [noteRow s.file h n], ∀ t, row.time = some t → InRange t :=
    List.forall_mem_singleton.mpr hn.logged
  rcases ofNote_cases s h n with ⟨-, he⟩ | ⟨-, -, he⟩ | ⟨pos, st, -, -, hst, he⟩ | ⟨-, -, -, he⟩ <;>
    rw [he]
  · exact timed_of_nil rfl rfl rfl
  · exact timed_of_clocks (List.forall_mem_nil _) rfl hlogged
  · exact timed_of_clocks (List.forall_mem_singleton.mpr (hn.old pos st hst)) rfl hlogged
  · exact timed_of_clocks (List.forall_mem_nil _) rfl hlogged

theorem timed_ofRecord {x : LogRecord} (hx : x.Timed) : (ofRecord s h x).Timed := by
  cases x with
  | clock c => exact timed_ofClock hx
  | note n => exact timed_ofNote hx

theorem timed_ofHeading {above : List Heading} (hr : ofHeading s h above = .ok r) : r.Timed := by
  obtain ⟨row, planning, stamps, log, -, hp, hs, hl, rfl⟩ := ofHeading_eq_ok.mp hr
  apply timed_concat
  intro a ha
  simp only [List.cons_append, List.mem_cons, List.mem_append, List.mem_map, or_assoc] at ha
  rcases ha with rfl | ⟨p, -, rfl⟩ | ha | ha | ⟨x, hx, rfl⟩
  · exact timed_of_nil rfl rfl rfl
  · exact timed_ofProperty (timed_of_nil rfl rfl rfl)
  · obtain ⟨p, -, hpa⟩ := exists_of_mem_mapM hp ha
    exact timed_ofPlanning hpa
  · obtain ⟨e, -, hea⟩ := exists_of_mem_mapM hs ha
    exact timed_ofBodyStamp hea
  · exact timed_ofRecord (LogRecord.timed_classify hl x hx)

theorem timed_ofOutline {o : Options} {x : Outline} {file md5 : Text} {size : Option Int}
    (hr : ofOutline o x file md5 size = .ok r) : r.Timed := by
  obtain ⟨rows, hrows, rfl⟩ := ofOutline_eq_ok.mp hr
  apply timed_concat
  intro a ha
  rcases List.mem_cons.mp ha with rfl | ha
  · refine timed_concat fun b hb => ?_
    rcases List.mem_cons.mp hb with rfl | hb
    · exact timed_of_nil rfl rfl rfl
    · obtain ⟨p, -, rfl⟩ := List.mem_map.mp hb
      exact timed_ofProperty (timed_of_nil rfl rfl rfl)
  · obtain ⟨p, -, hpa⟩ := exists_of_mem_mapM hrows ha
    exact timed_ofHeading hpa

end Rows

end OutlineTables
