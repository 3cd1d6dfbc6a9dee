import OutlineTables.Proofs.Logbook.Legible

/-!
Records and neighbours. What an entry of a logbook becomes depends on the entry itself and on those
directly before and behind it. Main statement: the records of a logbook are what its entries become
between their neighbours.
-/
namespace OutlineTables

namespace Entry

/-- The clock of a clock line that has the form of one and a time. -/
def goodClock? (e : Entry) : Option Clock :=
  match e.kind with
  | .clock => (Clock.ofEntry? e).toOption.join
  | .item => none

/-- A list item of no type directly behind a good clock. -/
def isClockNote (types : List NoteType) (before : Option Entry) (e : Entry) : Bool :=
  e.kind = .item && (before.bind goodClock?).isSome &&
    (Note.ofEntry types e).toOption.any (·.type = NoteType.none)

/-- Entries, each with the one before it and the one behind it. -/
def neighbours (before : Option Entry) : List Entry → List (Option Entry × Entry × Option Entry)
  | [] => []
  | e :: es => (before, e, es.head?) :: neighbours (some e) es

variable {types : List NoteType} {before : Option Entry} {e : Entry}

theorem goodClock?_of_item (h : e.kind = .item) : e.goodClock? = none := by
  unfold goodClock?
  rw [h]

theorem goodClock?_of_clock (h : e.kind = .clock) {c : Option Clock}
    (hc : Clock.ofEntry? e = .ok c) : e.goodClock? = c := by
  unfold goodClock?
  rw [h, hc]
  exact Option.join_some

/-- A clock line has no note of its own. -/
theorem note_goodClock? {c : Clock} (h : e.goodClock? = some c) : c.note = none := by
  unfold goodClock? at h
  split at h
  · cases hc : Clock.ofEntry? e with
    | error f =>
      rw [hc] at h
      cases h
    | ok o =>
      rw [hc, Except.toOption, Option.join_some] at h
      subst h
      unfold Clock.ofEntry? at hc
      split at hc
      · cases hc
      · obtain ⟨s, -, hc⟩ := bind_eq_ok.mp hc
        obtain ⟨s', -, rfl⟩ := Option.map_eq_some_iff.mp (Except.ok.inj hc)
        rfl
  · cases h

theorem isClockNote_of_clock (h : e.kind = .clock) : e.isClockNote types before = false := by
  unfold isClockNote
  rw [h]
  rfl

theorem isClockNote_of_item (before : Option Entry) (h : e.kind = .item) {n : Note}
    (hn : Note.ofEntry types e = .ok n) :
    e.isClockNote types before =
      ((before.bind goodClock?).isSome && decide (n.type = NoteType.none)) := by
  unfold isClockNote
  rw [h, hn]
  rfl

end Entry

namespace LogRecord

/-- A clock that takes the entry behind it for its note, if that is a note of a clock. -/
def noted (types : List NoteType) (e : Entry) (behind : Option Entry) (c : Clock) : LogRecord :=
  clock { c with
    note := (behind.filter (·.isClockNote types (some e))).map fun n => Text.strip n.text }

/-- What an entry becomes between its neighbours: a good clock with its note, or an item that is the
note of no clock. -/
def between (types : List NoteType) (before : Option Entry) (e : Entry) (behind : Option Entry) :
    Option LogRecord :=
  match e.kind with
  | .clock => e.goodClock?.map (noted types e behind)
  | .item =>
    if e.isClockNote types before then none else (Note.ofEntry types e).toOption.map note

/-- What entries become between their neighbours, in their order. -/
def ofNeighbours (types : List NoteType) (before : Option Entry) (es : List Entry) :
    List LogRecord :=
  (Entry.neighbours before es).filterMap fun (before, e, behind) => between types before e behind

variable {types : List NoteType} {before behind : Option Entry} {e : Entry} {es : List Entry}
  {rs : List LogRecord}

theorem ofNeighbours_cons : ofNeighbours types before (e :: es) =
    (between types before e es.head?).toList ++ ofNeighbours types (some e) es := by
  unfold ofNeighbours
  rw [Entry.neighbours, List.filterMap_cons]
  dsimp only
  cases between types before e es.head? <;> rfl

/-- The record of the entry before, if that is a clock which waits for its note. -/
def ofWaiting (types : List NoteType) (before behind : Option Entry) : List LogRecord :=
  (before.bind fun e => e.goodClock?.map (noted types e behind)).toList

/-- A clock with no note of a clock behind it stays as it is. -/
theorem ofWaiting_eq (h : ∀ n ∈ behind, n.isClockNote types before = false) :
    ofWaiting types before behind = pending (before.bind Entry.goodClock?) := by
  unfold ofWaiting pending
  cases before with
  | none => rfl
  | some e =>
    rw [Option.bind_some, Option.bind_some]
    cases hc : e.goodClock? with
    | none => rfl
    | some c =>
      have hnone : behind.filter (·.isClockNote types (some e)) = none := by
        rw [Option.filter_eq_none_iff]
        exact fun n hn => ne_true_of_eq_false (h n hn)
      unfold noted
      rw [Option.map_some, hnone, Option.map_none, ← Entry.note_goodClock? hc]
      rfl

theorem ofWaiting_noted {c : Clock} (hc : before.bind Entry.goodClock? = some c)
    (h : e.isClockNote types before = true) :
    ofWaiting types before (some e) = [clock { c with note := some (Text.strip e.text) }] := by
  obtain ⟨b, rfl, hb⟩ := Option.bind_eq_some_iff.mp hc
  unfold ofWaiting noted
  rw [Option.bind_some, hb, Option.filter_some, if_pos h]
  rfl

/-- Between its neighbours a clock line is the clock that waits for its note. -/
theorem between_of_clock (h : e.kind = .clock) :
    (between types before e behind).toList = ofWaiting types (some e) behind := by
  unfold between
  rw [h]
  rfl

theorem between_of_item (h : e.kind = .item) {n : Note} (hn : Note.ofEntry types e = .ok n) :
    between types before e behind =
      if e.isClockNote types before then none else some (note n) := by
  unfold between
  rw [h, hn]
  rfl

theorem ofWaiting_of_item (h : e.kind = .item) : ofWaiting types (some e) behind = [] := by
  unfold ofWaiting
  rw [Option.bind_some, Entry.goodClock?_of_item h]
  rfl

/-- A clock line is the note of no clock, and its own record waits for the entry behind it. -/
theorem exists_behind_clock (h : e.kind = .clock)
    (hok : classifyAfter types (before.bind Entry.goodClock?) (e :: es) = .ok rs) :
    ∃ rs', classifyAfter types ((some e).bind Entry.goodClock?) es = .ok rs' ∧
      rs = ofWaiting types before (some e) ++ rs' := by
  rw [classifyAfter, h] at hok
  obtain ⟨c, hc, hok⟩ := bind_eq_ok.mp hok
  obtain ⟨rs', hrs, hok⟩ := bind_eq_ok.mp hok
  cases hok
  rw [← Entry.goodClock?_of_clock h hc] at hrs
  refine ⟨rs', hrs, ?_⟩
  rw [ofWaiting_eq]
  rintro n ⟨⟩
  exact Entry.isClockNote_of_clock h

/-- An item is the note of the clock that waits or has a record of its own, and nothing waits behind
it. -/
theorem exists_behind_item (h : e.kind = .item)
    (hok : classifyAfter types (before.bind Entry.goodClock?) (e :: es) = .ok rs) :
    ∃ rs', classifyAfter types ((some e).bind Entry.goodClock?) es = .ok rs' ∧
      rs = ofWaiting types before (some e) ++ ((between types before e es.head?).toList ++ rs') := by
  rw [classifyAfter, h] at hok
  obtain ⟨n, hn, hok⟩ := bind_eq_ok.mp hok
  have hnote := Entry.isClockNote_of_item before h hn
  rw [between_of_item h hn, Option.bind_some, Entry.goodClock?_of_item h]
  cases hwaiting : before.bind Entry.goodClock? with
  | none =>
    rw [hwaiting] at hok hnote
    obtain ⟨rs', hrs, hok⟩ := bind_eq_ok.mp hok
    cases hok
    have hno : e.isClockNote types before = false := hnote
    refine ⟨rs', hrs, ?_⟩
    rw [ofWaiting_eq (by simpa using hno), hwaiting, hno]
    rfl
  | some c =>
    rw [hwaiting] at hok hnote
    dsimp only at hok
    by_cases htype : n.type = NoteType.none
    · rw [if_pos htype] at hok
      obtain ⟨rs', hrs, hok⟩ := bind_eq_ok.mp hok
      cases hok
      have hyes : e.isClockNote types before = true := hnote.trans (by simpa using htype)
      refine ⟨rs', hrs, ?_⟩
      rw [ofWaiting_noted hwaiting hyes, hyes]
      rfl
    · rw [if_neg htype] at hok
      obtain ⟨rs', hrs, hok⟩ := bind_eq_ok.mp hok
      cases hok
      have hno : e.isClockNote types before = false := hnote.trans (by simpa using htype)
      refine ⟨rs', hrs, ?_⟩
      rw [ofWaiting_eq (by simpa using hno), hwaiting, hno]
      rfl

/-- Behind an entry that may be a waiting clock, the records are that of the clock and what the
entries become between their neighbours. -/
theorem classifyAfter_eq (before : Option Entry)
    (h : classifyAfter types (before.bind Entry.goodClock?) es = .ok rs) :
    rs = ofWaiting types before es.head? ++ ofNeighbours types before es := by
  induction es generalizing before rs with
  | nil =>
    cases h
    rw [ofWaiting_eq (by simp)]
    exact (List.append_nil _).symm
  | cons e es ih =>
    rw [ofNeighbours_cons, List.head?_cons]
    -- Each entry ends the waiting of the one before it.
    cases hkind : e.kind with
    | clock =>
      obtain ⟨rs', hrs, rfl⟩ := exists_behind_clock hkind h
      rw [between_of_clock hkind, ← ih (some e) hrs]
    | item =>
      obtain ⟨rs', hrs, rfl⟩ := exists_behind_item hkind h
      have hrest := ih (some e) hrs
      rw [ofWaiting_of_item hkind, List.nil_append] at hrest
      rw [hrest]

/-- Entries that can be read become their records one by one, each between its neighbours. -/
theorem classify_eq_ok_iff : classify types es = .ok rs ↔
    (∀ e ∈ es, e.Legible types) ∧ rs = ofNeighbours types none es := by
  have hlocal {rs : List LogRecord} (h : classify types es = .ok rs) :
      rs = ofNeighbours types none es := classifyAfter_eq none h
  constructor
  · intro h
    exact ⟨exists_classifyAfter_iff.mp ⟨rs, h⟩, hlocal h⟩
  · rintro ⟨hall, rfl⟩
    obtain ⟨rs, hrs⟩ := exists_classifyAfter_iff.mpr hall
    exact hlocal hrs ▸ hrs

end LogRecord

end OutlineTables
