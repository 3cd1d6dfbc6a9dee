import OutlineTables.Proofs.Logbook.OldStamps
import OutlineTables.Proofs.Outline.Parts

/-!
Positions in logbooks. The old timestamp of a note stands in the first line of its item, so records
have positions in the lines that their entries begin in.
-/
namespace OutlineTables

namespace Note

theorem covers_ofEntry {types : List NoteType} {e : Entry} {n : Note} {l : Line}
    (h : ofEntry types e = .ok n) (hk : e.kind = .item) (hl : e.BeginsIn l) :
    l.Covers n.offset ∧ ∀ p st, n.oldStamp = some (p, st) → l.Covers p := by
  refine ⟨offset_ofEntry h ▸ hl.offset, fun p st hold => ?_⟩
  obtain ⟨c, -, hne, k, rfl, hplace⟩ := has_oldStamp h hold
  -- The timestamp has characters behind its position, so the position is not behind the line.
  have hend := hplace.lt_length hne
  apply hl.text hk
  omega

end Note

theorem Clock.offset_ofEntry? {e : Entry} {c : Clock} (h : ofEntry? e = .ok (some c)) :
    c.offset = e.offset := by
  unfold ofEntry? at h
  split at h
  · cases h
  · obtain ⟨s, -, h⟩ := bind_eq_ok.mp h
    obtain ⟨s', -, rfl⟩ := Option.map_eq_some_iff.mp (Except.ok.inj h)
    rfl

namespace LogRecord

/-- The positions of a record in the line that its entry begins in. -/
structure Positions (positions : LogRecord → List Int) : Prop where
  clock : ∀ c l, l.Covers c.offset → Owned [l] (positions (clock c))
  note : ∀ n l, l.Covers n.offset → (∀ p st, n.oldStamp = some (p, st) → l.Covers p) →
    Owned [l] (positions (note n))

variable {types : List NoteType} {positions : LogRecord → List Int}

theorem owned_pending (hp : Positions positions) {waiting : Option Clock} {before : List Line}
    (hw : List.Forall₂ (fun c l => l.Covers c.offset) waiting.toList before) :
    Owned before ((pending waiting).flatMap positions) := by
  cases waiting with
  | none =>
    cases hw
    exact owned_nil []
  | some c =>
    cases hw with
    | cons hc hnil =>
      cases hnil
      have hclock := hp.clock c _ hc
      rwa [← List.flatMap_singleton (f := positions)] at hclock

/-- The entries that are left, behind a clock that may wait for its note. -/
theorem owned_classifyAfter (hp : Positions positions) {waiting : Option Clock}
    {es : List Entry} {before heads : List Line} {rs : List LogRecord}
    (hw : List.Forall₂ (fun c l => l.Covers c.offset) waiting.toList before)
    (hes : List.Forall₂ Entry.BeginsIn es heads) (ha : (before ++ heads).Pairwise Line.Apart)
    (h : classifyAfter types waiting es = .ok rs) :
    Owned (before ++ heads) (rs.flatMap positions) := by
  induction hes generalizing waiting before rs with
  | nil =>
    cases h
    rw [List.append_nil]
    exact owned_pending hp hw
  | @cons e l es heads he _ ih =>
    have hrest := (List.pairwise_append.mp ha).2.1
    have hlater {rs : List LogRecord} (hrs : classifyAfter types none es = .ok rs) :
        Owned heads (rs.flatMap positions) :=
      @ih none [] rs List.Forall₂.nil (List.pairwise_cons.mp hrest).2 hrs
    unfold classifyAfter at h
    split at h
    · obtain ⟨c, hc, h⟩ := bind_eq_ok.mp h
      obtain ⟨rs', hrs, h⟩ := bind_eq_ok.mp h
      cases h
      rw [List.flatMap_append]
      -- A clock: the one that waited has no note, and this one may wait for the next item.
      refine (owned_pending hp hw).append ?_ ha
      cases c with
      | none => exact (hlater hrs).mono (List.subset_cons_self l heads)
      | some c =>
        have hl : l.Covers c.offset := Clock.offset_ofEntry? hc ▸ he.offset
        exact @ih (some c) [l] rs' (List.Forall₂.cons hl List.Forall₂.nil) hrest hrs
    · rename_i hk
      obtain ⟨n, hn, h⟩ := bind_eq_ok.mp h
      obtain ⟨hoffset, hold⟩ := Note.covers_ofEntry hn hk he
      have hnote := hp.note n l hoffset hold
      cases waiting with
      | none =>
        cases hw
        obtain ⟨rs', hrs, h⟩ := bind_eq_ok.mp h
        cases h
        rw [List.flatMap_cons]
        exact hnote.append (hlater hrs) hrest
      | some c =>
        obtain ⟨l', before', hc, hnil, rfl⟩ := List.forall₂_cons_left_iff.mp hw
        cases hnil
        dsimp only at h
        split at h
        · obtain ⟨rs', hrs, h⟩ := bind_eq_ok.mp h
          cases h
          -- The item is the note of the clock, and no record of its own.
          have hnoted := hp.clock { c with note := some (Text.strip e.text) } l' hc
          rw [List.flatMap_cons]
          exact hnoted.append ((hlater hrs).mono (List.subset_cons_self l heads)) ha
        · obtain ⟨rs', hrs, h⟩ := bind_eq_ok.mp h
          cases h
          rw [List.flatMap_cons, List.flatMap_cons]
          exact (hp.clock c l' hc).append (hnote.append (hlater hrs) hrest) ha

/-- The records of entries have positions in the lines that the entries begin in. -/
theorem owned_classify (hp : Positions positions) {es : List Entry} {heads : List Line}
    {rs : List LogRecord} (hes : List.Forall₂ Entry.BeginsIn es heads)
    (ha : heads.Pairwise Line.Apart) (h : classify types es = .ok rs) :
    Owned heads (rs.flatMap positions) :=
  @owned_classifyAfter _ _ hp none es [] heads rs List.Forall₂.nil hes ha h

end LogRecord

end OutlineTables
