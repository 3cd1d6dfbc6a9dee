import OutlineTables.Logbook.Record
import OutlineTables.Proofs.Success

/-!
Records and the entries that they are made of. A record is the clock of a clock line, maybe with a
note, or the note of a list item.
-/
namespace OutlineTables

namespace LogRecord

variable {types : List NoteType} {es : List Entry} {rs : List LogRecord}

/-- What holds of the clocks and notes of the entries holds of all records, unless it depends on
the notes of clocks. -/
theorem forall_classifyAfter {P : LogRecord → Prop} {waiting : Option Clock}
    (hwaiting : ∀ c, waiting = some c → P (clock c))
    (hnoted : ∀ c body, P (clock c) → P (clock { c with note := some body }))
    (hclock : ∀ e ∈ es, ∀ c, Clock.ofEntry? e = .ok (some c) → P (clock c))
    (hnote : ∀ e ∈ es, e.kind = .item → ∀ n, Note.ofEntry types e = .ok n → P (note n))
    (h : classifyAfter types waiting es = .ok rs) : ∀ x ∈ rs, P x := by
  have hpending {waiting : Option Clock} (hw : ∀ c, waiting = some c → P (clock c)) :
      ∀ x ∈ pending waiting, P x := by
    intro x hx
    obtain ⟨c, hc, rfl⟩ := Option.map_eq_some_iff.mp (Option.mem_toList.mp hx)
    exact hw c hc
  -- Induction on the entries, for every clock that may wait.
  induction es generalizing waiting rs with
  | nil =>
    cases h
    exact hpending hwaiting
  | cons e es ih =>
    obtain ⟨hclockOne, hclocks⟩ := List.forall_mem_cons.mp hclock
    obtain ⟨hnoteOne, hnotes⟩ := List.forall_mem_cons.mp hnote
    have hrest {next : Option Clock} {rs' : List LogRecord}
        (hw : ∀ c, next = some c → P (clock c))
        (hrs : classifyAfter types next es = .ok rs') : ∀ x ∈ rs', P x :=
      ih hw hclocks hnotes hrs
    have hnone : ∀ c : Clock, none = some c → P (clock c) := fun _ hc => nomatch hc
    unfold classifyAfter at h
    split at h
    · obtain ⟨c, hc, h⟩ := bind_eq_ok.mp h
      obtain ⟨rs', hrs, h⟩ := bind_eq_ok.mp h
      cases h
      have hnext : ∀ c', c = some c' → P (clock c') := by
        rintro c' rfl
        exact hclockOne c' hc
      exact List.forall_mem_append.mpr ⟨hpending hwaiting, hrest hnext hrs⟩
    · rename_i hkind
      obtain ⟨n, hn, h⟩ := bind_eq_ok.mp h
      have hone := hnoteOne hkind n hn
      cases waiting with
      | none =>
        obtain ⟨rs', hrs, h⟩ := bind_eq_ok.mp h
        cases h
        exact List.forall_mem_cons.mpr ⟨hone, hrest hnone hrs⟩
      | some c =>
        have hwaits := hwaiting c rfl
        dsimp only at h
        split at h
        · obtain ⟨rs', hrs, h⟩ := bind_eq_ok.mp h
          cases h
          exact List.forall_mem_cons.mpr ⟨hnoted c _ hwaits, hrest hnone hrs⟩
        · obtain ⟨rs', hrs, h⟩ := bind_eq_ok.mp h
          cases h
          refine List.forall_mem_cons.mpr ⟨hwaits, ?_⟩
          exact List.forall_mem_cons.mpr ⟨hone, hrest hnone hrs⟩

/-- Every note is that of a list item. -/
theorem exists_item (h : classify types es = .ok rs) {n : Note} (hn : note n ∈ rs) :
    ∃ e ∈ es, e.kind = .item ∧ Note.ofEntry types e = .ok n := by
  let Read (x : LogRecord) : Prop :=
    ∀ n, x = note n → ∃ e ∈ es, e.kind = .item ∧ Note.ofEntry types e = .ok n
  have hall : ∀ x ∈ rs, Read x := by
    apply forall_classifyAfter (P := Read) _ _ _ _ h
    · intro c hc
      cases hc
    · intro c body _ n hn
      cases hn
    · intro e _ c _ n hn
      cases hn
    · rintro e he hkind n hn n' ⟨⟩
      exact ⟨e, he, hkind, hn⟩
  exact hall (note n) hn n rfl

end LogRecord

end OutlineTables
