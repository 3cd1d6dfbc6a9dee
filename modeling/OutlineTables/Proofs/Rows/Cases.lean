import OutlineTables.Proofs.Success
import OutlineTables.Rows.OfOutline

/-!
Everything that the parts of a heading can become. Each part is left out, is nothing that can be
read, or has the rows that are named here.
-/
namespace OutlineTables

namespace Rows

/-- The rows of a planning word with its timestamp. -/
def plannedRows (file : Text) (h : Heading) (p : Planning) (st : Stamp) : Rows where
  stamps := [⟨file, p.stamp.offset, h.offset, st⟩]
  planning := [⟨file, h.offset, p.kind, p.stamp.offset⟩]

/-- The rows of a timestamp in a body. -/
def bodyRows (file : Text) (h : Heading) (e : Excerpt) (st : Stamp) : Rows where
  stamps := [⟨file, e.offset, h.offset, st⟩]

def noteRow (file : Text) (h : Heading) (n : Note) : NoteRow :=
  ⟨file, n.offset, h.offset, n.type, n.timeLogged, n.header, n.body⟩

/-- The rows of a note of states. -/
def stateRows (file : Text) (h : Heading) (n : Note) : Rows where
  notes := [noteRow file h n]
  states := [⟨file, n.offset, n.oldState, n.newState⟩]

/-- The rows of a note with an old timestamp at a position. -/
def changeRows (file : Text) (h : Heading) (n : Note) (pos : Int) (st : Stamp) : Rows where
  notes := [noteRow file h n]
  stamps := [⟨file, pos, h.offset, st⟩]
  planningChanges := [⟨file, n.offset, pos⟩]

variable {s : Scope} {h : Heading} {r : Rows}

theorem ofProperty_cases (s : Scope) (p : Property) (link : Rows) :
    (s.options.excludedProperties.covers p.key = true ∧ ofProperty s p link = {}) ∨
      s.options.excludedProperties.covers p.key = false ∧ ofProperty s p link =
        Rows.append { properties := [⟨s.file, p.offset, p.key, p.value⟩] } link := by
  cases hx : s.options.excludedProperties.covers p.key with
  | false => exact Or.inr ⟨rfl, by simp [ofProperty, hx]⟩
  | true => exact Or.inl ⟨rfl, by simp [ofProperty, hx]⟩

theorem ofPlanning_eq_ok {p : Planning} : ofPlanning s h p = .ok r ↔
    (s.options.excludedPlanning.covers p.kind = true ∧ r = {}) ∨
    (s.options.excludedPlanning.covers p.kind = false ∧ Stamp.decode? p.stamp.text = .ok none ∧
      r = {}) ∨
    ∃ st, s.options.excludedPlanning.covers p.kind = false ∧
      Stamp.decode? p.stamp.text = .ok (some st) ∧ r = plannedRows s.file h p st := by
  unfold ofPlanning
  cases s.options.excludedPlanning.covers p.kind with
  | true => simp [@eq_comm _ r]
  | false =>
    rcases Stamp.decode? p.stamp.text with e | _ | st <;>
      simp [bind, Except.bind, @eq_comm _ r, plannedRows]

theorem ofBodyStamp_eq_ok {e : Excerpt} : ofBodyStamp s h e = .ok r ↔
    (Stamp.decode? e.text = .ok none ∧ r = {}) ∨
    ∃ st, Stamp.decode? e.text = .ok (some st) ∧
      ((s.options.excludedStamps.covers (StampKind.ofActive st.active) = true ∧ r = {}) ∨
      s.options.excludedStamps.covers (StampKind.ofActive st.active) = false ∧
        r = bodyRows s.file h e st) := by
  unfold ofBodyStamp
  rcases Stamp.decode? e.text with e | _ | st
  · simp [bind, Except.bind]
  · simp [bind, Except.bind, @eq_comm _ r]
  · cases hx : s.options.excludedStamps.covers (StampKind.ofActive st.active) <;>
      simp [bind, Except.bind, @eq_comm _ r, bodyRows, hx]

theorem ofNote_cases (s : Scope) (h : Heading) (n : Note) :
    (s.options.excludedNotes.covers n.type = true ∧ ofNote s h n = {}) ∨
    (s.options.excludedNotes.covers n.type = false ∧ n.type = NoteType.state ∧
      ofNote s h n = stateRows s.file h n) ∨
    (∃ pos st, s.options.excludedNotes.covers n.type = false ∧ n.type ≠ NoteType.state ∧
      n.oldStamp = some (pos, st) ∧ ofNote s h n = changeRows s.file h n pos st) ∨
    (s.options.excludedNotes.covers n.type = false ∧ n.type ≠ NoteType.state ∧
      n.oldStamp = none ∧ ofNote s h n = { notes := [noteRow s.file h n] }) := by
  unfold ofNote
  cases s.options.excludedNotes.covers n.type with
  | true => simp
  | false =>
    by_cases hs : n.type = NoteType.state
    · simp [hs, stateRows, noteRow]
    · rcases hst : n.oldStamp with _ | ⟨pos, st⟩ <;> simp [hs, changeRows, noteRow]

end Rows

end OutlineTables
