import OutlineTables.Proofs.Logbook.Legible
import OutlineTables.Proofs.Text.Places

/-!
Old timestamps of planning changes. Each of them stands in the first line of its item, behind the
position that is given for it by the white space that was trimmed on the way to it: in front of the
header, of the old value, and of what stands in the quotes.
-/
namespace OutlineTables

/-- A segment and what is left of the text make up the text. -/
theorem Part.append_of_choices {p : Part} {t w rest : Text} (h : (w, rest) ∈ p.choices t) :
    w ++ rest = t := by
  unfold Part.choices at h
  split at h
  · split at h
    · split at h
      · rename_i hc
        cases List.mem_singleton.mp h
        rw [hc]
        rfl
      · cases h
    · cases h
  · exact Text.append_of_runs (List.mem_of_mem_drop (List.mem_reverse.mp h))
  · exact Text.append_of_stamp? (Option.mem_toList.mp h)
  · exact Text.append_of_stamp? (Option.mem_toList.mp h)
  · exact Text.append_of_dateStamp? (Option.mem_toList.mp h)
  · exact Text.append_of_dateStamp? (Option.mem_toList.mp h)
  · exact Text.append_of_runs h
  · exact Text.append_of_runs h
  · exact Text.append_of_runs (List.mem_of_mem_drop (List.mem_reverse.mp h))
  · exact Text.append_of_runs (List.mem_of_mem_drop h)

/-- What a template captures from a header stands there. -/
theorem Template.exists_place {t : Template} {pos : Nat} {header : Text} {cs : List Capture}
    (h : t.matchFrom? pos header = some cs) {c : Capture} (hc : c ∈ cs) :
    ∃ n, c.start = pos + n ∧ header.Has n c.text := by
  -- Induction on the parts: each of them takes a segment, and the others match behind it.
  induction t generalizing pos header cs with
  | nil =>
    unfold matchFrom? at h
    split at h
    · cases h
      cases hc
    · cases h
  | cons p ps ih =>
    obtain ⟨⟨w, rest⟩, hw, h⟩ := List.exists_of_findSome?_eq_some h
    obtain ⟨cs', hcs', rfl⟩ := Option.map_eq_some_iff.mp h
    have hsplit := Part.append_of_choices hw
    have hrest (hc : c ∈ cs') : ∃ n, c.start = pos + n ∧ header.Has n c.text := by
      obtain ⟨n, hstart, hplace⟩ := ih hcs' hc
      refine ⟨w.length + n, by omega, ?_⟩
      rw [← hsplit]
      exact hplace.behind w
    split at hc
    · rcases List.mem_cons.mp hc with rfl | hc
      · exact ⟨0, rfl, Text.has_of_prefix ⟨rest, hsplit⟩⟩
      · exact hrest hc
    · exact hrest hc

theorem NoteType.has_capture {types : List NoteType} {header : Text} {ty : NoteType}
    {cs : List Capture} (h : match? types header = some (ty, cs)) {c : Capture} (hc : c ∈ cs) :
    header.Has c.start c.text := by
  obtain ⟨ty', -, h⟩ := List.exists_of_findSome?_eq_some h
  obtain ⟨cs', hcs', he⟩ := Option.map_eq_some_iff.mp h
  cases he
  obtain ⟨n, hstart, hplace⟩ := Template.exists_place hcs' hc
  rw [hstart, Nat.zero_add]
  exact hplace

/-- A timestamp keeps its text, white space at the ends aside, and the text is not empty. -/
theorem Stamp.raw_of_decode {raw : Text} {s : Stamp} (h : decode raw = .ok s) :
    s.raw = Text.strip raw ∧ s.raw ≠ [] := by
  obtain ⟨a, b, start, finish, p, hw, -, -, -, -, rfl⟩ := exists_of_decode h
  refine ⟨rfl, fun hempty => ?_⟩
  change Text.strip raw = [] at hempty
  rw [hempty] at hw
  cases hw

namespace Note

open Text

theorem has_cutBreak (t : Text) : t.Has (lead t) (cutBreak t) := by
  unfold cutBreak
  split
  · rename_i r hr
    -- Behind the white space in front comes the header, behind the header the two backslashes.
    have hend : stripEnd t = r.reverse ++ '\\' :: ['\\'] := by
      rw [← List.reverse_reverse (stripEnd t), hr]
      simp only [List.reverse_cons, List.append_assoc, List.cons_append, List.nil_append]
    obtain ⟨after, hafter⟩ := List.rdropWhile_prefix isBlank t
    have hsplit : r.reverse ++ '\\' :: ('\\' :: after) = t := by
      calc r.reverse ++ '\\' :: ('\\' :: after)
          = stripEnd t ++ after := by rw [hend]; simp
        _ = t := hafter
    have hlead : lead t = lead r.reverse := by
      rw [← hsplit]
      exact lead_append_cons (by decide) _ _
    have hfront : t.Has 0 r.reverse := has_of_prefix ⟨_, hsplit⟩
    have hplace := hfront.trans (has_strip r.reverse)
    rw [hlead]
    simpa only [Nat.zero_add] using hplace
  · exact has_strip t

theorem has_header (t : Text) :
    (cutAt '\n' t).1.Has (lead (cutAt '\n' t).1) (split t).1 := has_cutBreak _

/-- What is read from an old value, with the distance of its quote. -/
theorem has_unquote {t w : Text} {shift : Nat} (h : unquote t = (some w, shift)) :
    t.Has (lead t + shift) w := by
  have hnonempty {u : Text} (hu : nonempty? u = some w) : u = w := by
    unfold nonempty? at hu
    split at hu
    · cases hu
    · exact Option.some.inj hu
  have hstrip := has_strip t
  unfold unquote at h
  dsimp only at h
  split at h
  · rename_i c cs ht _
    obtain ⟨hw, rfl⟩ := Prod.mk.inj h
    have hw := hnonempty hw
    -- Between the quotes stands all but the first and the last character.
    have hinside : (strip t).Has 1 w := by
      refine ⟨['"'], [(c :: cs).getLast (List.cons_ne_nil c cs)], ?_, rfl⟩
      have hlast := List.dropLast_append_getLast (List.cons_ne_nil c cs)
      rw [← hw, ht, List.drop_one, List.tail_cons, List.append_assoc, hlast]
      rfl
    exact hstrip.trans hinside
  · obtain ⟨hw, rfl⟩ := Prod.mk.inj h
    rw [hnonempty hw] at hstrip
    exact hstrip

/-- How far the old timestamp in a value stands behind the position that is given for it. -/
def slip (c : Capture) : Nat := lead c.text + lead ((unquote c.text).1.getD [])

theorem has_stampOf {pos : Int} {c : Capture} {p : Int} {st : Stamp}
    (h : stampOf pos c = .ok (some (p, st))) :
    st.raw ≠ [] ∧ ∃ n : Nat, p = pos + c.start + n ∧ c.text.Has (n + slip c) st.raw := by
  unfold stampOf at h
  split at h
  · rename_i w shift hw
    obtain ⟨s, hs, h⟩ := bind_eq_ok.mp h
    obtain ⟨s', rfl, he⟩ := Option.map_eq_some_iff.mp (Except.ok.inj h)
    cases he
    obtain ⟨hraw, hne⟩ := Stamp.raw_of_decode (Stamp.decode?_eq_some_iff.mp hs)
    refine ⟨hne, shift, rfl, ?_⟩
    have hplace := (has_unquote hw).trans (has_strip w)
    have hcount : shift + slip c = lead c.text + shift + lead w := by
      unfold slip
      rw [hw, Option.getD_some]
      omega
    rw [hcount, hraw]
    exact hplace
  · cases h

/-- The old value that is captured from the header of an item whose type is a planning change. -/
def Changes (types : List NoteType) (e : Entry) (c : Capture) : Prop :=
  ∃ ty cs, NoteType.match? types (split e.text).1 = some (ty, cs) ∧
    ty.name ∈ NoteType.planningChanges ∧ firstOf .oldValue cs = some c

/-- How far the old timestamp of an item stands behind the position that is given for it. -/
def drift (e : Entry) (c : Capture) : Nat := lead (cutAt '\n' e.text).1 + slip c

/-- The first line of an item has the old timestamp of the item. -/
theorem has_oldStamp {types : List NoteType} {e : Entry} {n : Note} (h : ofEntry types e = .ok n)
    {p : Int} {st : Stamp} (hold : n.oldStamp = some (p, st)) :
    ∃ c, Changes types e c ∧ st.raw ≠ [] ∧ ∃ k : Nat, p = e.textOffset + k ∧
      (cutAt '\n' e.text).1.Has (k + drift e c) st.raw := by
  unfold ofEntry at h
  dsimp only at h
  split at h
  · rename_i ty cs hmatch
    unfold ofCaptures at h
    obtain ⟨time, -, h⟩ := bind_eq_ok.mp h
    dsimp only at h
    split at h
    · rename_i c hc
      split at h
      · rename_i hreads
        obtain ⟨stamp, hstamp, h⟩ := bind_eq_ok.mp h
        cases h
        dsimp only at hold
        subst hold
        obtain ⟨hne, k, hp, hplace⟩ := has_stampOf hstamp
        have hcapture := NoteType.has_capture hmatch (List.mem_of_find?_eq_some hc)
        have hline := ((has_header e.text).trans hcapture).trans hplace
        refine ⟨c, ⟨ty, cs, hmatch, reads_old_iff.mp hreads, hc⟩, hne, c.start + k, ?_, ?_⟩
        · rw [hp]
          omega
        · have hcount : c.start + k + drift e c =
              lead (cutAt '\n' e.text).1 + c.start + (k + slip c) := by
            unfold drift
            omega
          rw [hcount]
          exact hline
      · cases h
        cases hold
    · cases h
      cases hold
  · unfold ofCaptures at h
    cases h
    cases hold

theorem offset_ofEntry {types : List NoteType} {e : Entry} {n : Note}
    (h : ofEntry types e = .ok n) : n.offset = e.offset := by
  unfold ofEntry at h
  dsimp only at h
  have hcaptures {type header : Text} {body : Option Text} {cs : List Capture}
      (h : ofCaptures e type header body cs = .ok n) : n.offset = e.offset := by
    unfold ofCaptures at h
    obtain ⟨time, -, h⟩ := bind_eq_ok.mp h
    dsimp only at h
    split at h
    · split at h
      · obtain ⟨stamp, -, h⟩ := bind_eq_ok.mp h
        cases h
        rfl
      · cases h
        rfl
    · cases h
      rfl
  split at h
  · exact hcaptures h
  · exact hcaptures h

end Note

end OutlineTables
