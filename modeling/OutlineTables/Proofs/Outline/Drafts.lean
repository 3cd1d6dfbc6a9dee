import OutlineTables.Proofs.Outline.Concat
import OutlineTables.Proofs.Outline.Verbatim
import OutlineTables.Proofs.Text.Languages

/-!
Entries as they are written: clocks behind any indentation, and items whose bullets have one
indentation in common while their further lines are indented deeper. Main statement: what is written
is read back entry for entry, each at its position, and no line is left.
-/
namespace OutlineTables

namespace Text

variable {t : Text} {c : Char}

/-- An indentation is white space like any other. -/
theorem strip_append_of_gap {gap : Text} (hgap : ∀ c ∈ gap, isGap c = true) (t : Text) :
    strip (gap ++ t) = strip t := by
  unfold strip trim
  rw [List.dropWhile_append_of_pos fun c hc => isBlank_of_isGap (hgap c hc)]

theorem strip_cons (hc : isBlank c = false) (t : Text) : strip (c :: t) = stripEnd (c :: t) := by
  rw [strip, trim, List.dropWhile_cons_of_neg (ne_true_of_eq_false hc)]
  rfl

/-- A text without white space at its ends begins with a character of another kind. -/
theorem isBlank_head_of_strip (h : strip t = t) : ∀ c ∈ t.head?, isBlank c = false := by
  cases t with
  | nil => simp
  | cons d t =>
    rintro _ ⟨⟩
    apply eq_false_of_ne_true
    intro hd
    -- Without its first character the text is too short to be the whole.
    have hstripped : ((t.dropWhile isBlank).rdropWhile isBlank).length = t.length + 1 := by
      rw [strip, trim, List.dropWhile_cons_of_pos hd, trimEnd_eq_rdropWhile] at h
      rw [h, List.length_cons]
    have hend := (List.rdropWhile_prefix isBlank (t.dropWhile isBlank)).length_le
    have hstart := (List.dropWhile_sublist isBlank (l := t)).length_le
    omega

/-- What a line says stands behind its indentation. -/
theorem indent_append {g w : Text} (hgap : ∀ c ∈ g, isGap c = true)
    (hw : ∀ c ∈ w.head?, isGap c = false) :
    indent (g ++ w) = g.length ∧ (g ++ w).dropWhile isGap = w := by
  obtain ⟨htake, hdrop⟩ := takeWhile_append_stop hgap hw
  exact ⟨congrArg List.length htake, hdrop⟩

/-- A line more goes either to the first text or behind it. -/
theorem join_cons_cons (sep : Text) (p q : Text) (ps : List Text) :
    join sep (p :: q :: ps) = join sep ((p ++ (sep ++ q)) :: ps) := by
  cases ps with
  | nil => simp [join]
  | cons r ps => simp [join]

end Text

/-- A further line of an item: its indentation and what it says. -/
structure NoteLine where
  gap : Text
  text : Text
deriving DecidableEq, Repr

namespace NoteLine

open Text

def written (x : NoteLine) : Text := x.gap ++ x.text

/-- The line is indented deeper than `n`, is not blank and begins no clock. -/
structure Fits (n : Nat) (x : NoteLine) : Prop where
  gap : ∀ c ∈ x.gap, isGap c = true
  deeper : n < x.gap.length
  nonblank : isBlankLine x.text = false
  stripped : strip x.text = x.text
  noClock : ¬"CLOCK:".toList <+: x.text

end NoteLine

/-- An entry as it is written: an indentation, and then a clock, or a bullet with a header and the
further lines of the item. -/
inductive Draft where
  | clock (gap text : Text)
  | item (gap : Text) (bullet : Char) (header : Text) (notes : List NoteLine)
deriving DecidableEq, Repr

namespace Draft

open Text

def lines : Draft → List Text
  | clock gap text => [gap ++ text]
  | item gap bullet header notes =>
    (gap ++ bullet :: ' ' :: header) :: notes.map NoteLine.written

/-- The entry of a draft whose first character is at `pos`. -/
def entry (pos : Int) : Draft → Entry
  | clock gap text => ⟨.clock, pos + gap.length, pos + gap.length, text⟩
  | item gap _ header notes =>
    ⟨.item, pos + gap.length, pos + gap.length + 2, join ['\n'] (header :: notes.map (·.text))⟩

/-- The entries of drafts one behind the other; each begins behind the line feed of the one before
it. -/
def entries : Int → List Draft → List Entry
  | _, [] => []
  | pos, d :: ds => d.entry pos :: entries (pos + (join ['\n'] d.lines).length + 1) ds

/-- The draft may stand among others whose bullets are indented by `n`. -/
inductive Fits (n : Nat) : Draft → Prop
  | clock {gap text : Text} (indented : ∀ c ∈ gap, isGap c = true)
      (word : "CLOCK:".toList <+: text) (trimmed : stripEnd text = text) : Fits n (clock gap text)
  | item {gap : Text} {bullet : Char} {header : Text} {notes : List NoteLine}
      (indented : ∀ c ∈ gap, isGap c = true) (column : gap.length = n)
      (mark : bullet = '-' ∨ bullet = '+') (start : ∀ c ∈ header.head?, isGap c = false)
      (trimmed : stripEnd header = header) (further : ∀ x ∈ notes, x.Fits n) :
      Fits n (item gap bullet header notes)

end Draft

namespace Entry

open Text

variable {stop : Text → Bool} {strict : Bool} {current : Open} {l : Line} {n : Nat} {e : Entry}

theorem readAll_nil : readAll stop strict current [] = (closeItem current, []) := by
  cases current <;> rfl

theorem readAll_clock (hstop : stop l.text = false) (h : clock? l = some e) (ls : List Line) :
    readAll stop strict current (l :: ls) =
      (closeItem current ++ e :: (readAll stop strict none ls).1,
        (readAll stop strict none ls).2) := by
  cases current <;> rw [readAll, hstop, if_neg Bool.false_ne_true, h]

theorem readAll_item (hstop : stop l.text = false) (hclock : clock? l = none)
    (h : sibling? current l = some (n, e)) (ls : List Line) :
    readAll stop strict current (l :: ls) =
      (closeItem current ++ (readAll stop strict (some (n, e)) ls).1,
        (readAll stop strict (some (n, e)) ls).2) := by
  cases current <;> rw [readAll, hstop, if_neg Bool.false_ne_true, hclock, h]

theorem readAll_deeper (hstop : stop l.text = false) (hclock : clock? l = none)
    (hitem : sibling? (some (n, e)) l = none) (hnonblank : isBlankLine l.text = false)
    (hdeeper : n < indent l.text) (ls : List Line) :
    readAll stop strict (some (n, e)) (l :: ls) =
      readAll stop strict (some (n, e.extend l.text)) ls := by
  rw [readAll, hstop, if_neg Bool.false_ne_true, hclock, hitem]
  dsimp only
  rw [hnonblank, Bool.not_false, Bool.true_and, if_pos (decide_eq_true hdeeper)]

/-- A bullet that is not deeper than the one of the current item begins an item. -/
theorem sibling?_of_le (h : item? l = some (n, e)) (hle : ∀ item ∈ current, n ≤ item.1) :
    sibling? current l = some (n, e) := by
  unfold sibling?
  rw [h]
  cases current with
  | none => rfl
  | some item => exact if_pos (hle item rfl)

theorem indent_of_item (h : item? l = some (n, e)) : n = indent l.text := by
  unfold item? at h
  split at h
  · cases h
  · split at h
    · split at h
      · cases h
        rfl
      · split at h
        · cases h
          rfl
        · cases h
    · cases h

end Entry

namespace NoteLine

open Text Entry

variable {n : Nat} {x : NoteLine} {pos : Int} {e : Entry}

theorem Fits.indent (h : x.Fits n) :
    indent x.written = x.gap.length ∧ x.written.dropWhile isGap = x.text :=
  indent_append h.gap fun c hc => isGap_of_not_isBlank (isBlank_head_of_strip h.stripped c hc)

theorem Fits.clock? (h : x.Fits n) : clock? ⟨pos, x.written⟩ = none := by
  unfold Entry.clock?
  rw [h.indent.2, if_neg]
  rw [isSome_after?_iff]
  exact h.noClock

/-- A bullet in a further line begins no item. -/
theorem Fits.sibling? (h : x.Fits n) : sibling? (some (n, e)) ⟨pos, x.written⟩ = none := by
  unfold Entry.sibling?
  cases hitem : item? ⟨pos, x.written⟩ with
  | none => rfl
  | some item =>
    obtain ⟨m, e'⟩ := item
    have hm : m = x.gap.length := (indent_of_item hitem).trans h.indent.1
    have hdeeper := h.deeper
    exact if_neg (by omega)

theorem Fits.isBlankLine_written (h : x.Fits n) : isBlankLine x.written = false := by
  obtain ⟨c, hc, hblank⟩ := List.all_eq_false.mp h.nonblank
  exact List.all_eq_false.mpr ⟨c, List.mem_append_right x.gap hc, hblank⟩

/-- The further lines of an item go behind its header. -/
theorem readAll_written {notes : List NoteLine} (h : ∀ x ∈ notes, x.Fits n) {stop : Text → Bool}
    (hstop : ∀ t ∈ notes.map written, stop t = false) (strict : Bool) (ls : List Line) :
    readAll stop strict (some (n, e)) (Line.numbered pos (notes.map written) ++ ls) =
      readAll stop strict
        (some (n, { e with text := join ['\n'] (e.text :: notes.map (·.text)) })) ls := by
  -- The text that is carried on has the lines so far.
  induction notes generalizing e pos with
  | nil => rfl
  | cons x notes ih =>
    obtain ⟨hx, hnotes⟩ := List.forall_mem_cons.mp h
    rw [List.map_cons, List.forall_mem_cons] at hstop
    have hdeeper : n < Text.indent x.written := hx.indent.1 ▸ hx.deeper
    rw [List.map_cons, Line.numbered, List.cons_append,
      readAll_deeper hstop.1 hx.clock? hx.sibling? hx.isBlankLine_written hdeeper,
      ih hnotes hstop.2, List.map_cons, join_cons_cons]
    unfold Entry.extend written
    rw [strip_append_of_gap hx.gap, hx.stripped]
    rfl

end NoteLine

namespace Draft

open Text Entry

variable {n : Nat} {gap text header : Text} {bullet : Char} {pos : Int}

theorem clock?_written (hgap : ∀ c ∈ gap, isGap c = true) (hword : "CLOCK:".toList <+: text)
    (htrimmed : stripEnd text = text) :
    clock? ⟨pos, gap ++ text⟩ = some ((clock gap text).entry pos) := by
  obtain ⟨rest, rfl⟩ := hword
  have hC : isBlank 'C' = false := by decide
  have hstrip : strip ("CLOCK:".toList ++ rest) = "CLOCK:".toList ++ rest :=
    (strip_cons hC _).trans htrimmed
  obtain ⟨hindent, hdrop⟩ := indent_append (w := "CLOCK:".toList ++ rest) hgap (by simp; decide)
  unfold Entry.clock?
  dsimp only
  rw [hdrop, hindent, strip_append_of_gap hgap, hstrip, if_pos]
  · rfl
  · exact isSome_after?_iff.mpr (List.prefix_append _ _)

theorem indent_bullet (header : Text) (hgap : ∀ c ∈ gap, isGap c = true)
    (hbullet : bullet = '-' ∨ bullet = '+') :
    indent (gap ++ bullet :: ' ' :: header) = gap.length ∧
      (gap ++ bullet :: ' ' :: header).dropWhile isGap = bullet :: ' ' :: header := by
  refine indent_append hgap ?_
  rintro _ ⟨⟩
  rcases hbullet with rfl | rfl <;> rfl

theorem clock?_bullet (hgap : ∀ c ∈ gap, isGap c = true) (hbullet : bullet = '-' ∨ bullet = '+') :
    clock? ⟨pos, gap ++ bullet :: ' ' :: header⟩ = none := by
  unfold Entry.clock?
  dsimp only
  rw [(indent_bullet header hgap hbullet).2]
  rcases hbullet with rfl | rfl <;> rfl

theorem item?_bullet (pos : Int) (hgap : ∀ c ∈ gap, isGap c = true)
    (hbullet : bullet = '-' ∨ bullet = '+')
    (hstart : ∀ c ∈ header.head?, isGap c = false) (htrimmed : stripEnd header = header) :
    item? ⟨pos, gap ++ bullet :: ' ' :: header⟩ =
      some (gap.length, ⟨.item, pos + gap.length, pos + gap.length + 2, header⟩) := by
  obtain ⟨hindent, hdrop⟩ := indent_bullet header hgap hbullet
  obtain ⟨hspace, hheader⟩ := indent_append (g := [' ']) (List.all_eq_true.mp rfl) hstart
  have hmark : (bullet = '-' || bullet = '+') = true := by simpa using hbullet
  unfold Entry.item?
  dsimp only
  rw [hdrop, hindent]
  dsimp only
  have hgap : isGap ' ' = true := rfl
  rw [if_pos hmark, if_pos hgap]
  rw [List.singleton_append] at hspace hheader
  rw [hspace, hheader, htrimmed, List.length_singleton, Int.add_assoc _ 1]
  rfl

variable {ds : List Draft} {stop : Text → Bool}

/-- Drafts are read one behind the other. An item that is still read is indented like the others,
so the next bullet ends it. -/
theorem readAll_lines (h : ∀ d ∈ ds, d.Fits n) (hstop : ∀ t ∈ ds.flatMap lines, stop t = false)
    (strict : Bool) (current : Open) (hcurrent : ∀ item ∈ current, item.1 = n) (pos : Int) :
    readAll stop strict current (Line.numbered pos (ds.flatMap lines)) =
      (closeItem current ++ entries pos ds, []) := by
  induction ds generalizing current pos with
  | nil =>
    rw [List.flatMap_nil, Line.numbered, readAll_nil, entries, List.append_nil]
  | cons d ds ih =>
    obtain ⟨hd, hds⟩ := List.forall_mem_cons.mp h
    rw [List.flatMap_cons, List.forall_mem_append] at hstop
    have hne : d.lines ≠ [] := by cases d <;> exact List.cons_ne_nil _ _
    rw [List.flatMap_cons, Line.numbered_append pos hne]
    generalize hnext : pos + (join ['\n'] d.lines).length + 1 = next
    cases hd with
    | clock indented word trimmed =>
      -- Behind a clock no item is open, so bullets and clocks are read alike.
      have hline : stop (_ ++ _) = false := hstop.1 _ List.mem_cons_self
      rw [lines, Line.numbered, Line.numbered, List.singleton_append,
        readAll_clock hline (clock?_written indented word trimmed),
        ih hds hstop.2 none (by simp) next, entries, hnext]
      rfl
    | item indented column mark start trimmed further =>
      -- The item before has the same indentation, so the bullet is not one of its lines.
      subst column
      rw [lines, List.forall_mem_cons] at hstop
      have hsibling := sibling?_of_le (item?_bullet pos indented mark start trimmed)
        fun item hi => (hcurrent item hi).ge
      rw [lines, Line.numbered, List.cons_append,
        readAll_item hstop.1.1 (clock?_bullet indented mark) hsibling,
        NoteLine.readAll_written further hstop.1.2,
        ih hds hstop.2 _ (by simp) next, entries, hnext]
      rfl

/-- Drafts are read back as they are: one entry for each, with the text that was written, at its
position in every text that has these lines. -/
theorem readAll_drafts (h : ∀ d ∈ ds, d.Fits n) (hstop : ∀ t ∈ ds.flatMap lines, stop t = false)
    (strict : Bool) (pos : Int) :
    readAll stop strict none (Line.numbered pos (ds.flatMap lines)) = (entries pos ds, []) ∧
      ∀ t, (∀ l ∈ Line.numbered pos (ds.flatMap lines), l ∈ Line.ofText t) →
        ∀ e ∈ entries pos ds, e.Verbatim t := by
  have hread := readAll_lines h hstop strict none (by simp) pos
  refine ⟨hread, fun t ht e he => ?_⟩
  obtain ⟨heads, hheads, hsub⟩ :=
    Entry.exists_written stop strict (Line.numbered pos (ds.flatMap lines))
  rw [hread] at hheads hsub
  obtain ⟨l, hl, hwritten⟩ := exists_right_of_mem hheads he
  exact hwritten.verbatim (ht l (hsub.subset (List.mem_append_left _ hl)))

/-- A clock, an item with nested bullets and an empty header, and one behind a tab. -/
def mixed : List Draft :=
  [clock "\t ".toList "CLOCK: [2024-01-01 Mon 10:00]".toList,
    item [' '] '-' [] [⟨"   ".toList, "- [ ] nested".toList⟩, ⟨"\t ".toList, "+".toList⟩],
    item ['\t'] '+' "Note \\\\".toList []]

theorem fits_mixed : ∀ d ∈ mixed, d.Fits 1 := by
  have hnotes : ∀ x ∈ [⟨"   ".toList, "- [ ] nested".toList⟩, ⟨"\t ".toList, "+".toList⟩],
      NoteLine.Fits 1 x := by
    rw [List.forall_mem_cons, List.forall_mem_singleton]
    constructor
    · exact ⟨List.all_eq_true.mp rfl, by decide, by decide, by decide, by decide⟩
    · exact ⟨List.all_eq_true.mp rfl, by decide, by decide, by decide, by decide⟩
  unfold mixed
  rw [List.forall_mem_cons, List.forall_mem_cons, List.forall_mem_singleton]
  refine ⟨?_, ?_, ?_⟩
  · exact .clock (List.all_eq_true.mp rfl) (by decide) (by decide)
  · exact .item (List.all_eq_true.mp rfl) rfl (by decide) (by simp) (by decide) hnotes
  · exact .item (List.all_eq_true.mp rfl) rfl (by decide) (by simp; decide) (by decide) (by simp)

theorem readAll_mixed :
    (∀ d ∈ mixed, d.Fits 1) ∧ (∀ t ∈ mixed.flatMap lines, (fun _ => false) t = false) ∧
      readAll (fun _ => false) true none (Line.numbered 1 (mixed.flatMap lines)) =
        ([⟨.clock, 3, 3, "CLOCK: [2024-01-01 Mon 10:00]".toList⟩,
          ⟨.item, 34, 36, "\n- [ ] nested\n+".toList⟩, ⟨.item, 58, 60, "Note \\\\".toList⟩], []) ∧
      ∀ e ∈ entries 1 mixed, e.Verbatim (join ['\n'] (mixed.flatMap lines)) := by
  have hstop : ∀ t ∈ mixed.flatMap lines, (fun _ => false) t = false := fun _ _ => rfl
  obtain ⟨hread, hplaces⟩ := readAll_drafts fits_mixed hstop true 1
  have hentries : entries 1 mixed = [⟨.clock, 3, 3, "CLOCK: [2024-01-01 Mon 10:00]".toList⟩,
      ⟨.item, 34, 36, "\n- [ ] nested\n+".toList⟩, ⟨.item, 58, 60, "Note \\\\".toList⟩] := by decide
  exact ⟨fits_mixed, hstop, hentries ▸ hread, hplaces _ (by decide)⟩

end Draft

end OutlineTables
