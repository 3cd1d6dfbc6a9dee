import OutlineTables.Outline.Reader
import OutlineTables.Proofs.Outline.Positions
import OutlineTables.Rows.OfOutline

/-!
The parts of an outline and the lines that they come from. No line is in two parts, and every entry
begins in a line of its own.
-/
namespace OutlineTables

namespace Text

theorem cutAt_append_mark (sep : Char) (s t : Text) :
    (cutAt sep (s ++ sep :: t)).1 = (cutAt sep s).1 := by
  induction s with
  | nil => simp [cutAt]
  | cons c s ih =>
    rw [List.cons_append, cutAt, cutAt]
    split
    · rfl
    · exact congrArg (c :: ·) ih

end Text

namespace Entry

/-- The line in which an entry begins. Of an item it also holds the first line of the text. -/
structure BeginsIn (e : Entry) (l : Line) : Prop where
  offset : l.Covers e.offset
  text : e.kind = .item → ∀ k < (Text.cutAt '\n' e.text).1.length, l.Covers (e.textOffset + k)

/-- An item as its line writes it: the bullet, and the first line of the text. -/
structure ItemIn (e : Entry) (l : Line) : Prop where
  kind : e.kind = .item
  bullet : l.Holds e.offset ['-'] ∨ l.Holds e.offset ['+']
  text : l.Holds e.textOffset (Text.cutAt '\n' e.text).1

/-- An entry as the line writes it in which it begins. -/
inductive WrittenIn (e : Entry) (l : Line) : Prop
  | clock (kind : e.kind = .clock) (text : l.Holds e.offset e.text) (nonempty : e.text ≠ [])
  | item (item : e.ItemIn l)

theorem WrittenIn.beginsIn {e : Entry} {l : Line} (h : e.WrittenIn l) : e.BeginsIn l := by
  cases h with
  | clock kind text nonempty =>
    refine ⟨text.covers nonempty, fun hk => ?_⟩
    rw [kind] at hk
    cases hk
  | item item =>
    have hbullet := item.bullet.elim (·.covers (by simp)) (·.covers (by simp))
    exact ⟨hbullet, fun _ k hk => item.text.covers_add hk⟩

theorem writtenIn_clock {e : Entry} {l : Line} (h : clock? l = some e) : e.WrittenIn l := by
  unfold clock? at h
  split at h
  · rename_i hword
    cases h
    obtain ⟨rest, hrest⟩ := Option.isSome_iff_exists.mp hword
    have hsplit := Text.append_of_after? hrest
    obtain ⟨htext, hne⟩ := Text.strip_of_dropWhile hsplit.symm (by decide)
    exact .clock rfl (Line.holds_behind_gap htext) hne
  · cases h

theorem itemIn_of_item {n : Nat} {e : Entry} {l : Line} (h : item? l = some (n, e)) :
    e.ItemIn l := by
  have hgap := List.takeWhile_append_dropWhile (p := Text.isGap) (l := l.text)
  unfold item? at h
  split at h
  · cases h
  · rename_i b t hb
    have hbullet : l.Holds (l.offset + Text.indent l.text) [b] :=
      Line.holds_behind_gap ⟨t, hb.symm⟩
    split at h
    · rename_i hmark
      have hmark : l.Holds (l.offset + Text.indent l.text) ['-'] ∨
          l.Holds (l.offset + Text.indent l.text) ['+'] := by
        rcases Bool.or_eq_true_iff.mp hmark with hm | hm
        · exact Or.inl (of_decide_eq_true hm ▸ hbullet)
        · exact Or.inr (of_decide_eq_true hm ▸ hbullet)
      split at h
      · cases h
        refine ⟨rfl, hmark, l.text, [], by simp [Text.cutAt], ?_⟩
        have hlength := congrArg List.length hgap
        rw [hb, List.length_append, List.length_singleton] at hlength
        unfold Text.indent
        dsimp only
        omega
      · split at h
        · rename_i c t _
          cases h
          -- Behind the bullet and its gap the line goes on with the text.
          obtain ⟨rest, hrest⟩ := (Text.cutAt_isPrefix '\n' _).trans
            (List.rdropWhile_prefix Text.isBlank ((c :: t).dropWhile Text.isGap))
          have htext := List.takeWhile_append_dropWhile (p := Text.isGap) (l := c :: t)
          refine ⟨rfl, hmark, l.text.takeWhile Text.isGap ++ b :: (c :: t).takeWhile Text.isGap,
            rest, ?_, ?_⟩
          · rw [← hrest] at htext
            rw [hb, ← htext] at hgap
            refine Eq.trans ?_ hgap
            simp [Text.stripEnd, Text.trimEnd_eq_rdropWhile]
          · simp only [Text.indent, List.length_append, List.length_cons]
            omega
        · cases h
    · cases h

theorem itemIn_of_sibling {current : Open} {n : Nat} {e : Entry} {l : Line}
    (h : sibling? current l = some (n, e)) : e.ItemIn l := by
  unfold sibling? at h
  split at h
  · rename_i hitem
    split at h
    · cases h
      exact itemIn_of_item hitem
    · cases h
  · exact itemIn_of_item h

/-- More lines change nothing in the first one. -/
theorem ItemIn.extend {e : Entry} {l : Line} (h : e.ItemIn l) (t : Text) :
    (e.extend t).ItemIn l := by
  refine ⟨h.kind, h.bullet, ?_⟩
  unfold Entry.extend
  dsimp only
  rw [Text.cutAt_append_mark]
  exact h.text

/-- The lines in which entries begin, with the lines that are left, are lines in their order. -/
theorem exists_written_readAll (stop : Text → Bool) (strict : Bool) {current : Open}
    {before : List Line} (hb : List.Forall₂ ItemIn (closeItem current) before)
    (ls : List Line) : ∃ heads,
      List.Forall₂ WrittenIn (readAll stop strict current ls).1 (before ++ heads) ∧
        (heads ++ (readAll stop strict current ls).2).Sublist ls := by
  have hend {current : Open} {before ls : List Line}
      (hb : List.Forall₂ ItemIn (closeItem current) before) : ∃ heads,
      List.Forall₂ WrittenIn (closeItem current) (before ++ heads) ∧ (heads ++ ls).Sublist ls :=
    ⟨[], by rw [List.append_nil]; exact hb.imp fun _ _ => .item, List.Sublist.refl ls⟩
  induction ls generalizing current before with
  | nil => exact hend hb
  | cons l ls ih =>
    have hpass {current : Open} (hb : List.Forall₂ ItemIn (closeItem current) before) :
        ∃ heads, List.Forall₂ WrittenIn (readAll stop strict current ls).1 (before ++ heads) ∧
          (heads ++ (readAll stop strict current ls).2).Sublist (l :: ls) := by
      obtain ⟨heads, hheads, hsub⟩ := ih hb
      exact ⟨heads, hheads, hsub.cons l⟩
    unfold readAll
    split
    · exact hend hb
    · split
      · -- A clock line closes the open item, and nothing is open behind it.
        rename_i e he
        obtain ⟨heads, hheads, hsub⟩ := @ih none [] List.Forall₂.nil
        refine ⟨l :: heads, ?_, hsub.cons_cons l⟩
        have hclosed := hb.imp fun _ _ => WrittenIn.item
        exact List.rel_append hclosed (List.Forall₂.cons (writtenIn_clock he) hheads)
      · split
        · -- An item beside the open one closes it and is open itself.
          rename_i item hitem
          obtain ⟨n, e⟩ := item
          have hone : List.Forall₂ ItemIn (closeItem (some (n, e))) [l] :=
            List.Forall₂.cons (itemIn_of_sibling hitem) List.Forall₂.nil
          obtain ⟨heads, hheads, hsub⟩ := ih hone
          have hclosed := hb.imp fun _ _ => WrittenIn.item
          exact ⟨l :: heads, List.rel_append hclosed hheads, hsub.cons_cons l⟩
        · cases current with
          | some open' =>
            obtain ⟨n, e⟩ := open'
            dsimp only
            split
            · -- The line goes on with the open item, so it is the head of no entry.
              refine hpass ?_
              cases hb with
              | cons he hnil => exact List.Forall₂.cons (he.extend l.text) hnil
            · split
              · exact hend hb
              · exact hpass hb
          | none =>
            dsimp only
            split
            · exact hend hb
            · exact hpass hb

/-- Entries that begin in lines of their own. -/
theorem exists_written (stop : Text → Bool) (strict : Bool) (ls : List Line) : ∃ heads,
    List.Forall₂ WrittenIn (readAll stop strict none ls).1 heads ∧
      (heads ++ (readAll stop strict none ls).2).Sublist ls :=
  @exists_written_readAll stop strict none [] List.Forall₂.nil ls

end Entry

namespace Line

theorem upToEnd?_sublist {ls inside rest : List Line} (h : upToEnd? ls = some (inside, rest)) :
    (inside ++ rest).Sublist ls := by
  induction ls generalizing inside with
  | nil => cases h
  | cons l ls ih =>
    unfold upToEnd? at h
    split at h
    · cases h
      exact List.sublist_cons_self l _
    · obtain ⟨⟨a, b⟩, hab, he⟩ := Option.map_eq_some_iff.mp h
      cases he
      exact (ih hab).cons_cons l

theorem holds_property {l : Line} {p : Property} (h : property? l = some p) :
    l.Holds p.offset (':' :: p.key ++ [':']) := by
  unfold property? at h
  split at h
  · rename_i t ht
    dsimp only at h
    have hkey := List.takeWhile_append_dropWhile (p := fun c => c ≠ ':' && !Text.isBlank c) (l := t)
    split at h
    · cases h
    · split at h
      · rename_i hrest
        cases h
        rw [hrest] at hkey
        refine holds_behind_gap ⟨[], ?_⟩
        rw [ht, List.append_nil, List.cons_append, hkey]
      · rename_i c rest hrest
        split at h
        · cases h
          rw [hrest] at hkey
          refine holds_behind_gap ⟨c :: rest, ?_⟩
          rw [ht, List.append_assoc, List.cons_append, List.singleton_append, hkey]
        · cases h
      · cases h
  · cases h

/-- The lines that properties are read from. -/
theorem exists_properties (ls : List Line) : ∃ heads,
    List.Forall₂ (fun p l => property? l = some p) (ls.filterMap property?) heads ∧
      heads.Sublist ls := by
  induction ls with
  | nil => exact ⟨[], List.Forall₂.nil, List.Sublist.refl []⟩
  | cons l ls ih =>
    obtain ⟨heads, hheads, hsub⟩ := ih
    rw [List.filterMap_cons]
    split
    · exact ⟨heads, hheads, hsub.cons l⟩
    · rename_i p hp
      exact ⟨l :: heads, List.Forall₂.cons hp hheads, hsub.cons_cons l⟩

theorem owned_properties {ls : List Line} (h : ls.Pairwise Apart) :
    Owned ls ((ls.filterMap property?).map (·.offset)) := by
  obtain ⟨heads, hheads, hsub⟩ := exists_properties ls
  have hcovers := hheads.imp fun _ _ hp => (holds_property hp).covers (by simp)
  exact (owned_of_forall₂ hcovers (h.sublist hsub)).mono hsub.subset

end Line

/-- A drawer as a line opens it. -/
def Drawer.OpensIn (d : Drawer) (l : Line) : Prop := l.Holds d.offset (':' :: d.name ++ [':'])

namespace Block

open Entry (WrittenIn)

variable {free leading : Bool} {l : Line} {ls rest : List Line}

theorem opensIn_drawer {d : Drawer} (h : drawer? l ls = some (d, rest)) : d.OpensIn l := by
  unfold drawer? at h
  split at h
  · cases h
  · rename_i name n hstart
    split at h
    · cases h
    · obtain ⟨⟨inside, rest⟩, -, he⟩ := Option.map_eq_some_iff.mp h
      cases he
      unfold Text.drawerStart? at hstart
      split at hstart
      · rename_i t ht
        dsimp only at hstart
        have hname := List.takeWhile_append_dropWhile
          (p := fun c => Text.isWordChar c || c = '-') (l := t)
        split at hstart
        · rename_i behind hbehind
          split at hstart
          · cases hstart
            rw [hbehind] at hname
            refine Line.holds_behind_gap ⟨behind, ?_⟩
            rw [ht, List.append_assoc, List.cons_append, List.singleton_append, hname]
          · cases hstart
        · cases hstart
      · cases hstart

theorem exists_written_inside {d : Drawer} (h : drawer? l ls = some (d, rest)) : ∃ heads,
    List.Forall₂ WrittenIn d.entries heads ∧ (heads ++ rest).Sublist ls := by
  unfold drawer? at h
  split at h
  · cases h
  · split at h
    · cases h
    · obtain ⟨⟨inside, rest⟩, hend, he⟩ := Option.map_eq_some_iff.mp h
      cases he
      obtain ⟨heads, hheads, hsub⟩ := Entry.exists_written (fun _ => false) false inside
      have hinside : heads.Sublist inside := (List.sublist_append_left _ _).trans hsub
      exact ⟨heads, hheads, (hinside.append_right rest).trans (Line.upToEnd?_sublist hend)⟩

theorem exists_written_loose {allowed : Bool} {es : List Entry}
    (h : loose? allowed l ls = some (es, rest)) : ∃ heads,
    List.Forall₂ WrittenIn es heads ∧ (heads ++ rest).Sublist (l :: ls) := by
  unfold loose? at h
  split at h
  · split at h
    · rename_i e he
      cases h
      obtain ⟨heads, hheads, hsub⟩ := Entry.exists_written endsLoose true ls
      exact ⟨l :: heads, List.Forall₂.cons (Entry.writtenIn_clock he) hheads, hsub.cons_cons l⟩
    · obtain ⟨⟨n, e⟩, hitem, hr⟩ := Option.map_eq_some_iff.mp h
      have hone : List.Forall₂ Entry.ItemIn (Entry.closeItem (some (n, e))) [l] :=
        List.Forall₂.cons (Entry.itemIn_of_item hitem) List.Forall₂.nil
      obtain ⟨heads, hheads, hsub⟩ := Entry.exists_written_readAll endsLoose true hone ls
      rw [hr] at hheads hsub
      exact ⟨l :: heads, hheads, hsub.cons_cons l⟩
  · cases h

theorem read_drawer {d : Drawer} (h : drawer? l ls = some (d, rest)) :
    read free leading (l :: ls) = .drawer d :: read free leading rest := by
  rw [read]
  split
  · rename_i hd
    rw [h] at hd
    cases hd
    rfl
  · rename_i hd
    rw [h] at hd
    cases hd

theorem read_entries {es : List Entry} (hd : drawer? l ls = none)
    (h : loose? (leading && free) l ls = some (es, rest)) :
    read free leading (l :: ls) = .entries es :: read free leading rest := by
  rw [read]
  split
  · rename_i hd'
    rw [hd] at hd'
    cases hd'
  · split
    · rename_i hl
      rw [h] at hl
      cases hl
      rfl
    · rename_i hl
      rw [h] at hl
      cases hl

theorem read_body (hd : drawer? l ls = none) (h : loose? (leading && free) l ls = none) :
    read free leading (l :: ls) =
      .body l :: read free (leading && Text.isBlankLine l.text) ls := by
  rw [read]
  split
  · rename_i hd'
    rw [hd] at hd'
    cases hd'
  · split
    · rename_i hl
      rw [h] at hl
      cases hl
    · rfl

/-- A part with the lines in which something of it begins. -/
inductive ComesFrom : Block → List Line → Prop
  | drawer {d : Drawer} {l : Line} {heads : List Line} (opens : d.OpensIn l)
      (inside : List.Forall₂ WrittenIn d.entries heads) : ComesFrom (.drawer d) (l :: heads)
  | entries {es : List Entry} {heads : List Line} (written : List.Forall₂ WrittenIn es heads) :
      ComesFrom (.entries es) heads
  | body (l : Line) : ComesFrom (.body l) [l]

/-- The parts of a section come from its lines, in their order. -/
theorem exists_groups (free leading : Bool) (ls : List Line) : ∃ groups,
    List.Forall₂ ComesFrom (read free leading ls) groups ∧ groups.flatten.Sublist ls := by
  induction leading, ls using read.induct free with
  | case1 =>
    rw [read]
    exact ⟨[], List.Forall₂.nil, List.Sublist.refl []⟩
  | case2 leading l ls d rest hd _ ih =>
    rw [read_drawer hd]
    obtain ⟨heads, hheads, hsub⟩ := exists_written_inside hd
    obtain ⟨groups, hgroups, hrest⟩ := ih
    refine ⟨(l :: heads) :: groups, hgroups.cons (.drawer (opensIn_drawer hd) hheads), ?_⟩
    exact ((hrest.append_left heads).trans hsub).cons_cons l
  | case3 leading l ls hd es rest hl _ ih =>
    rw [read_entries hd hl]
    obtain ⟨heads, hheads, hsub⟩ := exists_written_loose hl
    obtain ⟨groups, hgroups, hrest⟩ := ih
    exact ⟨heads :: groups, hgroups.cons (.entries hheads), (hrest.append_left heads).trans hsub⟩
  | case4 leading l ls hd hl ih =>
    rw [read_body hd hl]
    obtain ⟨groups, hgroups, hrest⟩ := ih
    exact ⟨[l] :: groups, hgroups.cons (.body l), hrest.cons_cons l⟩

section ComesFrom

variable {bs : List Block} {groups : List (List Line)}

theorem bodyLines_sublist (h : List.Forall₂ ComesFrom bs groups) :
    (bodyLines bs).Sublist groups.flatten := by
  induction h with
  | nil => exact List.Sublist.refl []
  | cons hb _ ih =>
    cases hb with
    | drawer _ _ => exact (ih.trans (List.sublist_append_right _ _)).cons _
    | entries _ => exact ih.trans (List.sublist_append_right _ _)
    | body l => exact ih.cons_cons l

theorem exists_opens (h : List.Forall₂ ComesFrom bs groups) : ∃ heads,
    List.Forall₂ Drawer.OpensIn (drawers bs) heads ∧ heads.Sublist groups.flatten := by
  induction h with
  | nil => exact ⟨[], List.Forall₂.nil, List.Sublist.refl []⟩
  | cons hb _ ih =>
    obtain ⟨heads, hheads, hsub⟩ := ih
    cases hb with
    | @drawer d l _ opens _ =>
      refine ⟨l :: heads, hheads.cons opens, ?_⟩
      exact (hsub.trans (List.sublist_append_right _ _)).cons_cons l
    | entries _ => exact ⟨heads, hheads, hsub.trans (List.sublist_append_right _ _)⟩
    | body l => exact ⟨heads, hheads, hsub.cons l⟩

/-- The entries of a drawer are written in lines that are in their order, and no body lines. -/
theorem exists_written_drawers (h : List.Forall₂ ComesFrom bs groups) {d : Drawer}
    (hd : d ∈ drawers bs) : ∃ heads, List.Forall₂ WrittenIn d.entries heads ∧
      heads.Sublist groups.flatten ∧ (bodyLines bs ++ heads).Subperm groups.flatten := by
  induction h with
  | nil => cases hd
  | @cons b group bs groups hb hrest ih =>
    cases hb with
    | @drawer d' l heads _ inside =>
      -- Either it is this drawer, and all body lines are behind it, or it is one of those behind.
      rcases List.mem_cons.mp hd with rfl | hd
      · have hall : (heads ++ bodyLines bs).Sublist (heads ++ groups.flatten) :=
          (bodyLines_sublist hrest).append_left heads
        refine ⟨heads, inside, (List.sublist_append_left _ _).cons l, ?_⟩
        exact List.perm_append_comm.subperm.trans (hall.cons l).subperm
      · obtain ⟨heads', hheads, hsub, hall⟩ := ih hd
        have hlater : groups.flatten.Sublist ((l :: heads) :: groups).flatten :=
          List.sublist_append_right _ _
        exact ⟨heads', hheads, hsub.trans hlater, hall.trans hlater.subperm⟩
    | entries _ =>
      obtain ⟨heads, hheads, hsub, hall⟩ := ih hd
      have hlater : groups.flatten.Sublist (group :: groups).flatten :=
        List.sublist_append_right _ _
      exact ⟨heads, hheads, hsub.trans hlater, hall.trans hlater.subperm⟩
    | body l =>
      obtain ⟨heads, hheads, hsub, hall⟩ := ih hd
      exact ⟨heads, hheads, hsub.cons l, (List.subperm_cons l).mpr hall⟩

/-- Loose entries are too. -/
theorem exists_written_looseEntries (h : List.Forall₂ ComesFrom bs groups) : ∃ heads,
    List.Forall₂ WrittenIn (looseEntries bs) heads ∧
      heads.Sublist groups.flatten ∧ (bodyLines bs ++ heads).Subperm groups.flatten := by
  induction h with
  | nil => exact ⟨[], List.Forall₂.nil, List.Sublist.refl [], List.nil_subperm⟩
  | @cons b group bs groups hb _ ih =>
    obtain ⟨heads, hheads, hsub, hall⟩ := ih
    cases hb with
    | @drawer d l inside _ _ =>
      have hlater : groups.flatten.Sublist ((l :: inside) :: groups).flatten :=
        List.sublist_append_right _ _
      exact ⟨heads, hheads, hsub.trans hlater, hall.trans hlater.subperm⟩
    | entries written =>
      refine ⟨group ++ heads, List.rel_append written hheads, hsub.append_left group, ?_⟩
      have hswap : (bodyLines bs ++ (group ++ heads)).Perm (group ++ (bodyLines bs ++ heads)) := by
        rw [← List.append_assoc, ← List.append_assoc]
        exact List.perm_append_comm.append_right heads
      exact hswap.subperm.trans ((List.subperm_append_left group).mpr hall)
    | body l => exact ⟨heads, hheads, hsub.cons l, (List.subperm_cons l).mpr hall⟩

end ComesFrom

end Block

namespace Section

theorem exists_planning (ls : List Line) : ∃ lead,
    (cutPlanning ls).1 = lead.flatMap Line.planning ∧ lead ++ (cutPlanning ls).2 = ls := by
  cases ls with
  | nil => exact ⟨[], rfl, rfl⟩
  | cons l ls =>
    rw [cutPlanning]
    split
    · exact ⟨[l], (List.append_nil l.planning).symm, rfl⟩
    · exact ⟨[], rfl, rfl⟩

theorem exists_properties (ls : List Line) : ∃ inside,
    (cutProperties ls).1 = inside.filterMap Line.property? ∧
      (inside ++ (cutProperties ls).2).Sublist ls := by
  cases ls with
  | nil => exact ⟨[], rfl, List.Sublist.refl []⟩
  | cons l ls =>
    rw [cutProperties]
    split
    · rename_i inside rest hend
      split at hend
      · exact ⟨inside, rfl, (Line.upToEnd?_sublist hend).cons l⟩
      · cases hend
    · exact ⟨[], rfl, List.Sublist.refl (l :: ls)⟩

/-- The lines that the planning words, the properties and the other parts of a section come
from. -/
theorem exists_lines (free : Bool) (ls : List Line) : ∃ lead inside groups,
    (ofLines free ls).planning = lead.flatMap Line.planning ∧
      (ofLines free ls).properties = inside.filterMap Line.property? ∧
      List.Forall₂ Block.ComesFrom (ofLines free ls).blocks groups ∧
      (lead ++ (inside ++ groups.flatten)).Sublist ls := by
  obtain ⟨lead, hplanning, hlead⟩ := exists_planning ls
  obtain ⟨inside, hproperties, hinside⟩ := exists_properties (cutPlanning ls).2
  obtain ⟨groups, hblocks, hgroups⟩ :=
    Block.exists_groups free true (cutProperties (cutPlanning ls).2).2
  refine ⟨lead, inside, groups, hplanning, hproperties, hblocks, ?_⟩
  have hall := ((hgroups.append_left inside).trans hinside).append_left lead
  rwa [hlead] at hall

end Section

theorem owned_lines {positions : Line → List Int} (h : ∀ l, Owned [l] (positions l))
    {ls : List Line} (ha : ls.Pairwise Line.Apart) : Owned ls (ls.flatMap positions) := by
  have hone : ls.flatMap (fun l => [l]) = ls := List.flatMap_singleton' ls
  have hall : List.Forall₂ (fun l l' => Owned [l] (positions l')) ls ls :=
    List.forall₂_same.mpr fun l _ => h l
  have howned := @owned_flatMap _ _ (fun l => [l]) positions ls ls hall
  rw [hone] at howned
  exact howned ha

namespace Heading

/-- A heading with the line that it stands in and the lines of its section. Its timestamps and the
entries of its logbook are in different lines. -/
structure StandsIn (o : Options) (h : Heading) (l : Line) (ls : List Line) : Prop where
  offset : l.Covers h.offset
  properties : Owned ls (h.properties.map (·.offset))
  links : Owned ls (h.links.map (·.offset))
  parts : ∃ planning body heads, Owned planning (h.planning.map (·.stamp.offset)) ∧
    Owned body (h.timestamps.map (·.offset)) ∧
    List.Forall₂ Entry.BeginsIn (Rows.logEntries o h) heads ∧
    (planning ++ (body ++ heads)).Subperm ls

theorem standsIn_attach {o : Options} {h : Heading} {l : Line} {ls : List Line}
    (hh : l.Covers h.offset) (ha : ls.Pairwise Line.Apart) :
    ((Section.ofLines o.logDrawer.isNone ls).attach h).StandsIn o l ls := by
  obtain ⟨lead, inside, groups, hplanning, hproperties, hblocks, hsub⟩ :=
    Section.exists_lines o.logDrawer.isNone ls
  have hbody := Block.bodyLines_sublist hblocks
  have hbehind := (List.sublist_append_right lead _).trans hsub
  have hgroups := (List.sublist_append_right inside _).trans hbehind
  have hlead : lead.Sublist ls := (List.sublist_append_left lead _).trans hsub
  have hinside : inside.Sublist ls := (List.sublist_append_left inside _).trans hbehind
  have hapart := ha.sublist (hbody.trans hgroups)
  -- The log is either what stands loose or one drawer, and body lines are in neither.
  have hlog : ∃ heads, List.Forall₂ Entry.WrittenIn
      (Rows.logEntries o ((Section.ofLines o.logDrawer.isNone ls).attach h)) heads ∧
      (Block.bodyLines (Section.ofLines o.logDrawer.isNone ls).blocks ++ heads).Subperm
        groups.flatten := by
    unfold Rows.logEntries
    split
    · obtain ⟨heads, hheads, -, hall⟩ := Block.exists_written_looseEntries hblocks
      exact ⟨heads, hheads, hall⟩
    · rename_i name _
      cases hd : ((Section.ofLines o.logDrawer.isNone ls).attach h).drawer? name with
      | none => exact ⟨[], List.Forall₂.nil, by rw [List.append_nil]; exact hbody.subperm⟩
      | some d =>
        obtain ⟨heads, hheads, -, hall⟩ :=
          Block.exists_written_drawers hblocks (List.mem_of_find?_eq_some hd)
        exact ⟨heads, hheads, hall⟩
  refine ⟨hh, ?_, ?_, ?_⟩
  · have howned := Line.owned_properties (ha.sublist hinside)
    rw [← hproperties] at howned
    exact howned.mono hinside.subset
  · have hlinks := owned_lines Line.owned_links hapart
    rw [← List.map_flatMap] at hlinks
    exact hlinks.mono (hbody.trans hgroups).subset
  · obtain ⟨heads, hheads, hall⟩ := hlog
    refine ⟨lead, Block.bodyLines (Section.ofLines o.logDrawer.isNone ls).blocks, heads, ?_, ?_,
      hheads.imp fun _ _ => Entry.WrittenIn.beginsIn, ?_⟩
    · have hwords := owned_lines Line.owned_planning (ha.sublist hlead)
      rw [← List.map_flatMap, ← hplanning] at hwords
      exact hwords
    · have hstamps := owned_lines Line.owned_timestamps hapart
      rw [← List.map_flatMap] at hstamps
      exact hstamps
    · have hparts := hall.trans (List.sublist_append_right inside _).subperm
      exact ((List.subperm_append_left lead).mpr hparts).trans hsub.subperm

end Heading

namespace Line

/-- The lines of a text are those before the first heading, and each heading line with those of
its section. -/
theorem exists_sections (ls : List Line) : ∃ groups : List (Line × List Line),
    (sections ls).1 ++ groups.flatMap (fun g => g.1 :: g.2) = ls ∧
      List.Forall₂ (fun g part => Starred.ofLine? g.1 = some part.1 ∧ g.2 = part.2) groups
        (sections ls).2 := by
  induction ls with
  | nil => exact ⟨[], rfl, List.Forall₂.nil⟩
  | cons l ls ih =>
    obtain ⟨groups, hlines, hall⟩ := ih
    rw [sections]
    dsimp only
    cases hs : Starred.ofLine? l with
    | some s =>
      exact ⟨(l, (sections ls).1) :: groups, congrArg (l :: ·) hlines,
        List.Forall₂.cons ⟨hs, rfl⟩ hall⟩
    | none => exact ⟨groups, congrArg (l :: ·) hlines, hall⟩

end Line

/-- A heading line begins with its stars. -/
theorem Starred.stars_of_line {l : Line} {s : Starred} (h : ofLine? l = some s) :
    s.offset = l.offset ∧ 0 < s.level ∧ ∃ rest, List.replicate s.level '*' ++ rest = l.text ∧
      ∀ c ∈ rest.head?, Text.isGap c = true := by
  have hall : l.text.takeWhile (· = '*') =
      List.replicate (l.text.takeWhile (· = '*')).length '*' :=
    List.eq_replicate_of_mem fun c hc => by simpa using List.mem_takeWhile_imp hc
  have hsplit := List.takeWhile_append_dropWhile (p := fun c => decide (c = '*')) (l := l.text)
  rw [hall] at hsplit
  unfold ofLine? at h
  dsimp only at h
  split at h
  · cases h
  · rename_i hne
    have hpos : 0 < (l.text.takeWhile (· = '*')).length :=
      List.length_pos_iff.mpr fun he => hne (by rw [he]; rfl)
    split at h
    · rename_i hrest
      cases h
      exact ⟨rfl, hpos, [], hrest ▸ hsplit, by simp⟩
    · rename_i c cs hrest
      split at h
      · rename_i hgap
        cases h
        refine ⟨rfl, hpos, c :: cs, hrest ▸ hsplit, ?_⟩
        intro d hd
        cases hd
        exact hgap
      · cases h

theorem Starred.covers_of_line {l : Line} {s : Starred} (h : ofLine? l = some s) :
    l.Covers s.offset := by
  obtain ⟨hoffset, hlevel, rest, hstars, -⟩ := stars_of_line h
  rw [hoffset]
  apply Line.covers_offset
  rw [← hstars, ← List.length_pos_iff, List.length_append, List.length_replicate]
  omega

namespace Preamble

theorem offset_of_property {pos : Int} {value : Text} {p : Property}
    (h : property? pos value = some p) : p.offset = pos := by
  unfold property? at h
  dsimp only at h
  split at h
  · cases h
  · cases h
    rfl

/-- The line sets the property as a keyword of the file. -/
def Sets (l : Line) (p : Property) : Prop :=
  ∃ name value, l.keyword? = some (name, value) ∧
    Text.sameName name "PROPERTY".toList = true ∧ property? l.offset value = some p

/-- A property of a file as its line writes it: in a drawer, or behind a keyword. -/
def WrittenIn (p : Property) (l : Line) : Prop := l.property? = some p ∨ Sets l p

theorem covers_written {p : Property} {l : Line} (h : WrittenIn p l) : l.Covers p.offset := by
  rcases h with h | ⟨name, value, hkeyword, -, h⟩
  · exact (Line.holds_property h).covers (by simp)
  · obtain ⟨t, ht, -⟩ := Option.bind_eq_some_iff.mp hkeyword
    have hne : l.text ≠ [] := by
      rw [← Text.append_of_after? ht]
      simp
    exact offset_of_property h ▸ Line.covers_offset hne

/-- The lines that the properties of a file are read from. -/
theorem exists_written (ls : List Line) : ∃ heads,
    List.Forall₂ WrittenIn (collect ls).properties heads ∧ heads.Sublist ls := by
  have hpass {l : Line} {ls : List Line} {ps : List Property}
      (ih : ∃ heads, List.Forall₂ WrittenIn ps heads ∧ heads.Sublist ls) :
      ∃ heads, List.Forall₂ WrittenIn ps heads ∧ heads.Sublist (l :: ls) := by
    obtain ⟨heads, hheads, hsub⟩ := ih
    exact ⟨heads, hheads, hsub.cons l⟩
  induction ls using collect.induct with
  | case1 =>
    rw [collect]
    exact ⟨[], List.Forall₂.nil, List.Sublist.refl []⟩
  | case2 l ls name value hk htags ih =>
    rw [collect, hk]
    simp only [htags, if_true]
    exact hpass ih
  | case3 l ls name value hk htags hproperty ih =>
    rw [collect, hk]
    simp only [htags, hproperty, if_true, if_false, Bool.false_eq_true]
    cases hp : property? l.offset value with
    | none => exact hpass ih
    | some p =>
      obtain ⟨heads, hheads, hsub⟩ := ih
      have hone : WrittenIn p l := Or.inr ⟨name, value, hk, hproperty, hp⟩
      exact ⟨l :: heads, hheads.cons hone, hsub.cons_cons l⟩
  | case4 l ls name value hk htags hproperty ih =>
    rw [collect, hk]
    simp only [htags, hproperty, if_false, Bool.false_eq_true]
    exact hpass ih
  | case5 l ls hk inside rest hend _ ih =>
    rw [dite_eq_ite] at hend
    rw [collect, hk]
    dsimp only
    split
    · rename_i inside' rest' hl
      rw [hl] at hend
      cases hend
      split at hl
      · -- A drawer of properties: what it holds stands before what is read behind it.
        have hdrawer := Line.upToEnd?_sublist hl
        obtain ⟨heads, hheads, hsub⟩ := Line.exists_properties inside
        obtain ⟨heads', hheads', hsub'⟩ := ih
        refine ⟨heads ++ heads', ?_, ((hsub.append hsub').trans hdrawer).cons l⟩
        exact List.rel_append (hheads.imp fun _ _ => Or.inl) hheads'
      · cases hl
    · rename_i hl
      rw [hl] at hend
      cases hend
  | case6 l ls hk hend ih =>
    rw [dite_eq_ite] at hend
    rw [collect, hk]
    dsimp only
    split
    · rename_i hl
      rw [hl] at hend
      cases hend
    · exact hpass ih

theorem owned_collect {ls : List Line} (ha : ls.Pairwise Line.Apart) :
    Owned ls ((collect ls).properties.map (·.offset)) := by
  obtain ⟨heads, hheads, hsub⟩ := exists_written ls
  have hcovers := hheads.imp fun _ _ => covers_written
  exact (owned_of_forall₂ hcovers (ha.sublist hsub)).mono hsub.subset

end Preamble

namespace Tree

theorem headingsOf_append (ts us : List Tree) :
    headingsOf (ts ++ us) = headingsOf ts ++ headingsOf us := by
  induction ts with
  | nil => rfl
  | cons t ts ih => rw [List.cons_append, headingsOf, headingsOf, ih, List.append_assoc]

theorem headingsOf_nest (h : Heading) (ts : List Tree) :
    headingsOf (nest h ts) = h :: headingsOf ts := by
  unfold nest
  rw [headingsOf, headings, List.cons_append, ← headingsOf_append, List.takeWhile_append_dropWhile]

/-- A forest holds the headings that it is made of, in their order. -/
theorem headingsOf_forest (hs : List Heading) : headingsOf (forest hs) = hs := by
  induction hs with
  | nil => rfl
  | cons h hs ih =>
    unfold forest at ih ⊢
    rw [List.foldr_cons, headingsOf_nest, ih]

end Tree

/-- An outline is read from the lines before its first heading, and from each heading line with the
lines of its section. -/
theorem Outline.exists_sections (o : Options) (t : Text) :
    ∃ (front : List Line) (groups : List (Line × List Line)),
      front ++ groups.flatMap (fun g => g.1 :: g.2) = Line.ofText t ∧
      (Outline.read o t).properties = (Preamble.collect front).properties ∧
      List.Forall₂ (fun h g => ∃ s, Starred.ofLine? g.1 = some s ∧
        h = (Section.ofLines o.logDrawer.isNone g.2).attach (s.heading o.headingKeywords))
        (Outline.read o t).headings groups := by
  obtain ⟨groups, hlines, hall⟩ := Line.exists_sections (Line.ofText t)
  refine ⟨_, groups, hlines, rfl, ?_⟩
  have hheadings : (Outline.read o t).headings =
      Outline.readHeadings o (Line.sections (Line.ofText t)).2 := Tree.headingsOf_forest _
  rw [hheadings]
  unfold Outline.readHeadings
  rw [List.forall₂_map_left_iff]
  refine hall.flip.imp ?_
  rintro ⟨s, ls⟩ ⟨l, ls'⟩ ⟨hs, hls⟩
  dsimp only at hls hs
  exact ⟨s, hs, by rw [← hls]⟩

/-- A heading line and the lines of its section are lines in their order. -/
theorem sublist_of_mem_groups {front ls : List Line} {groups : List (Line × List Line)}
    (hlines : front ++ groups.flatMap (fun g => g.1 :: g.2) = ls) {g : Line × List Line}
    (hg : g ∈ groups) : (g.1 :: g.2).Sublist ls := by
  have hsub := List.sublist_flatten_of_mem (List.mem_map_of_mem (f := fun g => g.1 :: g.2) hg)
  rw [← List.flatMap_def] at hsub
  rw [← hlines]
  exact hsub.trans (List.sublist_append_right front _)

/-- Where the parts of an outline come from. -/
theorem Outline.exists_groups (o : Options) (t : Text) :
    ∃ (front : List Line) (groups : List (Line × List Line)),
      front ++ groups.flatMap (fun g => g.1 :: g.2) = Line.ofText t ∧
      Owned front ((Outline.read o t).properties.map (·.offset)) ∧
      List.Forall₂ (fun h g => Heading.StandsIn o h g.1 g.2)
        (Outline.read o t).headings groups := by
  have ha := Line.apart_ofText t
  obtain ⟨front, groups, hlines, hproperties, hall⟩ := Outline.exists_sections o t
  refine ⟨front, groups, hlines, ?_, ?_⟩
  · rw [hproperties]
    exact Preamble.owned_collect (ha.sublist (hlines ▸ List.sublist_append_left front _))
  · have hgroups : ∀ g ∈ groups, g.2.Pairwise Line.Apart := fun g hg =>
      (List.pairwise_cons.mp (ha.sublist (sublist_of_mem_groups hlines hg))).2
    have hboth := (List.forall₂_and_left _ _).mpr ⟨hgroups, hall.flip⟩
    refine hboth.flip.imp ?_
    rintro h ⟨l, ls⟩ ⟨hg, s, hs, rfl⟩
    exact Heading.standsIn_attach (Starred.covers_of_line hs) hg

end OutlineTables
