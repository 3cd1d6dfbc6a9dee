import OutlineTables.Proofs.Outline.HeadingLines
import OutlineTables.Proofs.Text.Pieces

/-!
Outlines are verbatim: whatever has a position stands in the text at this position, letter by
letter, and what is listed stands in the text in the order of the list.
-/
namespace OutlineTables

namespace Text

/-- The text has `w` at position `p`. Positions count from 1. -/
def StandsAt (t : Text) (p : Int) (w : Text) : Prop :=
  ∃ before after, before ++ w ++ after = t ∧ p = before.length + 1

/-- A line of the text begins at position `p`, and from there on the text is `rest`. -/
def LineFrom (t : Text) (p : Int) (rest : Text) : Prop :=
  ∃ before, before ++ rest = t ∧ p = before.length + 1 ∧ ∀ c ∈ before.getLast?, c = '\n'

end Text

namespace Entry

/-- A clock stands at its position as it is; of an item its bullet stands there, and the first line
of its text at the position of the text. -/
def Verbatim (t : Text) (e : Entry) : Prop :=
  match e.kind with
  | .clock => t.StandsAt e.offset e.text
  | .item => (t.StandsAt e.offset ['-'] ∨ t.StandsAt e.offset ['+']) ∧
      t.StandsAt e.textOffset (Text.cutAt '\n' e.text).1

end Entry

/-- The opening of a drawer, and the key of a property in one. -/
def Text.colons (name : Text) : Text := ':' :: name ++ [':']

namespace Heading

/-- The heading begins a line with exactly as many stars as its level, and the parts of its section
stand at their positions. -/
structure Verbatim (t : Text) (h : Heading) : Prop where
  level : 0 < h.level
  stars : ∃ rest, t.LineFrom h.offset (List.replicate h.level.toNat '*' ++ rest) ∧
    ∀ c ∈ rest.head?, Text.isGap c = true ∨ c = '\n'
  planning : ∀ p ∈ h.planning, t.StandsAt p.stamp.offset p.stamp.text
  timestamps : ∀ e ∈ h.timestamps, t.StandsAt e.offset e.text
  links : ∀ e ∈ h.links, t.StandsAt e.offset e.text
  properties : ∀ p ∈ h.properties, t.StandsAt p.offset (Text.colons p.key)
  drawers : ∀ d ∈ h.drawers, t.StandsAt d.offset (Text.colons d.name)
  entries : ∀ d ∈ h.drawers, ∀ e ∈ d.entries, e.Verbatim t
  looseEntries : ∀ e ∈ h.looseEntries, e.Verbatim t

/-- The parts of the section are listed from the first to the last. -/
structure Increasing (h : Heading) : Prop where
  planning : (h.planning.map (·.stamp.offset)).Pairwise (· < ·)
  timestamps : (h.timestamps.map (·.offset)).Pairwise (· < ·)
  links : (h.links.map (·.offset)).Pairwise (· < ·)
  drawers : (h.drawers.map (·.offset)).Pairwise (· < ·)
  entries : ∀ d ∈ h.drawers, (d.entries.map (·.offset)).Pairwise (· < ·)
  looseEntries : (h.looseEntries.map (·.offset)).Pairwise (· < ·)

end Heading

namespace Property

/-- A property of a file that is read from a drawer stands where its key does. -/
def InDrawer (t : Text) (p : Property) : Prop :=
  (∃ l ∈ Line.ofText t, l.property? = some p) ∧ t.StandsAt p.offset (Text.colons p.key)

/-- A property of a file that is read from a keyword stands where the line of the keyword begins,
which goes on with the key of the property. -/
def BehindKeyword (t : Text) (p : Property) : Prop :=
  (∃ l ∈ Line.ofText t, Preamble.Sets l p) ∧
    ∃ name gap rest, Text.sameName name "PROPERTY".toList = true ∧
      (∀ c ∈ gap, Text.isGap c = true) ∧
      t.LineFrom p.offset ('#' :: '+' :: name ++ ':' :: gap ++ p.key ++ rest)

end Property

/-- Everything in the outline stands in the text at its position. -/
structure Outline.Verbatim (t : Text) (x : Outline) : Prop where
  headings : ∀ h ∈ x.headings, h.Verbatim t ∧ h.Increasing
  offsets : (x.headings.map (·.offset)).Pairwise (· < ·)
  properties : ∀ p ∈ x.properties, p.InDrawer t ∨ p.BehindKeyword t

namespace Line

/-- A line among lines that are joined by line feeds. -/
theorem exists_of_mem_numbered {pos : Int} {ps : List Text} {l : Line} (h : l ∈ numbered pos ps) :
    ∃ before after, before ++ l.text ++ after = Text.join ['\n'] ps ∧
      l.offset = pos + before.length ∧ (∀ c ∈ before.getLast?, c = '\n') ∧
      ∀ c ∈ after.head?, c = '\n' := by
  induction ps generalizing pos with
  | nil => cases h
  | cons p ps ih =>
    rcases List.mem_cons.mp h with rfl | h
    · cases ps with
      | nil => exact ⟨[], [], by simp [Text.join], by simp, by simp, by simp⟩
      | cons q ps =>
        refine ⟨[], '\n' :: Text.join ['\n'] (q :: ps), by simp [Text.join], by simp, by simp, ?_⟩
        intro c hc
        cases hc
        rfl
    · have hne : ps ≠ [] := by
        rintro rfl
        cases h
      obtain ⟨before, after, hjoin, hoffset, hbefore, hafter⟩ := ih h
      refine ⟨p ++ '\n' :: before, after, ?_, ?_, ?_, hafter⟩
      · rw [Text.join_cons hne, ← hjoin]
        simp
      · rw [hoffset, List.length_append, List.length_cons]
        omega
      · intro c hc
        rw [List.getLast?_append, List.getLast?_cons] at hc
        cases hlast : before.getLast? with
        | none =>
          rw [hlast] at hc
          cases hc
          rfl
        | some d =>
          rw [hlast] at hc
          cases hc
          exact hbefore d hlast

variable {t : Text} {l : Line}

theorem exists_of_mem_ofText (h : l ∈ ofText t) :
    ∃ before after, before ++ l.text ++ after = t ∧ l.offset = before.length + 1 ∧
      (∀ c ∈ before.getLast?, c = '\n') ∧ ∀ c ∈ after.head?, c = '\n' := by
  obtain ⟨before, after, hjoin, hoffset, hends⟩ := exists_of_mem_numbered h
  rw [Text.join_pieces] at hjoin
  exact ⟨before, after, hjoin, by omega, hends⟩

/-- What stands in a line stands in the text. -/
theorem Holds.standsAt {p : Int} {w : Text} (h : l.Holds p w) (hl : l ∈ ofText t) :
    t.StandsAt p w := by
  obtain ⟨front, behind, hsplit, hp⟩ := h
  obtain ⟨before, after, ht, hoffset, -, -⟩ := exists_of_mem_ofText hl
  refine ⟨before ++ front, behind ++ after, ?_, ?_⟩
  · rw [← ht, ← hsplit]
    simp
  · rw [hp, hoffset, List.length_append]
    omega

/-- Behind the beginning of a line comes more of it, or its line feed. -/
theorem lineFrom {w rest : Text} (hsplit : w ++ rest = l.text) (hl : l ∈ ofText t) :
    ∃ after, t.LineFrom l.offset (w ++ after) ∧ ∀ c ∈ after.head?, c ∈ rest.head? ∨ c = '\n' := by
  obtain ⟨before, after, ht, hoffset, hbefore, hafter⟩ := exists_of_mem_ofText hl
  refine ⟨rest ++ after, ⟨before, ?_, hoffset, hbefore⟩, ?_⟩
  · rw [← ht, ← hsplit]
    simp
  · intro c hc
    cases rest with
    | nil => exact Or.inr (hafter c hc)
    | cons d rest => exact Or.inl hc

/-- Positions in lines that follow each other. -/
theorem increasing_of_forall₂ {α : Type} {position : α → Int} {as : List α} {ls : List Line}
    (h : List.Forall₂ (fun a l => l.Covers (position a)) as ls) (hb : ls.Pairwise Before) :
    (as.map position).Pairwise (· < ·) := by
  induction h with
  | nil => exact List.Pairwise.nil
  | @cons a l as ls ha hrest ih =>
    obtain ⟨hfirst, hb⟩ := List.pairwise_cons.mp hb
    refine List.pairwise_cons.mpr ⟨?_, ih hb⟩
    intro p hp
    obtain ⟨a', ha', rfl⟩ := List.mem_map.mp hp
    obtain ⟨l', hl', hcovers⟩ := exists_right_of_mem hrest ha'
    exact (hfirst l' hl').lt ha hcovers

/-- Positions that increase in each of the lines. -/
theorem increasing_flatMap {α : Type} {position : α → Int} {found : Line → List α}
    (hlt : ∀ l, ((found l).map position).Pairwise (· < ·))
    (hin : ∀ l, ∀ a ∈ found l, l.Covers (position a)) {ls : List Line} (hb : ls.Pairwise Before) :
    ((ls.flatMap found).map position).Pairwise (· < ·) := by
  rw [List.map_flatMap, List.pairwise_flatMap]
  refine ⟨fun l _ => hlt l, hb.imp fun hab p hp q hq => ?_⟩
  obtain ⟨a, ha, rfl⟩ := List.mem_map.mp hp
  obtain ⟨b, hb, rfl⟩ := List.mem_map.mp hq
  exact hab.lt (hin _ a ha) (hin _ b hb)

end Line

theorem Entry.WrittenIn.verbatim {t : Text} {e : Entry} {l : Line} (h : e.WrittenIn l)
    (hl : l ∈ Line.ofText t) : e.Verbatim t := by
  unfold Entry.Verbatim
  cases h with
  | clock kind text _ =>
    rw [kind]
    exact text.standsAt hl
  | item item =>
    rw [item.kind]
    exact ⟨item.bullet.imp (·.standsAt hl) (·.standsAt hl), item.text.standsAt hl⟩

namespace Heading

variable {t : Text} {free : Bool} {ls : List Line}

/-- A heading and its section are verbatim in a text that has their lines. -/
theorem verbatim_attach {l : Line} {s : Starred} (hs : Starred.ofLine? l = some s)
    (hl : l ∈ Line.ofText t) (hls : ls ⊆ Line.ofText t) (keywords : List Text) :
    ((Section.ofLines free ls).attach (s.heading keywords)).Verbatim t := by
  obtain ⟨lead, inside, groups, hplanning, hproperties, hblocks, hsub⟩ :=
    Section.exists_lines free ls
  have hall : (lead ++ (inside ++ groups.flatten)) ⊆ Line.ofText t :=
    List.Subset.trans hsub.subset hls
  rw [List.append_subset, List.append_subset] at hall
  obtain ⟨hlead, hinside, hgroups⟩ := hall
  have hbody := List.Subset.trans (Block.bodyLines_sublist hblocks).subset hgroups
  have hwritten {es : List Entry} {heads : List Line} (hes : List.Forall₂ Entry.WrittenIn es heads)
      (hheads : heads.Sublist groups.flatten) : ∀ e ∈ es, e.Verbatim t := by
    intro e he
    obtain ⟨l', hl', hin⟩ := exists_right_of_mem hes he
    exact hin.verbatim (hgroups (hheads.subset hl'))
  obtain ⟨hoffset, hlevel, rest, hstars, hgap⟩ := Starred.stars_of_line hs
  constructor
  case level => exact Int.natCast_pos.mpr hlevel
  case stars =>
    obtain ⟨after, hfrom, hafter⟩ := Line.lineFrom hstars hl
    rw [← hoffset] at hfrom
    exact ⟨after, hfrom, fun c hc => (hafter c hc).imp (hgap c) id⟩
  case planning =>
    intro p hp
    change p ∈ (Section.ofLines free ls).planning at hp
    rw [hplanning] at hp
    obtain ⟨l', hl', hp⟩ := List.mem_flatMap.mp hp
    exact (Line.holds_planning hp).1.standsAt (hlead hl')
  case timestamps =>
    intro e he
    obtain ⟨l', hl', he⟩ := List.mem_flatMap.mp he
    exact (Line.holds_timestamp he).1.standsAt (hbody hl')
  case links =>
    intro e he
    obtain ⟨l', hl', he⟩ := List.mem_flatMap.mp he
    exact (Line.holds_link he).1.standsAt (hbody hl')
  case properties =>
    intro p hp
    change p ∈ (Section.ofLines free ls).properties at hp
    rw [hproperties] at hp
    obtain ⟨l', hl', hp⟩ := List.mem_filterMap.mp hp
    exact (Line.holds_property hp).standsAt (hinside hl')
  case drawers =>
    intro d hd
    obtain ⟨heads, hopens, hheads⟩ := Block.exists_opens hblocks
    obtain ⟨l', hl', hopen⟩ := exists_right_of_mem hopens hd
    exact Line.Holds.standsAt hopen (hgroups (hheads.subset hl'))
  case entries =>
    intro d hd
    obtain ⟨heads, hes, hheads, -⟩ := Block.exists_written_drawers hblocks hd
    exact hwritten hes hheads
  case looseEntries =>
    obtain ⟨heads, hes, hheads, -⟩ := Block.exists_written_looseEntries hblocks
    exact hwritten hes hheads

/-- A section lists its parts in the order of its lines. -/
theorem increasing_attach (hb : ls.Pairwise Line.Before) (h : Heading) :
    ((Section.ofLines free ls).attach h).Increasing := by
  obtain ⟨lead, inside, groups, hplanning, -, hblocks, hsub⟩ := Section.exists_lines free ls
  have hlead := hb.sublist ((List.sublist_append_left lead _).trans hsub)
  have hgroups := hb.sublist (((List.sublist_append_right inside _).trans
    (List.sublist_append_right lead _)).trans hsub)
  have hbody := hgroups.sublist (Block.bodyLines_sublist hblocks)
  have hwritten {es : List Entry} {heads : List Line} (hes : List.Forall₂ Entry.WrittenIn es heads)
      (hheads : heads.Sublist groups.flatten) : (es.map (·.offset)).Pairwise (· < ·) :=
    Line.increasing_of_forall₂ (hes.imp fun _ _ he => he.beginsIn.offset)
      (hgroups.sublist hheads)
  constructor
  case planning =>
    change ((Section.ofLines free ls).planning.map _).Pairwise _
    rw [hplanning]
    exact Line.increasing_flatMap Line.increasing_planning
      (fun _ _ => Line.covers_planning) hlead
  case timestamps =>
    exact Line.increasing_flatMap (Line.increasing_excerpts _)
      (fun _ _ => Line.covers_timestamp) hbody
  case links =>
    exact Line.increasing_flatMap (Line.increasing_excerpts _)
      (fun _ _ => Line.covers_link) hbody
  case drawers =>
    obtain ⟨heads, hopens, hheads⟩ := Block.exists_opens hblocks
    have hcovers := hopens.imp fun _ _ hopen => Line.Holds.covers hopen (by simp)
    exact Line.increasing_of_forall₂ hcovers (hgroups.sublist hheads)
  case entries =>
    intro d hd
    obtain ⟨heads, hes, hheads, -⟩ := Block.exists_written_drawers hblocks hd
    exact hwritten hes hheads
  case looseEntries =>
    obtain ⟨heads, hes, hheads, -⟩ := Block.exists_written_looseEntries hblocks
    exact hwritten hes hheads

end Heading

/-- A keyword line begins with the keyword, and the key of a property follows behind a gap. -/
theorem Preamble.Sets.behindKeyword {t : Text} {p : Property} {l : Line} (h : Sets l p)
    (hl : l ∈ Line.ofText t) : p.BehindKeyword t := by
  refine ⟨⟨l, hl, h⟩, ?_⟩
  obtain ⟨name, value, hkeyword, hname, hp⟩ := h
  obtain ⟨t₁, hmark, hkeyword⟩ := Option.bind_eq_some_iff.mp hkeyword
  dsimp only at hkeyword
  split at hkeyword
  · cases hkeyword
  · obtain ⟨behind, hcolon, hkeyword⟩ := Option.bind_eq_some_iff.mp hkeyword
    cases hkeyword
    have hkey : p.key <+: behind.dropWhile Text.isGap := by
      unfold property? at hp
      dsimp only at hp
      split at hp
      · cases hp
      · cases hp
        exact (Text.cutAt_isPrefix ' ' _).trans (List.rdropWhile_prefix Text.isGap _)
    obtain ⟨rest, hrest⟩ := hkey
    have hgap : behind.takeWhile Text.isGap ++ (p.key ++ rest) = behind := by
      rw [hrest, List.takeWhile_append_dropWhile]
    have hword : t₁.takeWhile Text.isWordChar ++ ([':'] ++ behind) = t₁ := by
      rw [Text.append_of_after? hcolon, List.takeWhile_append_dropWhile]
    have hsplit : '#' :: '+' :: t₁.takeWhile Text.isWordChar ++
        ':' :: behind.takeWhile Text.isGap ++ p.key ++ rest = l.text := by
      calc '#' :: '+' :: t₁.takeWhile Text.isWordChar ++
            ':' :: behind.takeWhile Text.isGap ++ p.key ++ rest
          = ['#', '+'] ++ (t₁.takeWhile Text.isWordChar ++
              ([':'] ++ (behind.takeWhile Text.isGap ++ (p.key ++ rest)))) := by simp
        _ = l.text := by rw [hgap, hword, Text.append_of_after? hmark]
    obtain ⟨after, hfrom, -⟩ := Line.lineFrom hsplit hl
    rw [← offset_of_property hp] at hfrom
    exact ⟨_, _, after, hname, fun c hc => List.mem_takeWhile_imp hc, hfrom⟩

/-- Whatever the text and the options are, the outline that is read is verbatim: every heading,
planning word, timestamp, link, drawer, property and logbook entry stands at its position, and what
is listed has increasing positions. -/
theorem Outline.read_verbatim (o : Options) (t : Text) : (Outline.read o t).Verbatim t := by
  obtain ⟨front, groups, hlines, hproperties, hall⟩ := Outline.exists_sections o t
  constructor
  case headings =>
    intro h hh
    obtain ⟨⟨l, ls⟩, hg, s, hs, rfl⟩ := exists_right_of_mem hall hh
    have hsub := sublist_of_mem_groups hlines hg
    have hbehind := (List.sublist_cons_self l ls).trans hsub
    refine ⟨Heading.verbatim_attach hs (hsub.subset List.mem_cons_self) hbehind.subset _, ?_⟩
    exact Heading.increasing_attach ((Line.before_ofText t).sublist hbehind) _
  case offsets => exact Outline.increasing_offsets o t
  case properties =>
    intro p hp
    rw [hproperties] at hp
    obtain ⟨heads, hheads, hsub⟩ := Preamble.exists_written front
    obtain ⟨l, hl, hin⟩ := exists_right_of_mem hheads hp
    have hl : l ∈ Line.ofText t := hlines ▸ List.mem_append_left _ (hsub.subset hl)
    rcases hin with hin | hin
    · exact Or.inl ⟨⟨l, hl, hin⟩, (Line.holds_property hin).standsAt hl⟩
    · exact Or.inr (hin.behindKeyword hl)

end OutlineTables
