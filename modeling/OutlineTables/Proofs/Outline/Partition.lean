import OutlineTables.Proofs.Outline.Parts

/-!
Sections as partitions of their lines. Every line belongs to exactly one part: the planning line,
the property drawer, a closed drawer, loose entries or the body. Main statement: the parts are
groups of lines that make up the section one behind the other, and every reading of loose entries
goes on.
-/
namespace OutlineTables

namespace Line

variable {ls inside rest : List Line}

/-- The lines of a drawer behind the one that opens it: there is no end before the last. -/
structure Closes (inside : List Line) (last : Line) : Prop where
  inside : ∀ l ∈ inside, Text.isDrawerEnd l.text = false
  last : Text.isDrawerEnd last.text = true

theorem exists_closes (h : upToEnd? ls = some (inside, rest)) :
    ∃ last, Closes inside last ∧ inside ++ last :: rest = ls := by
  induction ls generalizing inside with
  | nil => cases h
  | cons l ls ih =>
    unfold upToEnd? at h
    split at h
    · rename_i hl
      cases h
      exact ⟨l, ⟨by simp, hl⟩, rfl⟩
    · rename_i hl
      obtain ⟨⟨a, b⟩, hab, he⟩ := Option.map_eq_some_iff.mp h
      cases he
      obtain ⟨last, ⟨hinside, hlast⟩, rfl⟩ := ih hab
      have hl : Text.isDrawerEnd l.text = false := by simpa using hl
      exact ⟨last, ⟨List.forall_mem_cons.mpr ⟨hl, hinside⟩, hlast⟩, rfl⟩

theorem upToEnd?_eq_none_iff :
    upToEnd? ls = none ↔ ∀ l ∈ ls, Text.isDrawerEnd l.text = false := by
  induction ls with
  | nil => simp [upToEnd?]
  | cons l ls ih =>
    unfold upToEnd?
    rw [List.forall_mem_cons, ← ih]
    cases Text.isDrawerEnd l.text <;> simp

end Line

namespace Entry

/-- What is read and what is left make up the lines. -/
theorem exists_used (stop : Text → Bool) (strict : Bool) (current : Open) (ls : List Line) :
    ∃ used, used ++ (readAll stop strict current ls).2 = ls := by
  induction ls generalizing current with
  | nil => exact ⟨[], rfl⟩
  | cons l ls ih =>
    have hpass (next : Open) : ∃ used, used ++ (readAll stop strict next ls).2 = l :: ls := by
      obtain ⟨used, hused⟩ := ih next
      exact ⟨l :: used, congrArg (l :: ·) hused⟩
    unfold readAll
    -- Each branch goes on behind the line or gives all lines back.
    repeat' split
    all_goals
      first
      | exact hpass _
      | exact ⟨[], rfl⟩

/-- Behind its indentation a line that begins an entry has a bullet or the word of a clock. -/
theorem exists_mark_of_begins {l : Line} (h : begins l = true) : ∃ c rest,
    l.text.dropWhile Text.isGap = c :: rest ∧ Text.isBlank c = false ∧ c ≠ ':' := by
  rcases Bool.or_eq_true_iff.mp h with h | h
  · obtain ⟨e, h⟩ := Option.isSome_iff_exists.mp h
    unfold clock? at h
    split at h
    · rename_i hword
      obtain ⟨rest, hrest⟩ := Option.isSome_iff_exists.mp hword
      exact ⟨'C', "LOCK:".toList ++ rest, (Text.append_of_after? hrest).symm, by decide, by decide⟩
    · cases h
  · obtain ⟨item, h⟩ := Option.isSome_iff_exists.mp h
    unfold item? at h
    split at h
    · cases h
    · rename_i b t hb
      split at h
      · rename_i hmark
        rcases Bool.or_eq_true_iff.mp hmark with hm | hm
        · cases of_decide_eq_true hm
          exact ⟨'-', t, hb, by decide, by decide⟩
        · cases of_decide_eq_true hm
          exact ⟨'+', t, hb, by decide, by decide⟩
      · cases h

/-- So it is not blank and opens no drawer. -/
theorem endsLoose_of_begins {l : Line} (h : begins l = true) : Block.endsLoose l.text = false := by
  obtain ⟨c, rest, hmark, hblank, hcolon⟩ := exists_mark_of_begins h
  have hmem : c ∈ l.text := by
    apply (List.dropWhile_sublist Text.isGap).subset
    rw [hmark]
    exact List.mem_cons_self
  have hline : Text.isBlankLine l.text = false := by
    unfold Text.isBlankLine
    rw [List.all_eq_false]
    exact ⟨c, hmem, ne_true_of_eq_false hblank⟩
  have hdrawer : Text.drawerStart? l.text = none := by
    unfold Text.drawerStart?
    rw [hmark]
    split
    · rename_i he
      cases he
      exact absurd rfl hcolon
    · rfl
  unfold Block.endsLoose
  rw [hline, hdrawer]
  rfl

/-- Where entries begin, the loose entries are those that are read from there on. -/
theorem loose?_eq (allowed : Bool) (l : Line) (ls : List Line) :
    Block.loose? allowed l ls =
      if allowed && begins l then some (readAll Block.endsLoose true none (l :: ls)) else none := by
  unfold Block.loose?
  cases allowed with
  | false => rfl
  | true =>
    rw [if_pos rfl, Bool.true_and]
    by_cases hb : begins l = true
    · -- The line does not end the reading, and no item is open that could take it.
      rw [if_pos hb, readAll, endsLoose_of_begins hb, if_neg Bool.false_ne_true]
      unfold begins at hb
      cases hclock : clock? l with
      | some e => rfl
      | none =>
        obtain ⟨item, hitem⟩ : ∃ item, item? l = some item := by
          rw [hclock] at hb
          exact Option.isSome_iff_exists.mp hb
        have hsibling : sibling? none l = some item := by
          unfold sibling?
          rw [hitem]
        rw [hsibling, hitem]
        rfl
    · rw [if_neg hb]
      unfold begins at hb
      rw [Bool.or_eq_true, not_or, Bool.not_eq_true, Bool.not_eq_true, Option.isSome_eq_false_iff,
        Option.isNone_iff_eq_none, Option.isSome_eq_false_iff, Option.isNone_iff_eq_none] at hb
      rw [hb.1, hb.2]
      rfl

/-- A reading of loose entries uses at least the line at which it begins. -/
theorem exists_used_loose {l : Line} (h : begins l = true) (ls : List Line) :
    ∃ used, l :: used ++ (readAll Block.endsLoose true none (l :: ls)).2 = l :: ls := by
  obtain ⟨used, hused⟩ := exists_used Block.endsLoose true none (l :: ls)
  have hloose := loose?_eq true l ls
  rw [h, Bool.and_true, if_pos rfl] at hloose
  have hle := Block.loose?_length_le hloose
  -- If no line was used, all of them would be left.
  cases used with
  | nil =>
    have hlength := congrArg List.length hused
    simp only [List.nil_append, List.length_cons] at hlength
    omega
  | cons a used =>
    obtain rfl : a = l := (List.cons.inj hused).1
    exact ⟨used, hused⟩

end Entry

namespace Block

open Text

/-- The line opens a drawer, which may be closed further on. -/
def opensDrawer (l : Line) : Bool := (drawerStart? l.text).isSome && !isDrawerEnd l.text

/-- Entries may stand outside drawers, and every body line of these parts is blank. -/
def AllowsLoose (free : Bool) (before : List Block) : Prop :=
  free = true ∧ ∀ l ∈ bodyLines before, isBlankLine l.text = true

/-- A part of a section with its lines, behind the parts `before` and in front of other lines. -/
inductive Owns (free : Bool) (before : List Block) : Block → List Line → List Line → Prop
  | drawer {start last : Line} {inside rest : List Line} {name : Text} {n : Nat}
      (opens : drawerStart? start.text = some (name, n)) (notEnd : isDrawerEnd start.text = false)
      (closes : Line.Closes inside last) :
      Owns free before
        (.drawer ⟨name, start.offset + n, (Entry.readAll (fun _ => false) false none inside).1⟩)
        (start :: (inside ++ [last])) rest
  | entries {l : Line} {used rest : List Line} {es : List Entry}
      (allowed : AllowsLoose free before) (begins : Entry.begins l = true)
      (read : Entry.readAll endsLoose true none (l :: used ++ rest) = (es, rest)) :
      Owns free before (.entries es) (l :: used) rest
  | body {l : Line} {rest : List Line}
      (unclosed : opensDrawer l = true → ∀ x ∈ rest, isDrawerEnd x.text = false)
      (begins : AllowsLoose free before → Entry.begins l = false) :
      Owns free before (.body l) [l] rest

/-- Parts with their lines, one behind the other up to the end of the section. -/
inductive Partition (free : Bool) : List Block → List Line → List (Block × List Line) → Prop
  | done {before : List Block} : Partition free before [] []
  | next {before : List Block} {b : Block} {group rest : List Line}
      {parts : List (Block × List Line)} (owns : Owns free before b group rest)
      (others : Partition free (before ++ [b]) rest parts) :
      Partition free before (group ++ rest) ((b, group) :: parts)

variable {free : Bool} {before : List Block} {ls : List Line} {parts : List (Block × List Line)}

/-- Every line is in one part, in the order of the lines. -/
theorem Partition.lines (h : Partition free before ls parts) : parts.flatMap Prod.snd = ls := by
  induction h with
  | done => rfl
  | next _ _ ih => rw [List.flatMap_cons, ih]

theorem bodyLines_append (as bs : List Block) :
    bodyLines (as ++ bs) = bodyLines as ++ bodyLines bs := List.filterMap_append

variable {l : Line} {rest : List Line} {allowed leading : Bool}

theorem exists_owns_drawer {d : Drawer} (h : drawer? l ls = some (d, rest)) : ∃ group,
    Owns free before (.drawer d) group rest ∧ group ++ rest = l :: ls := by
  unfold drawer? at h
  split at h
  · cases h
  · rename_i name n hstart
    split at h
    · cases h
    · rename_i hend
      obtain ⟨⟨inside, rest⟩, hclosed, he⟩ := Option.map_eq_some_iff.mp h
      cases he
      obtain ⟨last, hcloses, rfl⟩ := Line.exists_closes hclosed
      exact ⟨_, .drawer hstart (eq_false_of_ne_true hend) hcloses, by simp⟩

theorem exists_owns_entries {es : List Entry} (hallowed : allowed = true ↔ AllowsLoose free before)
    (h : loose? allowed l ls = some (es, rest)) : ∃ group,
    Owns free before (.entries es) group rest ∧ group ++ rest = l :: ls := by
  rw [Entry.loose?_eq] at h
  split at h
  · rename_i hl
    rw [Bool.and_eq_true] at hl
    obtain ⟨used, hused⟩ := Entry.exists_used_loose hl.2 ls
    rw [Option.some.inj h] at hused
    refine ⟨l :: used, .entries (hallowed.mp hl.1) hl.2 ?_, hused⟩
    rw [hused]
    exact Option.some.inj h
  · cases h

/-- A line that opens no closed drawer, and no loose entries where these are allowed. -/
theorem owns_body (hallowed : allowed = true ↔ AllowsLoose free before)
    (hd : drawer? l ls = none) (hl : loose? allowed l ls = none) :
    Owns free before (.body l) [l] ls := by
  refine .body (fun hopens => ?_) (fun hbefore => ?_)
  · rw [← Line.upToEnd?_eq_none_iff]
    unfold opensDrawer at hopens
    rw [Bool.and_eq_true, Bool.not_eq_true'] at hopens
    obtain ⟨⟨name, n⟩, hstart⟩ := Option.isSome_iff_exists.mp hopens.1
    unfold drawer? at hd
    rw [hstart] at hd
    dsimp only at hd
    rw [hopens.2, if_neg Bool.false_ne_true] at hd
    exact Option.map_eq_none_iff.mp hd
  · rw [Entry.loose?_eq, hallowed.mpr hbefore, Bool.true_and] at hl
    split at hl
    · cases hl
    · rename_i hbegins
      exact eq_false_of_ne_true hbegins

/-- The parts that are read are those of a partition, as long as `leading` says whether the body
lines so far are blank. -/
theorem exists_partition (free : Bool)
    (hleading : leading = true ↔ ∀ l ∈ bodyLines before, isBlankLine l.text = true)
    (ls : List Line) :
    ∃ parts, parts.map Prod.fst = read free leading ls ∧ Partition free before ls parts := by
  have hallowed {leading : Bool} {before : List Block}
      (h : leading = true ↔ ∀ l ∈ bodyLines before, isBlankLine l.text = true) :
      (leading && free) = true ↔ AllowsLoose free before := by
    rw [Bool.and_eq_true, h, and_comm]
    rfl
  -- A part goes before the others, which know it among the parts before them.
  have hnext {before : List Block} {b : Block} {group rest : List Line} {bs : List Block}
      (owns : Owns free before b group rest)
      (others : ∃ parts, parts.map Prod.fst = bs ∧ Partition free (before ++ [b]) rest parts) :
      ∃ parts, parts.map Prod.fst = b :: bs ∧ Partition free before (group ++ rest) parts := by
    obtain ⟨parts, hparts, hpartition⟩ := others
    exact ⟨(b, group) :: parts, congrArg (b :: ·) hparts, .next owns hpartition⟩
  -- Drawers and loose entries have no body lines, so they leave `leading` as it is.
  induction leading, ls using read.induct free generalizing before with
  | case1 leading =>
    rw [read]
    exact ⟨[], rfl, .done⟩
  | case2 leading l ls d rest hd _ ih =>
    rw [read_drawer hd]
    obtain ⟨group, howns, hlines⟩ := exists_owns_drawer hd
    rw [← hlines]
    refine hnext howns (ih ?_)
    rw [bodyLines_append]
    exact (List.append_nil (bodyLines before)).symm ▸ hleading
  | case3 leading l ls hd es rest hl _ ih =>
    rw [read_entries hd hl]
    obtain ⟨group, howns, hlines⟩ := exists_owns_entries (hallowed hleading) hl
    rw [← hlines]
    refine hnext howns (ih ?_)
    rw [bodyLines_append]
    exact (List.append_nil (bodyLines before)).symm ▸ hleading
  | case4 leading l ls hd hl ih =>
    rw [read_body hd hl]
    refine hnext (owns_body (hallowed hleading) hd hl) (ih ?_)
    -- A body line keeps `leading` only if it is blank.
    have hone : bodyLines [body l] = [l] := rfl
    rw [bodyLines_append, hone, List.forall_mem_append, List.forall_mem_singleton, ← hleading,
      Bool.and_eq_true]

end Block

namespace Section

/-- The property drawer at the start of lines, with the lines behind it. -/
inductive Properties : List Line → List Line → List Property → Prop
  | none {rest : List Line}
      (unclosed : ∀ l ls, rest = l :: ls → l.isPropertyStart = true →
        ∀ x ∈ ls, Text.isDrawerEnd x.text = false) :
      Properties [] rest []
  | closed {start last : Line} {inside rest : List Line} (opens : start.isPropertyStart = true)
      (closes : Line.Closes inside last) :
      Properties (start :: (inside ++ [last])) rest (inside.filterMap Line.property?)

theorem exists_property_lines (ls : List Line) : ∃ front,
    Properties front (cutProperties ls).2 (cutProperties ls).1 ∧
      front ++ (cutProperties ls).2 = ls := by
  cases ls with
  | nil => exact ⟨[], .none (fun _ _ h => nomatch h), rfl⟩
  | cons l ls =>
    rw [cutProperties]
    split
    · rename_i inside rest hend
      split at hend
      · rename_i hstart
        obtain ⟨last, hcloses, rfl⟩ := Line.exists_closes hend
        exact ⟨_, .closed hstart hcloses, by simp⟩
      · cases hend
    · rename_i hend
      refine ⟨[], .none ?_, rfl⟩
      rintro _ _ ⟨⟩ hstart
      rw [if_pos hstart] at hend
      exact Line.upToEnd?_eq_none_iff.mp hend

/-- The planning line can only be the first one. -/
theorem planning_of_head (ls : List Line) : ∃ lead,
    lead = (ls.head?.filter Line.isPlanning).toList ∧
      (cutPlanning ls).1 = lead.flatMap Line.planning ∧ lead ++ (cutPlanning ls).2 = ls := by
  refine ⟨_, rfl, ?_⟩
  cases ls with
  | nil => exact ⟨rfl, rfl⟩
  | cons l ls =>
    rw [cutPlanning, List.head?_cons]
    cases hl : l.isPlanning with
    | true => simp [Option.filter, hl]
    | false => simp [Option.filter, hl]

theorem content_eq_some_iff (s : Section) (t : Text) : s.content = some t ↔ t ≠ [] ∧
    t = Text.strip (Text.join ['\n'] ((Block.bodyLines s.blocks).map (·.text))) := by
  unfold Section.content
  split
  · rename_i he
    rw [he]
    exact ⟨nofun, fun h => absurd h.2 h.1⟩
  · rename_i he
    rw [Option.some_inj]
    exact ⟨fun h => ⟨h ▸ he, h.symm⟩, fun h => h.2.symm⟩

end Section

namespace Heading

/-- A heading made of a planning line, a property drawer and the other parts of a section. The text
and its tokens are those of the body lines. -/
structure MadeOf (free : Bool) (lead front : List Line) (parts : List (Block × List Line))
    (ls : List Line) (h : Heading) : Prop where
  lines : lead ++ (front ++ parts.flatMap Prod.snd) = ls
  first : lead = (ls.head?.filter Line.isPlanning).toList
  planning : h.planning = lead.flatMap Line.planning
  properties : Section.Properties front (parts.flatMap Prod.snd) h.properties
  partition : Block.Partition free [] (parts.flatMap Prod.snd) parts
  drawers : h.drawers = Block.drawers (parts.map Prod.fst)
  looseEntries : h.looseEntries = Block.looseEntries (parts.map Prod.fst)
  content : ∀ t, h.content = some t ↔ t ≠ [] ∧
    t = Text.strip (Text.join ['\n'] ((Block.bodyLines (parts.map Prod.fst)).map (·.text)))
  timestamps : h.timestamps = (Block.bodyLines (parts.map Prod.fst)).flatMap Line.timestamps
  links : h.links = (Block.bodyLines (parts.map Prod.fst)).flatMap Line.links

/-- Every line of a section is in exactly one of its parts, in the order of the lines, and a reading
of loose entries gives back fewer lines than it is given. -/
theorem exists_madeOf (o : Options) (h : Heading) (ls : List Line) :
    (∃ lead front parts, ((Section.ofLines o.logDrawer.isNone ls).attach h).MadeOf
      o.logDrawer.isNone lead front parts ls) ∧
    ∀ l rest, Entry.begins l = true → ∃ r, Block.loose? true l rest = some r ∧
      r = Entry.readAll Block.endsLoose true none (l :: rest) ∧
      r.2.length < (l :: rest).length := by
  constructor
  · obtain ⟨lead, hlead, hplanning, hbehind⟩ := Section.planning_of_head ls
    obtain ⟨front, hproperties, hfront⟩ :=
      Section.exists_property_lines (Section.cutPlanning ls).2
    have hempty : true = true ↔ ∀ l ∈ Block.bodyLines [], Text.isBlankLine l.text = true := by
      simp [Block.bodyLines]
    obtain ⟨parts, hblocks, hparts⟩ := Block.exists_partition o.logDrawer.isNone hempty
      (Section.cutProperties (Section.cutPlanning ls).2).2
    have hrest := hparts.lines
    have hread : (Section.ofLines o.logDrawer.isNone ls).blocks = parts.map Prod.fst := hblocks.symm
    refine ⟨lead, front, parts, ?_⟩
    exact
      { lines := by rw [hrest, hfront, hbehind]
        first := hlead
        planning := hplanning
        properties := by rw [hrest]; exact hproperties
        partition := by rw [hrest]; exact hparts
        drawers := congrArg Block.drawers hread
        looseEntries := congrArg Block.looseEntries hread
        content := fun t => by
          rw [← hread]
          exact Section.content_eq_some_iff _ t
        timestamps := congrArg (fun bs => (Block.bodyLines bs).flatMap Line.timestamps) hread
        links := congrArg (fun bs => (Block.bodyLines bs).flatMap Line.links) hread }
  · intro l rest hl
    have hloose : Block.loose? true l rest =
        some (Entry.readAll Block.endsLoose true none (l :: rest)) := by
      rw [Entry.loose?_eq, hl]
      rfl
    exact ⟨_, hloose, rfl, Nat.lt_succ_of_le (Block.loose?_length_le hloose)⟩

end Heading

end OutlineTables
