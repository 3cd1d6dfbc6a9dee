import OutlineTables.Proofs.Rows.Cases

/-!
References between rows. Whatever the options leave out, the rows of an outline hold the target of
every reference in them.
-/
namespace OutlineTables

namespace Rows

/-! Targets of references. -/

def HasFile (base : Rows) (file : Text) : Prop := ∃ x ∈ base.files, x.path = file

def HasHeading (base : Rows) (file : Text) (offset : Int) : Prop :=
  ∃ x ∈ base.headings, x.file = file ∧ x.offset = offset

def HasStamp (base : Rows) (file : Text) (offset : Int) : Prop :=
  ∃ x ∈ base.stamps, x.file = file ∧ x.offset = offset

def HasProperty (base : Rows) (file : Text) (offset : Int) : Prop :=
  ∃ x ∈ base.properties, x.file = file ∧ x.offset = offset

def HasNote (base : Rows) (file : Text) (offset : Int) : Prop :=
  ∃ x ∈ base.notes, x.file = file ∧ x.offset = offset

/-- Every reference in `r` has its target in `base`. -/
structure Refers (base r : Rows) : Prop where
  headings : ∀ x ∈ r.headings, base.HasFile x.file
  closures : ∀ x ∈ r.closures,
    base.HasHeading x.file x.heading ∧ base.HasHeading x.file x.ancestor
  stamps : ∀ x ∈ r.stamps, base.HasHeading x.file x.heading
  planning : ∀ x ∈ r.planning, base.HasHeading x.file x.heading ∧ base.HasStamp x.file x.stamp
  fileTags : ∀ x ∈ r.fileTags, base.HasFile x.file
  headingTags : ∀ x ∈ r.headingTags, base.HasHeading x.file x.heading
  properties : ∀ x ∈ r.properties, base.HasFile x.file
  fileProperties : ∀ x ∈ r.fileProperties,
    base.HasFile x.file ∧ base.HasProperty x.file x.property
  headingProperties : ∀ x ∈ r.headingProperties,
    base.HasProperty x.file x.property ∧ base.HasHeading x.file x.heading
  links : ∀ x ∈ r.links, base.HasHeading x.file x.heading
  clocks : ∀ x ∈ r.clocks, base.HasHeading x.file x.heading
  notes : ∀ x ∈ r.notes, base.HasHeading x.file x.heading
  states : ∀ x ∈ r.states, base.HasNote x.file x.note
  planningChanges : ∀ x ∈ r.planningChanges,
    base.HasNote x.file x.note ∧ base.HasStamp x.file x.stamp

theorem refers_empty (base : Rows) : Refers base {} := by
  constructor <;> intro x hx <;> cases hx

theorem Refers.append {base a b : Rows} (ha : Refers base a) (hb : Refers base b) :
    Refers base (a.append b) where
  headings x hx := (List.mem_append.mp hx).elim (ha.headings x) (hb.headings x)
  closures x hx := (List.mem_append.mp hx).elim (ha.closures x) (hb.closures x)
  stamps x hx := (List.mem_append.mp hx).elim (ha.stamps x) (hb.stamps x)
  planning x hx := (List.mem_append.mp hx).elim (ha.planning x) (hb.planning x)
  fileTags x hx := (List.mem_append.mp hx).elim (ha.fileTags x) (hb.fileTags x)
  headingTags x hx := (List.mem_append.mp hx).elim (ha.headingTags x) (hb.headingTags x)
  properties x hx := (List.mem_append.mp hx).elim (ha.properties x) (hb.properties x)
  fileProperties x hx := (List.mem_append.mp hx).elim (ha.fileProperties x) (hb.fileProperties x)
  headingProperties x hx :=
    (List.mem_append.mp hx).elim (ha.headingProperties x) (hb.headingProperties x)
  links x hx := (List.mem_append.mp hx).elim (ha.links x) (hb.links x)
  clocks x hx := (List.mem_append.mp hx).elim (ha.clocks x) (hb.clocks x)
  notes x hx := (List.mem_append.mp hx).elim (ha.notes x) (hb.notes x)
  states x hx := (List.mem_append.mp hx).elim (ha.states x) (hb.states x)
  planningChanges x hx :=
    (List.mem_append.mp hx).elim (ha.planningChanges x) (hb.planningChanges x)

theorem refers_concat {base : Rows} {rs : List Rows} (h : ∀ r ∈ rs, Refers base r) :
    Refers base (concat rs) := by
  induction rs with
  | nil => exact refers_empty base
  | cons r rs ih =>
    exact (h r List.mem_cons_self).append (ih fun a ha => h a (List.mem_cons_of_mem _ ha))

/-- Everything that can be referred to in `a` is in `b` too. -/
structure Under (a b : Rows) : Prop where
  files : a.files ⊆ b.files
  headings : a.headings ⊆ b.headings
  stamps : a.stamps ⊆ b.stamps
  properties : a.properties ⊆ b.properties
  notes : a.notes ⊆ b.notes

theorem under_concat {rs : List Rows} {r : Rows} (h : r ∈ rs) : Under r (concat rs) := by
  induction rs with
  | nil => cases h
  | cons a rs ih =>
    rcases List.mem_cons.mp h with rfl | h
    · constructor <;> exact List.subset_append_left _ _
    · have hr := ih h
      exact ⟨List.subset_append_of_subset_right _ hr.files,
        List.subset_append_of_subset_right _ hr.headings,
        List.subset_append_of_subset_right _ hr.stamps,
        List.subset_append_of_subset_right _ hr.properties,
        List.subset_append_of_subset_right _ hr.notes⟩

theorem Under.trans {a b c : Rows} (hab : Under a b) (hbc : Under b c) : Under a c :=
  ⟨List.Subset.trans hab.files hbc.files, List.Subset.trans hab.headings hbc.headings,
    List.Subset.trans hab.stamps hbc.stamps, List.Subset.trans hab.properties hbc.properties,
    List.Subset.trans hab.notes hbc.notes⟩

section Heading

variable {base : Rows} {s : Scope} {h : Heading}

theorem refers_ofProperty {p : Property} {link : Rows} (hf : base.HasFile s.file)
    (hl : base.HasProperty s.file p.offset → Refers base link)
    (hu : Under (ofProperty s p link) base) : Refers base (ofProperty s p link) := by
  rcases ofProperty_cases s p link with ⟨-, he⟩ | ⟨-, he⟩ <;> rw [he] at hu ⊢
  · exact refers_empty base
  · have hp : base.HasProperty s.file p.offset :=
      ⟨_, hu.properties List.mem_cons_self, rfl, rfl⟩
    refine Refers.append ?_ (hl hp)
    constructor <;> simp [hf]

theorem refers_ofPlanning {p : Planning} {r : Rows} (hh : base.HasHeading s.file h.offset)
    (hr : ofPlanning s h p = .ok r) (hu : Under r base) : Refers base r := by
  rcases ofPlanning_eq_ok.mp hr with ⟨-, rfl⟩ | ⟨-, -, rfl⟩ | ⟨st, -, -, rfl⟩
  · exact refers_empty base
  · exact refers_empty base
  · have hs : base.HasStamp s.file p.stamp.offset :=
      ⟨_, hu.stamps List.mem_cons_self, rfl, rfl⟩
    constructor <;> simp [plannedRows, hh, hs]

theorem refers_ofBodyStamp {e : Excerpt} {r : Rows} (hh : base.HasHeading s.file h.offset)
    (hr : ofBodyStamp s h e = .ok r) : Refers base r := by
  rcases ofBodyStamp_eq_ok.mp hr with ⟨-, rfl⟩ | ⟨st, -, ⟨-, rfl⟩ | ⟨-, rfl⟩⟩
  · exact refers_empty base
  · exact refers_empty base
  · constructor <;> simp [bodyRows, hh]

theorem refers_ofClock {c : Clock} (hh : base.HasHeading s.file h.offset) :
    Refers base (ofClock s h c) := by
  unfold ofClock
  split
  · exact refers_empty base
  · constructor <;> simp [hh]

theorem refers_ofNote {n : Note} (hh : base.HasHeading s.file h.offset)
    (hu : Under (ofNote s h n) base) : Refers base (ofNote s h n) := by
  rcases ofNote_cases s h n with ⟨-, he⟩ | ⟨-, -, he⟩ | ⟨pos, st, -, -, -, he⟩ | ⟨-, -, -, he⟩ <;>
    rw [he] at hu ⊢
  · exact refers_empty base
  · have hn : base.HasNote s.file n.offset := ⟨_, hu.notes List.mem_cons_self, rfl, rfl⟩
    constructor <;> simp [stateRows, noteRow, hh, hn]
  · have hn : base.HasNote s.file n.offset := ⟨_, hu.notes List.mem_cons_self, rfl, rfl⟩
    have hs : base.HasStamp s.file pos := ⟨_, hu.stamps List.mem_cons_self, rfl, rfl⟩
    constructor <;> simp [changeRows, noteRow, hh, hn, hs]
  · constructor <;> simp [noteRow, hh]

theorem mem_ofAncestors {above : List Heading} {x : ClosureRow} (hx : x ∈ ofAncestors s h above) :
    x.file = s.file ∧ x.heading = h.offset ∧ ∃ a ∈ h :: above, x.ancestor = a.offset := by
  obtain ⟨⟨a, depth⟩, ha, rfl⟩ := List.mem_map.mp hx
  exact ⟨rfl, rfl, a, List.fst_mem_of_mem_zipIdx ha, rfl⟩

theorem mem_ofTags {above : List Heading} {x : HeadingTagRow} (hx : x ∈ ofTags s h above) :
    x.file = s.file ∧ x.heading = h.offset := by
  obtain ⟨⟨tag, isInherited⟩, -, ha⟩ := List.mem_filterMap.mp hx
  dsimp only at ha
  split at ha
  · cases ha
  · cases ha
    exact ⟨rfl, rfl⟩

theorem mem_ofLink {e : Excerpt} {x : LinkRow} (hx : x ∈ ofLink s h e) :
    x.file = s.file ∧ x.heading = h.offset := by
  unfold ofLink at hx
  split at hx
  · split at hx
    · cases hx
    · cases List.mem_singleton.mp hx
      exact ⟨rfl, rfl⟩
  · cases hx

/-- The parts of the rows of a heading. -/
theorem ofHeading_eq_ok {above : List Heading} {r : Rows} :
    ofHeading s h above = .ok r ↔ ∃ row planning stamps log,
      headingRow s h = .ok row ∧ h.planning.mapM (ofPlanning s h) = .ok planning ∧
      h.timestamps.mapM (ofBodyStamp s h) = .ok stamps ∧
      LogRecord.classify s.types (logEntries s.options h) = .ok log ∧
      concat ({
          headings := [row]
          closures := ofAncestors s h above
          headingTags := ofTags s h above
          links := h.links.flatMap (ofLink s h) } ::
        (h.properties.map fun p =>
          ofProperty s p { headingProperties := [⟨s.file, p.offset, h.offset⟩] }) ++
        planning ++ stamps ++ log.map (ofRecord s h)) = r := by
  simp only [ofHeading, bind_eq_ok, Except.ok.injEq]
  constructor
  · rintro ⟨row, hrow, planning, hp, stamps, hs, log, hl, hr⟩
    exact ⟨row, planning, stamps, log, hrow, hp, hs, hl, hr⟩
  · rintro ⟨row, planning, stamps, log, hrow, hp, hs, hl, hr⟩
    exact ⟨row, hrow, planning, hp, stamps, hs, log, hl, hr⟩

theorem headingRow_position {row : HeadingRow} (hr : headingRow s h = .ok row) :
    row.file = s.file ∧ row.offset = h.offset := by
  unfold headingRow at hr
  split at hr <;> obtain ⟨effort, -, hr⟩ := bind_eq_ok.mp hr <;> cases hr <;> exact ⟨rfl, rfl⟩

/-- The rows of a heading refer to its file, to the heading and its ancestors, and to each
other. -/
theorem refers_ofHeading {above : List Heading} {r : Rows} (hf : base.HasFile s.file)
    (ha : ∀ a ∈ h :: above, base.HasHeading s.file a.offset)
    (hr : ofHeading s h above = .ok r) (hu : Under r base) : Refers base r := by
  have hh := ha h List.mem_cons_self
  obtain ⟨row, planning, stamps, log, hrow, hp, hs, -, rfl⟩ := ofHeading_eq_ok.mp hr
  apply refers_concat
  intro a hm
  -- Each part is judged against the rows of the whole, where its targets are.
  have hua := (under_concat hm).trans hu
  simp only [List.cons_append, List.mem_cons, List.mem_append, List.mem_map, or_assoc] at hm
  rcases hm with rfl | ⟨p, -, rfl⟩ | hm | hm | ⟨x, -, rfl⟩
  · have hfile := (headingRow_position hrow).1
    constructor <;> simp only [List.not_mem_nil, false_implies, implies_true]
    · rintro x hx
      cases List.mem_singleton.mp hx
      exact hfile ▸ hf
    · intro x hx
      obtain ⟨hxf, hxh, c, hc, hxa⟩ := mem_ofAncestors hx
      rw [hxf, hxh, hxa]
      exact ⟨hh, ha c hc⟩
    · intro x hx
      obtain ⟨hxf, hxh⟩ := mem_ofTags hx
      exact hxf ▸ hxh ▸ hh
    · intro x hx
      obtain ⟨e, -, hx⟩ := List.mem_flatMap.mp hx
      obtain ⟨hxf, hxh⟩ := mem_ofLink hx
      exact hxf ▸ hxh ▸ hh
  · apply refers_ofProperty hf _ hua
    intro hprop
    constructor <;> simp [hprop, hh]
  · obtain ⟨p, -, hpl⟩ := exists_of_mem_mapM hp hm
    exact refers_ofPlanning hh hpl hua
  · obtain ⟨e, -, hst⟩ := exists_of_mem_mapM hs hm
    exact refers_ofBodyStamp hh hst
  · cases x with
    | clock c => exact refers_ofClock hh
    | note n => exact refers_ofNote hh hua

end Heading

theorem refers_ofFile {base : Rows} {s : Scope} {properties : List Property} {md5 : Text}
    {size : Option Int} (hu : Under (ofFile s properties md5 size) base) :
    Refers base (ofFile s properties md5 size) := by
  have hf : base.HasFile s.file :=
    ⟨_, hu.files ((under_concat List.mem_cons_self).files List.mem_cons_self), rfl⟩
  apply refers_concat
  intro a hm
  have hua := (under_concat hm).trans hu
  rcases List.mem_cons.mp hm with rfl | hm
  · constructor <;> simp only [List.not_mem_nil, false_implies, implies_true]
    intro x hx
    obtain ⟨tag, -, rfl⟩ := List.mem_map.mp hx
    exact hf
  · obtain ⟨p, -, rfl⟩ := List.mem_map.mp hm
    apply refers_ofProperty hf _ hua
    intro hprop
    constructor <;> simp [hprop, hf]

end Rows

/-- Ancestors are open headings or headings further up the list. -/
theorem Heading.mem_of_mem_withAncestors {opened hs : List Heading} {p : Heading × List Heading}
    (hp : p ∈ Heading.withAncestors opened hs) : ∀ a ∈ p.1 :: p.2, a ∈ opened ∨ a ∈ hs := by
  induction hs generalizing opened with
  | nil => cases hp
  | cons h hs ih =>
    have habove : ∀ a ∈ opened.dropWhile (fun a => decide (h.level ≤ a.level)), a ∈ opened :=
      fun a ha => (List.dropWhile_sublist _).subset ha
    rcases List.mem_cons.mp hp with rfl | hp
    · intro a ha
      rcases List.mem_cons.mp ha with rfl | ha
      · exact Or.inr List.mem_cons_self
      · exact Or.inl (habove a ha)
    · intro a ha
      rcases ih hp a ha with hm | hm
      · rcases List.mem_cons.mp hm with rfl | hm
        · exact Or.inr List.mem_cons_self
        · exact Or.inl (habove a hm)
      · exact Or.inr (List.mem_cons_of_mem _ hm)

theorem Heading.map_fst_withAncestors (opened hs : List Heading) :
    (Heading.withAncestors opened hs).map Prod.fst = hs := by
  induction hs generalizing opened with
  | nil => rfl
  | cons h hs ih => simp only [withAncestors, List.map_cons, ih]

namespace Rows

theorem ofOutline_eq_ok {o : Options} {x : Outline} {file md5 : Text} {size : Option Int}
    {r : Rows} : ofOutline o x file md5 size = .ok r ↔ ∃ rows,
      (Heading.withAncestors [] x.headings).mapM (fun p =>
        ofHeading (Scope.ofOptions o file (firsts x.tags)) p.1 p.2) = .ok rows ∧
      concat (ofFile (Scope.ofOptions o file (firsts x.tags)) x.properties md5 size :: rows) = r := by
  simp only [ofOutline, bind_eq_ok, Except.ok.injEq]

/-- The rows of an outline hold the targets of all their references. -/
theorem refers_ofOutline {o : Options} {x : Outline} {file md5 : Text} {size : Option Int}
    {r : Rows} (hr : ofOutline o x file md5 size = .ok r) : Refers r r := by
  obtain ⟨rows, hrows, rfl⟩ := ofOutline_eq_ok.mp hr
  let s := Scope.ofOptions o file (firsts x.tags)
  let base := concat (ofFile s x.properties md5 size :: rows)
  have hfile : base.HasFile s.file :=
    ⟨_, (under_concat List.mem_cons_self).files
      ((under_concat List.mem_cons_self).files List.mem_cons_self), rfl⟩
  -- Every heading has a row, so those of ancestors are there too.
  have hheading : ∀ a ∈ x.headings, base.HasHeading s.file a.offset := by
    intro a ha
    rw [← Heading.map_fst_withAncestors [] x.headings] at ha
    obtain ⟨p, hp, rfl⟩ := List.mem_map.mp ha
    obtain ⟨b, hb, hpb⟩ := exists_mem_of_mapM hrows hp
    obtain ⟨row, planning, stamps, log, hrow, -, -, -, rfl⟩ := ofHeading_eq_ok.mp hpb
    refine ⟨row, ?_, headingRow_position hrow⟩
    apply (under_concat (List.mem_cons_of_mem _ hb)).headings
    exact (under_concat List.mem_cons_self).headings List.mem_cons_self
  apply refers_concat
  intro a hm
  rcases List.mem_cons.mp hm with rfl | hm
  · exact refers_ofFile (under_concat List.mem_cons_self)
  · obtain ⟨p, hp, hpa⟩ := exists_of_mem_mapM hrows hm
    apply refers_ofHeading hfile _ hpa (under_concat (List.mem_cons_of_mem _ hm))
    intro b hb
    rcases Heading.mem_of_mem_withAncestors hp b hb with hb | hb
    · cases hb
    · exact hheading b hb

end Rows

end OutlineTables
