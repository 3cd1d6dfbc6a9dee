import OutlineTables.Proofs.Outline.HeadingLines

/-!
Nesting. Main statement: the headings of an outline are the heading lines of its text in their
order, and each of them stands directly below the nearest heading before it of a smaller level.
-/
namespace OutlineTables

/-- Stars at the start of a line, `n` of them, with a gap or nothing behind them. -/
def Line.Heads (l : Line) (n : Nat) : Prop :=
  0 < n ∧ ∃ rest, List.replicate n '*' ++ rest = l.text ∧ ∀ c ∈ rest.head?, Text.isGap c = true

theorem Starred.isSome_ofLine?_iff {l : Line} :
    (ofLine? l).isSome = true ↔ ∃ n, l.Heads n := by
  constructor
  · intro h
    obtain ⟨s, hs⟩ := Option.isSome_iff_exists.mp h
    exact ⟨s.level, (stars_of_line hs).2⟩
  · rintro ⟨n, hn, rest, htext, hgap⟩
    have hstar : ∀ c ∈ List.replicate n '*', decide (c = '*') = true := by
      intro c hc
      rw [List.eq_of_mem_replicate hc]
      rfl
    -- The stars end where the gap begins.
    have hstop : ∀ c ∈ rest.head?, decide (c = '*') = false := by
      intro c hc
      rw [decide_eq_false_iff_not]
      rintro rfl
      exact absurd (hgap '*' hc) (by decide)
    obtain ⟨htake, hdrop⟩ := Text.takeWhile_append_stop hstar hstop
    unfold ofLine?
    rw [← htext, htake, hdrop]
    cases rest with
    | nil => simp [hn.ne']
    | cons c rest => simp [hn.ne', hgap c rfl]

instance (l : Line) : Decidable (∃ n, l.Heads n) := decidable_of_iff _ Starred.isSome_ofLine?_iff

/-- The heading is that of the line, which has a star for each level. -/
def Heading.IsOn (h : Heading) (l : Line) : Prop :=
  h.offset = l.offset ∧ ∃ n : Nat, h.level = n ∧ l.Heads n

/-- What is in order with the headings that lines have is in order with their lines. -/
theorem Starred.forall₂_lines {α : Type} {R : α → Starred → Prop} {as : List α} {ls : List Line}
    (h : List.Forall₂ R as (ls.filterMap ofLine?)) :
    List.Forall₂ (fun a l => ∃ s, ofLine? l = some s ∧ R a s) as
      (ls.filter fun l => ∃ n, l.Heads n) := by
  induction ls generalizing as with
  | nil =>
    cases h
    exact List.Forall₂.nil
  | cons l ls ih =>
    cases hs : ofLine? l with
    | none =>
      have hnot : ¬∃ n, l.Heads n := by
        rw [← isSome_ofLine?_iff, hs]
        exact Bool.false_ne_true
      rw [List.filterMap_cons_none hs] at h
      rw [List.filter_cons_of_neg (by simpa using hnot)]
      exact ih h
    | some s =>
      have hheads : ∃ n, l.Heads n := by
        rw [← isSome_ofLine?_iff, hs]
        rfl
      rw [List.filterMap_cons_some hs] at h
      obtain ⟨a, as, ha, has, rfl⟩ := List.forall₂_cons_right_iff.mp h
      rw [List.filter_cons_of_pos (by simpa using hheads)]
      exact List.Forall₂.cons ⟨s, hs, ha⟩ (ih has)

/-! Forests. -/

namespace Tree

/-- A place counted on from place `n`; where there was none stands that of `parent`. -/
def movePlace (parent : Option Nat) (n : Nat) : Option Nat → Option Nat
  | none => parent
  | some i => some (n + i)

theorem movePlace_movePlace (parent parent' : Option Nat) (n k : Nat) (p : Option Nat) :
    movePlace parent n (movePlace parent' k p) =
      movePlace (movePlace parent n parent') (n + k) p := by
  cases p with
  | none => rfl
  | some i => exact congrArg some (Nat.add_assoc n k i).symm

mutual

theorem placed_eq (parent : Option Nat) (n : Nat) : (t : Tree) →
    placed parent n t = (placed none 0 t).map fun p => (movePlace parent n p.1, p.2)
  | node h ts => by
    rw [placed, placed, placedOf_eq (some n), placedOf_eq (some 0), List.map_cons, List.map_map]
    simp only [Function.comp_def, movePlace_movePlace]
    rfl

/-- What is counted from another place has the same order. -/
theorem placedOf_eq (parent : Option Nat) (n : Nat) : (ts : List Tree) →
    placedOf parent n ts = (placedOf none 0 ts).map fun p => (movePlace parent n p.1, p.2)
  | [] => rfl
  | t :: ts => by
    rw [placedOf, placedOf, Nat.zero_add, placed_eq parent n, placedOf_eq parent,
      placedOf_eq none t.size, List.map_append, List.map_map]
    simp only [Function.comp_def, movePlace_movePlace]
    rfl

end

mutual

theorem map_snd_placed (parent : Option Nat) (n : Nat) : (t : Tree) →
    (placed parent n t).map Prod.snd = t.headings
  | node h ts => by rw [placed, headings, List.map_cons, map_snd_placedOf]

theorem map_snd_placedOf (parent : Option Nat) (n : Nat) : (ts : List Tree) →
    (placedOf parent n ts).map Prod.snd = headingsOf ts
  | [] => rfl
  | t :: ts => by rw [placedOf, headingsOf, List.map_append, map_snd_placed, map_snd_placedOf]

end

theorem placedOf_append (parent : Option Nat) (n : Nat) (ts us : List Tree) :
    placedOf parent n (ts ++ us) =
      placedOf parent n ts ++ placedOf parent (n + totalSize ts) us := by
  induction ts generalizing n with
  | nil => rfl
  | cons t ts ih =>
    rw [List.cons_append, placedOf, placedOf, totalSize, ih, List.append_assoc, Nat.add_assoc]

/-- A heading without a parent is that of one of the trees. -/
theorem exists_root {ts : List Tree} {n : Nat} {h : Heading} (hm : (none, h) ∈ placedOf none n ts) :
    ∃ t ∈ ts, t.heading = h := by
  induction ts generalizing n with
  | nil => cases hm
  | cons t ts ih =>
    obtain ⟨g, us⟩ := t
    rw [placedOf, placed, placedOf_eq (some n), List.cons_append, List.mem_cons,
      List.mem_append, List.mem_map] at hm
    rcases hm with he | ⟨⟨p, g'⟩, -, he⟩ | hm
    · exact ⟨node g us, List.mem_cons_self, (Prod.mk.inj he).2.symm⟩
    · -- Below the heading of a tree every heading has a parent.
      cases p <;> cases (Prod.mk.inj he).1
    · obtain ⟨t, ht, hh⟩ := ih hm
      exact ⟨t, List.mem_cons_of_mem _ ht, hh⟩

/-- No tree is at a smaller level than one behind it. -/
def Descends (ts : List Tree) : Prop :=
  ts.Pairwise fun t u => u.heading.level ≤ t.heading.level

theorem Descends.level_le {h : Heading} {ts : List Tree} (hts : Descends ts) {t : Tree}
    (ht : t ∈ ts.dropWhile (h.level < ·.heading.level)) : t.heading.level ≤ h.level := by
  induction ts with
  | nil => cases ht
  | cons u ts ih =>
    obtain ⟨hu, hts⟩ := List.pairwise_cons.mp hts
    rw [List.dropWhile_cons] at ht
    split at ht
    · exact ih hts ht
    · rename_i hlevel
      have hlevel : u.heading.level ≤ h.level := by simpa using hlevel
      rcases List.mem_cons.mp ht with rfl | ht
      · exact hlevel
      · exact Int.le_trans (hu t ht) hlevel

theorem descends_forest (hs : List Heading) : Descends (forest hs) := by
  induction hs with
  | nil => exact List.Pairwise.nil
  | cons h hs ih =>
    refine List.pairwise_cons.mpr ⟨fun t ht => ih.level_le ht, ?_⟩
    exact List.Pairwise.sublist (List.dropWhile_sublist _) ih

/-- Where a heading stands in front, it is the parent of the deeper ones that had none. -/
theorem placedOf_nest (h : Heading) {ts : List Tree} (hts : Descends ts) :
    placedOf none 0 (nest h ts) = (none, h) :: (placedOf none 0 ts).map fun p =>
      (movePlace (if h.level < p.2.level then some 0 else none) 1 p.1, p.2) := by
  let deeper : Tree → Bool := fun t => h.level < t.heading.level
  have hparts : placedOf none 0 ts = placedOf none 0 (ts.takeWhile deeper) ++
      placedOf none (totalSize (ts.takeWhile deeper)) (ts.dropWhile deeper) := by
    rw [← Nat.zero_add (totalSize _), ← placedOf_append, List.takeWhile_append_dropWhile]
  have hunder : placedOf (some 0) 1 (ts.takeWhile deeper) =
      (placedOf none 0 (ts.takeWhile deeper)).map fun p =>
        (movePlace (if h.level < p.2.level then some 0 else none) 1 p.1, p.2) := by
    rw [placedOf_eq (some 0)]
    refine List.map_congr_left ?_
    rintro ⟨p, x⟩ hp
    cases p with
    | some i => rfl
    | none =>
      obtain ⟨t, ht, rfl⟩ := exists_root hp
      have hlevel : h.level < t.heading.level := by simpa [deeper] using List.mem_takeWhile_imp ht
      dsimp only
      rw [if_pos hlevel]
  have hbeside (n : Nat) : placedOf none (n + 1) (ts.dropWhile deeper) =
      (placedOf none n (ts.dropWhile deeper)).map fun p =>
        (movePlace (if h.level < p.2.level then some 0 else none) 1 p.1, p.2) := by
    rw [placedOf_eq none n, placedOf_eq none (n + 1), List.map_map]
    refine List.map_congr_left ?_
    rintro ⟨p, x⟩ hp
    cases p with
    | some i => exact congrArg (fun k => (some k, x)) (by omega)
    | none =>
      obtain ⟨t, ht, rfl⟩ := exists_root hp
      have hlevel : ¬h.level < t.heading.level := Int.not_lt.mpr (hts.level_le ht)
      exact congrArg (fun q => (q, t.heading)) (if_neg hlevel).symm
  unfold nest
  rw [placedOf, placed, size, List.cons_append, Nat.zero_add, Nat.zero_add, hunder, hbeside,
    ← List.map_append, ← hparts]

end Tree

namespace Heading

variable {h : Heading} {hs : List Heading} {i j : Nat}

theorem isParent_cons_succ :
    IsParent (levelAt (h :: hs)) (i + 1) (j + 1) ↔ IsParent (levelAt hs) i j := by
  constructor
  · intro hp
    refine ⟨Nat.lt_of_succ_lt_succ hp.before, hp.smaller, fun k hik hkj => ?_⟩
    exact hp.nearest (k + 1) (Nat.succ_lt_succ hik) (Nat.succ_lt_succ hkj)
  · intro hp
    refine ⟨Nat.succ_lt_succ hp.before, hp.smaller, fun k hik hkj => ?_⟩
    cases k with
    | zero => exact absurd hik (Nat.not_lt_zero _)
    | succ k => exact hp.nearest k (Nat.lt_of_succ_lt_succ hik) (Nat.lt_of_succ_lt_succ hkj)

/-- The first heading is the parent of those deeper ones that have none behind it. -/
theorem isParent_cons_zero : IsParent (levelAt (h :: hs)) 0 (j + 1) ↔
    h.level < levelAt hs j ∧ ∀ i, ¬IsParent (levelAt hs) i j := by
  constructor
  · intro hp
    refine ⟨hp.smaller, fun i hi => ?_⟩
    have hnearest := hp.nearest (i + 1) (Nat.succ_pos i) (Nat.succ_lt_succ hi.before)
    exact absurd hi.smaller (Int.not_lt.mpr hnearest)
  · rintro ⟨hlevel, hnone⟩
    refine ⟨Nat.succ_pos j, hlevel, fun k hk hkj => ?_⟩
    cases k with
    | zero => exact absurd hk (Nat.lt_irrefl 0)
    | succ k =>
      by_contra hlt
      have hlt : levelAt hs k < levelAt hs j := Int.not_le.mp hlt
      obtain ⟨p, hp⟩ := exists_parent (Nat.lt_of_succ_lt_succ hkj) hlt
      exact hnone p hp

end Heading

/-- In a forest the parent of a heading is the nearest one before it of a smaller level. -/
theorem Tree.isParent_of_forest {hs : List Heading} {j : Nat} {p : Option Nat} {x : Heading}
    (hj : (placedOf none 0 (forest hs))[j]? = some (p, x)) (i : Nat) :
    p = some i ↔ IsParent (Heading.levelAt hs) i j := by
  -- Induction on the headings: the first of them is put in front of the forest of the others.
  induction hs generalizing j p i with
  | nil => cases hj
  | cons h hs ih =>
    have hforest : forest (h :: hs) = nest h (forest hs) := rfl
    rw [hforest, placedOf_nest h (descends_forest hs)] at hj
    cases j with
    | zero =>
      cases hj
      exact ⟨nofun, fun hp => absurd hp.before (Nat.not_lt_zero i)⟩
    | succ j =>
      rw [List.getElem?_cons_succ, List.getElem?_map, Option.map_eq_some_iff] at hj
      obtain ⟨⟨p₀, x₀⟩, hj, he⟩ := hj
      obtain ⟨rfl, rfl⟩ := Prod.mk.inj he
      have hx : hs[j]? = some x₀ := by
        have hsnd := map_snd_placedOf none 0 (forest hs)
        rw [headingsOf_forest] at hsnd
        rw [← hsnd, List.getElem?_map, hj]
        rfl
      dsimp only
      cases i with
      | succ i =>
        rw [Heading.isParent_cons_succ, ← ih hj i]
        cases p₀ with
        | some k => simp [movePlace, Nat.add_comm 1]
        | none => simp [movePlace]
      | zero =>
        rw [Heading.isParent_cons_zero, Heading.levelAt_of_getElem? hx]
        have hnone : (∀ i, ¬IsParent (Heading.levelAt hs) i j) ↔ p₀ = none := by
          simp only [← ih hj]
          cases p₀ <;> simp
        rw [hnone]
        cases p₀ with
        | some k => simp [movePlace]
        | none => simp [movePlace]

namespace Outline

/-- An outline has one heading for each heading line of its text, in their order, and each heading
is directly below the nearest one before it of a smaller level, or at the top if there is none. -/
theorem read_nested (o : Options) (t : Text) :
    let x := read o t
    List.Forall₂ Heading.IsOn x.headings ((Line.ofText t).filter fun l => ∃ n, l.Heads n) ∧
    x.placed.map Prod.snd = x.headings ∧
    ∀ j p h, x.placed[j]? = some (p, h) →
      ∀ i, p = some i ↔ IsParent (Heading.levelAt x.headings) i j := by
  intro x
  have hheadings : x.headings = readHeadings o (Line.sections (Line.ofText t)).2 :=
    Tree.headingsOf_forest _
  refine ⟨?_, Tree.map_snd_placedOf none 0 x.trees, ?_⟩
  · refine (Starred.forall₂_lines (headings_lines o t)).imp ?_
    rintro h l ⟨s, hs, hoffset, hlevel⟩
    obtain ⟨hline, hstars⟩ := Starred.stars_of_line hs
    exact ⟨hoffset.trans hline, s.level, hlevel, hstars⟩
  · intro j p h hj i
    rw [hheadings]
    exact Tree.isParent_of_forest hj i

/-- After a jump down and a jump up again, the last heading is at the top. -/
theorem read_nested_jumps :
    let t : Text := "text\n** a\n***** b\n*** c\n* d".toList
    let x := read .default t
    x.placed.map Prod.fst = [none, some 0, some 0, none] ∧
    List.Forall₂ Heading.IsOn x.headings ((Line.ofText t).filter fun l => ∃ n, l.Heads n) ∧
    x.placed.map Prod.snd = x.headings ∧
    ∃ h, x.placed[2]? = some (some 0, h) ∧ IsParent (Heading.levelAt x.headings) 0 2 := by
  intro t x
  have hplaces : x.placed.map Prod.fst = [none, some 0, some 0, none] := by decide +kernel
  obtain ⟨hlines, hheadings, hparents⟩ := read_nested .default t
  have hplace : (x.placed.map Prod.fst)[2]? = some (some 0) := by rw [hplaces]; rfl
  rw [List.getElem?_map] at hplace
  obtain ⟨⟨p, h⟩, hj, rfl⟩ := Option.map_eq_some_iff.mp hplace
  exact ⟨hplaces, hlines, hheadings, h, hj, (hparents 2 (some 0) h hj 0).mp rfl⟩

end Outline

end OutlineTables
