import OutlineTables.Proofs.Lookup
import OutlineTables.Proofs.Store.Sound
import OutlineTables.Sync.Plan

/-!
Moves that happen at once. Two rounds of renames by way of other paths take every row of a file
from its old path to its new one, whichever files take over each other's paths.
-/
namespace OutlineTables

namespace Row

/-- The row after moves that all happen at once, each from one path to another. -/
def relocated (moves : List (Text × Text)) (row : Row) : Row :=
  match moves.find? fun m => row.isOf m.1 with
  | some m => row.moved m.2
  | none => row

variable {row : Row} {m : Text × Text} {moves : List (Text × Text)} {p : Text}

theorem relocated_cons_of_isOf (h : row.isOf m.1 = true) :
    relocated (m :: moves) row = row.moved m.2 := by
  unfold relocated
  rw [List.find?_cons, h]

theorem relocated_cons_of_not_isOf (h : ¬row.isOf m.1 = true) :
    relocated (m :: moves) row = relocated moves row := by
  unfold relocated
  rw [List.find?_cons, Bool.eq_false_iff.mpr h]

theorem relocated_eq_self (h : ∀ m ∈ moves, row.isOf m.1 = false) : relocated moves row = row := by
  have hnone : (moves.find? fun m => row.isOf m.1) = none := by
    apply List.find?_eq_none.mpr
    intro m hm
    rw [h m hm]
    exact Bool.false_ne_true
  unfold relocated
  rw [hnone]

theorem relocated_of_mem (hn : (moves.map Prod.fst).Nodup) (hm : m ∈ moves)
    (h : row.isOf m.1 = true) : relocated moves row = row.moved m.2 := by
  have hof : (fun other : Text × Text => row.isOf other.1) =
      fun other : Text × Text => decide (other.1 = m.1) := by
    funext other
    simp [isOf, cell_of_isOf h, eq_comm]
  unfold relocated
  rw [hof, find?_of_mem hn hm]

/-- A path that no file has and none moves to is still free. -/
theorem not_isOf_relocated (h : row.isOf p = false) (hp : ∀ m ∈ moves, m.2 ≠ p) :
    (relocated moves row).isOf p = false := by
  unfold relocated
  split
  · rename_i m hm
    have hof := List.find?_some hm
    rw [isOf_moved hof]
    simpa using hp m (List.mem_of_find?_eq_some hm)
  · exact h

theorem moved_moved (q q' : Text) (row : Row) : (row.moved q).moved q' = row.moved q' := by
  unfold moved withCells
  rw [List.map_map]
  apply List.map_congr_left
  rintro ⟨n, c⟩ -
  by_cases hn : n = "file_path"
  · simp [hn]
  · have hn' : (n == "file_path") = false := by simpa using hn
    simp [List.lookup_cons, hn']

section Twice

variable {α : Type} {old mid new : α → Text} {xs : List α}

/-- By way of paths that no two files share, all files arrive where they go. -/
theorem relocated_twice (hmid : (xs.map mid).Nodup) (hrow : ∀ x ∈ xs, row.isOf (mid x) = false) :
    relocated (xs.map fun x => (mid x, new x)) (relocated (xs.map fun x => (old x, mid x)) row) =
      relocated (xs.map fun x => (old x, new x)) row := by
  induction xs with
  | nil => rfl
  | cons x xs ih =>
    rw [List.map_cons, List.nodup_cons] at hmid
    rw [List.map_cons, List.map_cons, List.map_cons]
    by_cases hx : row.isOf (old x) = true
    · have hthere : relocated ((old x, mid x) :: xs.map fun x => (old x, mid x)) row =
          row.moved (mid x) := relocated_cons_of_isOf hx
      have hall : relocated ((old x, new x) :: xs.map fun x => (old x, new x)) row =
          row.moved (new x) := relocated_cons_of_isOf hx
      rw [hthere, hall]
      have hmoved : (row.moved (mid x)).isOf (mid x) = true := by
        rw [isOf_moved hx]
        exact decide_eq_true rfl
      rw [relocated_cons_of_isOf hmoved, moved_moved]
    · have hthere : relocated ((old x, mid x) :: xs.map fun x => (old x, mid x)) row =
          relocated (xs.map fun x => (old x, mid x)) row := relocated_cons_of_not_isOf hx
      have hall : relocated ((old x, new x) :: xs.map fun x => (old x, new x)) row =
          relocated (xs.map fun x => (old x, new x)) row := relocated_cons_of_not_isOf hx
      rw [hthere, hall]
      -- Files that come later are on other paths meanwhile.
      have hfree : (relocated (xs.map fun x => (old x, mid x)) row).isOf (mid x) = false := by
        apply not_isOf_relocated (hrow x List.mem_cons_self)
        intro m hm he
        obtain ⟨y, hy, rfl⟩ := List.mem_map.mp hm
        exact hmid.1 (List.mem_map.mpr ⟨y, hy, he⟩)
      rw [relocated_cons_of_not_isOf (by simp [hfree])]
      exact ih hmid.2 fun y hy => hrow y (List.mem_cons_of_mem _ hy)

end Twice

end Row

namespace Store

/-- Statements that are executed one after the other, from sound stores to sound stores. -/
inductive SoundRun : Store → List Statement → Store → Prop
  | nil {s : Store} (h : s.Sound) : SoundRun s [] s
  | cons {s a s' : Store} {x : Statement} {xs : List Statement} (h : s.Sound)
    (hx : s.exec x = .ok a) (hrest : SoundRun a xs s') : SoundRun s (x :: xs) s'

variable {s a s' : Store} {xs ys : List Statement}

theorem SoundRun.target (h : SoundRun s xs s') : s'.Sound := by
  induction h with
  | nil h => exact h
  | cons _ _ _ ih => exact ih

theorem SoundRun.append (h : SoundRun s xs a) (h' : SoundRun a ys s') :
    SoundRun s (xs ++ ys) s' := by
  induction h with
  | nil _ => exact h'
  | cons hs hx _ ih => exact SoundRun.cons hs hx (ih h')

theorem SoundRun.execAll (h : SoundRun s xs s') : s.execAll xs = .ok s' := by
  induction h with
  | nil _ => rfl
  | cons _ hx _ ih =>
    unfold Store.execAll
    rw [List.foldlM_cons, hx]
    exact ih

/-- All stores on the way are sound. -/
theorem SoundRun.prefix (h : SoundRun s xs s') (hp : ys <+: xs) : ∃ a, SoundRun s ys a := by
  induction h generalizing ys with
  | nil h =>
    rw [List.prefix_nil.mp hp]
    exact ⟨_, SoundRun.nil h⟩
  | @cons s a s' x xs hs hx _ ih =>
    cases ys with
    | nil => exact ⟨s, SoundRun.nil hs⟩
    | cons y ys =>
      obtain ⟨rfl, hrest⟩ := List.cons_prefix_cons.mp hp
      obtain ⟨b, hb⟩ := ih hrest
      exact ⟨b, SoundRun.cons hs hx hb⟩

/-- One round of deletions. -/
theorem Sound.exists_deletions (h : s.Sound) (ps : List Text) : ∃ s',
    SoundRun s (ps.map fun p => .delete "files" (Report.pathRecord (some p))) s' ∧
      ∀ n, s'.rows n = (s.rows n).filter fun row => !ps.any (row.isOf ·) := by
  induction ps generalizing s with
  | nil => exact ⟨s, SoundRun.nil h, fun n => by simp⟩
  | cons p ps ih =>
    obtain ⟨a, ha, hsound, hrows⟩ := h.exists_delete p
    obtain ⟨s', hrun, hrows'⟩ := ih hsound
    refine ⟨s', SoundRun.cons h ha hrun, ?_⟩
    intro n
    rw [hrows', hrows, List.filter_filter]
    apply List.filter_congr
    intro row _
    rw [List.any_cons, Bool.not_or, Bool.and_comm]

/-- One round of renames, if no new path is that of another file before or after. -/
theorem Sound.exists_renames {moves : List (Text × Text)} (h : s.Sound)
    (hn : (moves.map Prod.fst ++ moves.map Prod.snd).Nodup)
    (hfree : ∀ m ∈ moves, ∀ row ∈ s.rows "files", row.isOf m.2 = false) : ∃ s',
    SoundRun s (moves.map fun m => Report.rename (some m.1) (some m.2)) s' ∧
      ∀ n, s'.rows n = (s.rows n).map (Row.relocated moves) := by
  induction moves generalizing s with
  | nil =>
    refine ⟨s, SoundRun.nil h, fun n => ?_⟩
    have hid : Row.relocated [] = id := rfl
    rw [hid, List.map_id]
  | cons m moves ih =>
    rw [List.map_cons, List.map_cons, List.cons_append, List.nodup_cons] at hn
    obtain ⟨hold, hn⟩ := hn
    have hn' := List.perm_middle.nodup_iff.mp hn
    rw [List.nodup_cons] at hn'
    have hne : m.1 ≠ m.2 := by
      intro he
      apply hold
      rw [he]
      exact List.mem_append_right _ List.mem_cons_self
    obtain ⟨a, ha, hsound, hrows⟩ := h.exists_rename hne (hfree m List.mem_cons_self)
    -- What this rename does is the relocation of one file.
    have hone (row : Row) : renamed m.1 m.2 row = Row.relocated [m] row := by
      unfold renamed
      split
      · rename_i hof
        rw [Row.relocated_cons_of_isOf hof]
      · rename_i hof
        rw [Row.relocated_cons_of_not_isOf hof]
        rfl
    have hfree' : ∀ m' ∈ moves, ∀ row ∈ a.rows "files", row.isOf m'.2 = false := by
      intro m' hm' row hrow
      rw [hrows] at hrow
      obtain ⟨b, hb, rfl⟩ := List.mem_map.mp hrow
      rw [hone]
      apply Row.not_isOf_relocated (hfree m' (List.mem_cons_of_mem _ hm') b hb)
      intro m'' hm'' he
      rw [List.mem_singleton.mp hm''] at he
      apply hn'.1
      rw [he]
      exact List.mem_append_right _ (List.mem_map_of_mem hm')
    obtain ⟨s', hrun, hrows'⟩ := ih hsound hn'.2 hfree'
    refine ⟨s', SoundRun.cons h ha hrun, ?_⟩
    intro n
    rw [hrows', hrows, List.map_map]
    apply List.map_congr_left
    intro row _
    dsimp only [Function.comp_apply]
    rw [hone]
    by_cases hof : row.isOf m.1 = true
    · rw [Row.relocated_cons_of_isOf hof, Row.relocated_cons_of_isOf hof]
      -- The other moves do not start where this one ends.
      apply Row.relocated_eq_self
      intro m' hm'
      rw [Row.isOf_moved hof, decide_eq_false_iff_not]
      intro he
      apply hn'.1
      rw [he]
      exact List.mem_append_left _ (List.mem_map_of_mem hm')
    · rw [Row.relocated_cons_of_not_isOf hof, Row.relocated_cons_of_not_isOf hof]
      rfl

section Rounds

variable {α : Type} {old mid new : α → Text} {xs : List α}

/-- Two rounds of renames, by way of paths that no file has before or after. A new path may be that
of a file that moves. -/
theorem Sound.exists_moves (h : s.Sound) (hold : (xs.map old).Nodup)
    (hmid : (xs.map mid).Nodup) (hnew : (xs.map new).Nodup)
    (hapart : ∀ x ∈ xs, ∀ y ∈ xs, mid x ≠ old y ∧ mid x ≠ new y)
    (hbetween : ∀ x ∈ xs, ∀ row ∈ s.rows "files", row.isOf (mid x) = false)
    (hfree : ∀ x ∈ xs, ∀ row ∈ s.rows "files", row.isOf (new x) = true →
      ∃ y ∈ xs, row.isOf (old y) = true) : ∃ s',
    SoundRun s ((xs.map fun x => Report.rename (some (old x)) (some (mid x))) ++
        xs.map fun x => Report.rename (some (mid x)) (some (new x))) s' ∧
      ∀ n, s'.rows n = (s.rows n).map (Row.relocated (xs.map fun x => (old x, new x))) := by
  have hthere : ((xs.map fun x => (old x, mid x)).map Prod.fst ++
      (xs.map fun x => (old x, mid x)).map Prod.snd).Nodup := by
    rw [List.map_map, List.map_map, List.nodup_append]
    refine ⟨hold, hmid, ?_⟩
    intro p hp q hq he
    obtain ⟨y, hy, rfl⟩ := List.mem_map.mp hp
    obtain ⟨x, hx, rfl⟩ := List.mem_map.mp hq
    exact (hapart x hx y hy).1 he.symm
  have hback : ((xs.map fun x => (mid x, new x)).map Prod.fst ++
      (xs.map fun x => (mid x, new x)).map Prod.snd).Nodup := by
    rw [List.map_map, List.map_map, List.nodup_append]
    refine ⟨hmid, hnew, ?_⟩
    intro p hp q hq he
    obtain ⟨x, hx, rfl⟩ := List.mem_map.mp hp
    obtain ⟨y, hy, rfl⟩ := List.mem_map.mp hq
    exact (hapart x hx y hy).2 he
  have hout : ∀ m ∈ xs.map (fun x => (old x, mid x)), ∀ row ∈ s.rows "files",
      row.isOf m.2 = false := by
    intro m hm row hrow
    obtain ⟨x, hx, rfl⟩ := List.mem_map.mp hm
    exact hbetween x hx row hrow
  obtain ⟨a, hrun, hrows⟩ := h.exists_renames hthere hout
  -- After the first round no moved file has a path of its own, so all new paths are free.
  have hin : ∀ m ∈ xs.map (fun x => (mid x, new x)), ∀ row ∈ a.rows "files",
      row.isOf m.2 = false := by
    intro m hm row hrow
    obtain ⟨x, hx, rfl⟩ := List.mem_map.mp hm
    rw [hrows] at hrow
    obtain ⟨b, hb, rfl⟩ := List.mem_map.mp hrow
    cases hof : b.isOf (new x) with
    | false =>
      apply Row.not_isOf_relocated hof
      intro m hm he
      obtain ⟨y, hy, rfl⟩ := List.mem_map.mp hm
      exact (hapart y hy x hx).2 he
    | true =>
      obtain ⟨y, hy, hby⟩ := hfree x hx b hb hof
      unfold Row.relocated
      split
      · rename_i m hm
        obtain ⟨z, hz, rfl⟩ := List.mem_map.mp (List.mem_of_find?_eq_some hm)
        rw [Row.isOf_moved hof, decide_eq_false_iff_not]
        exact (hapart z hz x hx).2
      · rename_i hnone
        have hnot := List.find?_eq_none.mp hnone (old y, mid y)
          (List.mem_map_of_mem (f := fun x => (old x, mid x)) hy)
        exact absurd hby hnot
  obtain ⟨s', hrun', hrows'⟩ := hrun.target.exists_renames hback hin
  rw [List.map_map] at hrun hrun'
  refine ⟨s', hrun.append hrun', ?_⟩
  intro n
  rw [hrows', hrows, List.map_map]
  apply List.map_congr_left
  intro row hrow
  exact Row.relocated_twice hmid fun x hx => h.not_isOf (hbetween x hx) hrow

end Rounds

end Store

end OutlineTables
