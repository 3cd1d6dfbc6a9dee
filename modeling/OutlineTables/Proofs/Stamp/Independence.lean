import Mathlib.Logic.Relation
import OutlineTables.Proofs.Stamp.Suffixes
import OutlineTables.Proofs.Text.Languages

/-!
Repeaters and warnings do not get in each other's way. Main statement: what is read behind a date
is the first word that writes a repeater and the first that writes a warning, whatever other words
stand between them and however the words of the two kinds are mixed.
-/
namespace OutlineTables

namespace Stamp

open Text

/-- A mark, a count in decimal digits and a unit, in front of `rest`. -/
structure Counts (mark ds : Text) (unit : TimeUnit) (rest t : Text) : Prop where
  nonempty : ds ≠ []
  digits : ∀ c ∈ ds, isDigit c = true
  text : mark ++ (ds ++ unit.letter :: rest) = t

end Stamp

open Stamp

/-- How a repeater may be written: its mark, its count, its unit, and maybe a slash with a second
period, which does not count. -/
def Repeater.WrittenAs (r : Repeater) (t : Text) : Prop :=
  ∃ ds rest, Counts r.kind.mark ds r.unit rest t ∧ Numeral.value ds = r.count ∧
    (rest = [] ∨ ∃ ds' unit, Counts ['/'] ds' unit [] rest)

/-- How a warning may be written: its mark, its count and its unit. -/
def Warning.WrittenAs (w : Warning) (t : Text) : Prop :=
  ∃ ds, Counts w.kind.mark ds w.unit [] t ∧ Numeral.value ds = w.count

theorem TimeUnit.ofLetter?_eq_some_iff {c : Char} {unit : TimeUnit} :
    ofLetter? c = some unit ↔ c = unit.letter := by
  constructor
  · intro h
    unfold ofLetter? at h
    split at h <;> cases h <;> rfl
  · rintro rfl
    exact ofLetter?_letter unit

theorem TimeUnit.isDigit_letter (unit : TimeUnit) : Text.isDigit unit.letter = false := by
  cases unit <;> decide

theorem Numeral.eq_value_of_read {t : Text} {n : Nat} (h : read t = .ok n) : n = value t := by
  unfold read at h
  dsimp only at h
  split at h
  · cases h
  · split at h
    · cases h
      rfl
    · cases h

namespace Stamp

open Text

def IsRepeater (t : Text) : Prop := ∃ r : Repeater, r.WrittenAs t

def IsWarning (t : Text) : Prop := ∃ w : Warning, w.WrittenAs t

/-! ### Words of either kind -/

section Words

variable {mark mark' ds rest t : Text} {unit : TimeUnit}

theorem counted?_eq_some_iff : counted? mark t = some (ds, unit, rest) ↔
    Counts mark ds unit rest t := by
  constructor
  · intro h
    obtain ⟨t', ht, hcounted⟩ := Option.bind_eq_some_iff.mp h
    obtain ⟨-, hne, hdigits⟩ := counted?_digits h
    refine ⟨hne, hdigits, ?_⟩
    rw [← append_of_after? ht]
    dsimp only at hcounted
    split at hcounted
    · cases hcounted
    · split at hcounted
      · rename_i u rest' hdrop
        obtain ⟨unit', hunit, he⟩ := Option.map_eq_some_iff.mp hcounted
        cases he
        rw [TimeUnit.ofLetter?_eq_some_iff.mp hunit] at hdrop
        rw [← hdrop, List.takeWhile_append_dropWhile]
      · cases hcounted
  · rintro ⟨hne, hdigits, rfl⟩
    obtain ⟨htake, hdrop⟩ := takeWhile_stop hdigits unit.isDigit_letter rest
    rw [counted?, after?_append]
    simp only [Option.bind_eq_bind, Option.bind_some, htake, hdrop]
    rw [if_neg (by simpa using hne), TimeUnit.ofLetter?_letter, Option.map_some]

theorem counted?_eq_none (h : ¬mark <+: t) : counted? mark t = none := by
  rw [← isSome_after?_iff, Option.not_isSome_iff_eq_none] at h
  simp [counted?, h]

/-- Behind its mark a word goes on with a digit, so no longer mark is read from it. -/
theorem counted?_eq_none_of_longer {c : Char} (hc : isDigit c = false)
    (h : Counts mark ds unit rest t) : counted? (mark ++ [c]) t = none := by
  obtain ⟨hne, hdigits, rfl⟩ := h
  obtain ⟨d, ds, rfl⟩ := List.exists_cons_of_ne_nil hne
  have hd : isDigit d = true := hdigits d List.mem_cons_self
  refine counted?_eq_none fun hprefix => ?_
  rw [List.prefix_append_right_inj] at hprefix
  obtain ⟨rfl, -⟩ := List.cons_prefix_cons.mp hprefix
  rw [hc] at hd
  cases hd

theorem counted?_eq_none_of_head {c d : Char} (hcd : c ≠ d)
    (h : Counts (d :: mark) ds unit rest t) : counted? (c :: mark') t = none := by
  obtain ⟨-, -, rfl⟩ := h
  refine counted?_eq_none fun hprefix => hcd ?_
  exact (List.cons_prefix_cons.mp hprefix).1

theorem repeaterWord?_eq_some_iff {kind : RepeatKind} :
    repeaterWord? t = some (kind, ds, unit) ↔ ∃ rest, Counts kind.mark ds unit rest t ∧
      (rest = [] ∨ ∃ ds' unit', Counts ['/'] ds' unit' [] rest) := by
  constructor
  · intro h
    obtain ⟨k, -, hk⟩ := List.exists_of_findSome?_eq_some h
    obtain ⟨⟨ds', unit', rest⟩, hcounted, hk⟩ := Option.bind_eq_some_iff.mp hk
    have hcounts := counted?_eq_some_iff.mp hcounted
    dsimp only at hk
    split at hk
    · rename_i hempty
      cases hk
      exact ⟨rest, hcounts, Or.inl (List.isEmpty_iff.mp hempty)⟩
    · obtain ⟨⟨ds'', unit'', rest'⟩, hsecond, hk⟩ := Option.bind_eq_some_iff.mp hk
      dsimp only at hk
      split at hk
      · rename_i hempty
        cases hk
        rw [List.isEmpty_iff.mp hempty] at hsecond
        exact ⟨rest, hcounts, Or.inr ⟨ds'', unit'', counted?_eq_some_iff.mp hsecond⟩⟩
      · cases hk
  · rintro ⟨rest, hcounts, htail⟩
    have hcounted := counted?_eq_some_iff.mpr hcounts
    -- What stands behind the unit does not count, whatever the mark.
    have hrest : (if rest = [] then some (kind, ds, unit)
        else (counted? ['/'] rest).bind fun p =>
          if p.2.2 = [] then some (kind, ds, unit) else none) = some (kind, ds, unit) := by
      split
      · rfl
      · rename_i hne
        obtain ⟨ds', unit', hsecond⟩ := htail.resolve_left hne
        rw [counted?_eq_some_iff.mpr hsecond]
        rfl
    cases kind with
    | restart => simp [repeaterWord?, hcounted, hrest]
    | catchUp =>
      have hrestart : counted? RepeatKind.restart.mark t = none :=
        counted?_eq_none_of_head (by decide) hcounts
      simp [repeaterWord?, hcounted, hrestart, hrest]
    | cumulate =>
      have hrestart : counted? RepeatKind.restart.mark t = none :=
        counted?_eq_none_of_head (by decide) hcounts
      have hcatchUp : counted? RepeatKind.catchUp.mark t = none :=
        counted?_eq_none_of_longer (by decide) hcounts
      simp [repeaterWord?, hcounted, hrestart, hcatchUp, hrest]

theorem warningWord?_eq_some_iff {kind : WarningKind} :
    warningWord? t = some (kind, ds, unit) ↔ Counts kind.mark ds unit [] t := by
  constructor
  · intro h
    obtain ⟨k, -, hk⟩ := List.exists_of_findSome?_eq_some h
    obtain ⟨⟨ds', unit', rest⟩, hcounted, hk⟩ := Option.bind_eq_some_iff.mp hk
    dsimp only at hk
    split at hk
    · rename_i hempty
      cases hk
      rw [List.isEmpty_iff.mp hempty] at hcounted
      exact counted?_eq_some_iff.mp hcounted
    · cases hk
  · intro hcounts
    have hcounted := counted?_eq_some_iff.mpr hcounts
    cases kind with
    | first => simp [warningWord?, hcounted]
    | all =>
      have hfirst : counted? WarningKind.first.mark t = none :=
        counted?_eq_none_of_longer (by decide) hcounts
      simp [warningWord?, hcounted, hfirst]

theorem isSome_repeaterWord?_iff : (repeaterWord? t).isSome = true ↔ IsRepeater t := by
  constructor
  · intro h
    obtain ⟨⟨kind, ds, unit⟩, h⟩ := Option.isSome_iff_exists.mp h
    obtain ⟨rest, hcounts, htail⟩ := repeaterWord?_eq_some_iff.mp h
    exact ⟨⟨kind, Numeral.value ds, unit⟩, ds, rest, hcounts, rfl, htail⟩
  · rintro ⟨r, ds, rest, hcounts, -, htail⟩
    rw [repeaterWord?_eq_some_iff.mpr ⟨rest, hcounts, htail⟩]
    rfl

theorem isSome_warningWord?_iff : (warningWord? t).isSome = true ↔ IsWarning t := by
  constructor
  · intro h
    obtain ⟨⟨kind, ds, unit⟩, h⟩ := Option.isSome_iff_exists.mp h
    exact ⟨⟨kind, Numeral.value ds, unit⟩, ds, warningWord?_eq_some_iff.mp h, rfl⟩
  · rintro ⟨w, ds, hcounts, -⟩
    rw [warningWord?_eq_some_iff.mpr hcounts]
    rfl

end Words

/-! ### The first word of a kind -/

/-- What the first of some words is that writes anything, if there is one. -/
inductive First {μ : Type} (WrittenAs : μ → Text → Prop) : List Text → Option μ → Prop where
  | none {ts : List Text} (h : ∀ t ∈ ts, ¬∃ m, WrittenAs m t) : First WrittenAs ts none
  | some {before after : List Text} {t : Text} {m : μ} (h : ∀ u ∈ before, ¬∃ n, WrittenAs n u)
    (ht : WrittenAs m t) : First WrittenAs (before ++ t :: after) (some m)

section FirstMark

variable {κ μ : Type} {word? : Text → Option (κ × Text × TimeUnit)}
  {make : κ → Nat → TimeUnit → μ} {ts us : List Text}

theorem first_of_firstMark {WrittenAs : μ → Text → Prop} {m : Option μ}
    (hword : ∀ t, (word? t).isSome = true ↔ ∃ m, WrittenAs m t)
    (hmake : ∀ t kind ds unit, word? t = some (kind, ds, unit) →
      WrittenAs (make kind (Numeral.value ds) unit) t)
    (h : firstMark word? make ts = .ok m) : First WrittenAs ts m := by
  have hnone {t : Text} (ht : word? t = Option.none) : ¬∃ m, WrittenAs m t := by
    rw [← hword t, ht]
    exact Bool.false_ne_true
  unfold firstMark at h
  split at h
  · rename_i hfirst
    cases h
    exact .none fun t ht => hnone (List.findSome?_eq_none_iff.mp hfirst t ht)
  · rename_i kind ds unit hfirst
    obtain ⟨before, t, after, rfl, ht, hbefore⟩ := List.findSome?_eq_some_iff.mp hfirst
    obtain ⟨n, hn, rfl⟩ := map_eq_ok.mp h
    rw [Numeral.eq_value_of_read hn]
    exact .some (fun u hu => hnone (hbefore u hu)) (hmake t kind ds unit ht)

/-- Only the words of the kind count. -/
theorem firstMark_congr (h : ts.filterMap word? = us.filterMap word?) :
    firstMark word? make ts = firstMark word? make us := by
  unfold firstMark
  rw [← List.head?_filterMap, ← List.head?_filterMap, h]

end FirstMark

/-! ### Words of both kinds, mixed -/

/-- A word of neither kind that comes in, or repeaters and warnings that change places, with
nothing but words of neither kind between them. -/
inductive Rewording : List Text → List Text → Prop where
  | insert (before after : List Text) (t : Text) (ht : ¬IsRepeater t ∧ ¬IsWarning t) :
    Rewording (before ++ after) (before ++ t :: after)
  | interchange (before ts between us after : List Text) (hts : ∀ t ∈ ts, IsRepeater t)
    (hbetween : ∀ t ∈ between, ¬IsRepeater t ∧ ¬IsWarning t) (hus : ∀ u ∈ us, IsWarning u) :
    Rewording (before ++ (ts ++ between ++ us) ++ after) (before ++ (us ++ between ++ ts) ++ after)

/-- The same repeaters in the same order, and the same warnings. -/
structure SameMarks (ts us : List Text) : Prop where
  repeaters : ts.filterMap repeaterWord? = us.filterMap repeaterWord?
  warnings : ts.filterMap warningWord? = us.filterMap warningWord?

theorem SameMarks.refl (ts : List Text) : SameMarks ts ts := ⟨rfl, rfl⟩

theorem SameMarks.symm {ts us : List Text} (h : SameMarks ts us) : SameMarks us ts :=
  ⟨h.repeaters.symm, h.warnings.symm⟩

theorem SameMarks.trans {ts us vs : List Text} (h : SameMarks ts us) (h' : SameMarks us vs) :
    SameMarks ts vs :=
  ⟨h.repeaters.trans h'.repeaters, h.warnings.trans h'.warnings⟩

theorem sameMarks_of_rewording {ts us : List Text} (h : Rewording ts us) : SameMarks ts us := by
  have hnoRepeater {t : Text} (ht : ¬IsRepeater t) : repeaterWord? t = none := by
    rwa [← isSome_repeaterWord?_iff, Option.not_isSome_iff_eq_none] at ht
  have hnoWarning {t : Text} (ht : ¬IsWarning t) : warningWord? t = none := by
    rwa [← isSome_warningWord?_iff, Option.not_isSome_iff_eq_none] at ht
  cases h with
  | insert before after t ht =>
    constructor
    · rw [List.filterMap_append, List.filterMap_append, List.filterMap_cons_none (hnoRepeater ht.1)]
    · rw [List.filterMap_append, List.filterMap_append, List.filterMap_cons_none (hnoWarning ht.2)]
  | interchange before ts between us after hts hbetween hus =>
    -- No word is of both kinds, so of each kind only one of the parts has words.
    have hdisjoint {t : Text} (ht : IsRepeater t) : warningWord? t = none :=
      warningWord?_eq_none (isSome_repeaterWord?_iff.mpr ht)
    have hts' : ts.filterMap warningWord? = [] :=
      List.filterMap_eq_nil_iff.mpr fun t ht => hdisjoint (hts t ht)
    have hus' : us.filterMap repeaterWord? = [] := by
      refine List.filterMap_eq_nil_iff.mpr fun u hu => hnoRepeater fun hr => ?_
      have hsome := isSome_warningWord?_iff.mpr (hus u hu)
      rw [hdisjoint hr] at hsome
      cases hsome
    constructor
    · have hnone : between.filterMap repeaterWord? = [] :=
        List.filterMap_eq_nil_iff.mpr fun t ht => hnoRepeater (hbetween t ht).1
      simp only [List.filterMap_append, hus', hnone, List.nil_append, List.append_nil]
    · have hnone : between.filterMap warningWord? = [] :=
        List.filterMap_eq_nil_iff.mpr fun t ht => hnoWarning (hbetween t ht).2
      simp only [List.filterMap_append, hts', hnone, List.nil_append, List.append_nil]

/-- Any number of such changes, made or taken back, keeps the words of each kind in their order. -/
theorem sameMarks_of_rewordings {ts us : List Text} (h : Relation.EqvGen Rewording ts us) :
    SameMarks ts us := by
  induction h with
  | rel ts us h => exact sameMarks_of_rewording h
  | refl ts => exact SameMarks.refl ts
  | symm ts us _ ih => exact ih.symm
  | trans ts us vs _ _ ih ih' => exact ih.trans ih'

theorem readMarks_eq_of_sameMarks {ts us : List Text} (h : SameMarks ts us)
    {r : Option Repeater} {w : Option Warning} (hts : readMarks none none ts = .ok (r, w)) :
    readMarks none none us = .ok (r, w) := by
  rw [readMarks_eq_ok_iff] at hts ⊢
  rw [← firstMark_congr h.repeaters, ← firstMark_congr h.warnings]
  exact hts

/-- What stands behind a date is read as the first of its words that writes a repeater and the
first that writes a warning. It stays the same if words of neither kind come in or go away, and if
repeaters and warnings change places: only the order of the repeaters among themselves counts, and
that of the warnings. -/
theorem readSuffix_first {t : Text} {r : Option Repeater} {w : Option Warning}
    (h : readSuffix t = .ok (r, w)) :
    First Repeater.WrittenAs (words isBlank t) r ∧ First Warning.WrittenAs (words isBlank t) w ∧
      ∀ u, Relation.EqvGen Rewording (words isBlank t) (words isBlank u) →
        readSuffix u = .ok (r, w) := by
  obtain ⟨hrepeater, hwarning⟩ := readMarks_eq_ok_iff.mp h
  refine ⟨?_, ?_, fun u hu => readMarks_eq_of_sameMarks (sameMarks_of_rewordings hu) h⟩
  · refine first_of_firstMark (fun t => isSome_repeaterWord?_iff) ?_ hrepeater
    intro t kind ds unit ht
    obtain ⟨rest, hcounts, htail⟩ := repeaterWord?_eq_some_iff.mp ht
    exact ⟨ds, rest, hcounts, rfl, htail⟩
  · refine first_of_firstMark (fun t => isSome_warningWord?_iff) ?_ hwarning
    intro t kind ds unit ht
    exact ⟨ds, warningWord?_eq_some_iff.mp ht, rfl⟩

/-- A repeater and a warning change places across a word that goes away, and another word comes in
behind a second repeater. -/
theorem readSuffix_first_mixed :
    let t : Text := " +1d/2w note --3d -1m ++2y".toList
    let u : Text := "--3d\t+1d/2w -1m ++2y done".toList
    readSuffix t = .ok (some ⟨.cumulate, 1, .day⟩, some ⟨.first, 3, .day⟩) ∧
      Relation.EqvGen Rewording (words isBlank t) (words isBlank u) ∧
      First Repeater.WrittenAs (words isBlank t) (some ⟨.cumulate, 1, .day⟩) ∧
      First Warning.WrittenAs (words isBlank t) (some ⟨.first, 3, .day⟩) ∧
      readSuffix u = .ok (some ⟨.cumulate, 1, .day⟩, some ⟨.first, 3, .day⟩) := by
  intro t u
  have h : readSuffix t = .ok (some ⟨.cumulate, 1, .day⟩, some ⟨.first, 3, .day⟩) := by
    decide +kernel
  have hneither {v : Text} (hv : repeaterWord? v = none ∧ warningWord? v = none) :
      ¬IsRepeater v ∧ ¬IsWarning v := by
    rw [← isSome_repeaterWord?_iff, ← isSome_warningWord?_iff, hv.1, hv.2]
    decide
  have hrepeater : IsRepeater "+1d/2w".toList := isSome_repeaterWord?_iff.mp (by decide +kernel)
  have hwarning : IsWarning "--3d".toList := isSome_warningWord?_iff.mp (by decide +kernel)
  have hnote : ¬IsRepeater "note".toList ∧ ¬IsWarning "note".toList :=
    hneither (by decide +kernel)
  have hdone : ¬IsRepeater "done".toList ∧ ¬IsWarning "done".toList :=
    hneither (by decide +kernel)
  have hmoved := Rewording.interchange [] ["+1d/2w".toList] ["note".toList] ["--3d".toList]
    ["-1m".toList, "++2y".toList] (by simpa using hrepeater) (by simpa using hnote)
    (by simpa using hwarning)
  have hgone := Rewording.insert ["--3d".toList] ["+1d/2w".toList, "-1m".toList, "++2y".toList]
    "note".toList hnote
  have hadded := Rewording.insert
    ["--3d".toList, "+1d/2w".toList, "-1m".toList, "++2y".toList] [] "done".toList hdone
  have hreworded : Relation.EqvGen Rewording (words isBlank t) (words isBlank u) :=
    ((Relation.EqvGen.rel _ _ hmoved).trans _ _ _
      ((Relation.EqvGen.rel _ _ hgone).symm _ _)).trans _ _ _ (Relation.EqvGen.rel _ _ hadded)
  obtain ⟨hr, hw, hsame⟩ := readSuffix_first h
  exact ⟨h, hreworded, hr, hw, hsame u hreworded⟩

end Stamp

end OutlineTables
