import OutlineTables.Proofs.Stamp.Components
import OutlineTables.Proofs.Text.Words

/-!
Repeaters and warnings read from their text. A mark is not taken for a shorter or a longer one,
since a digit follows it.
-/
namespace OutlineTables

namespace Stamp

open Text

theorem isBracket_of_isDigit {c : Char} (h : c.isDigit = true) : isBracket c = false := by
  cases hc : isBracket c with
  | false => rfl
  | true =>
    simp only [isBracket, Bool.or_eq_true, decide_eq_true_eq] at hc
    rcases hc with ((rfl | rfl) | rfl) | rfl <;> exact absurd h (by decide)

/-- A word behind the date and time. -/
structure MarkWord (t : Text) : Prop where
  head : ∃ c u, t = c :: u ∧ OpensMark c
  plain : ∀ c ∈ t, isBlank c = false ∧ isBracket c = false

variable {mark : Text} {a b : Char} {n : Nat} {unit : TimeUnit}

theorem markWord_period (ha : OpensMark a) (hmark : ∀ c ∈ mark, OpensMark c) :
    MarkWord (TimeUnit.period (a :: mark) n unit) := by
  have hopens {c : Char} (hc : OpensMark c) : isBlank c = false ∧ isBracket c = false := by
    rcases hc with rfl | rfl | rfl <;> exact ⟨by decide, by decide⟩
  refine ⟨⟨a, mark ++ Text.ofNat n ++ [unit.letter], rfl, ha⟩, ?_⟩
  intro c hc
  rcases List.mem_append.mp hc with hc | hc
  · rcases List.mem_append.mp hc with hc | hc
    · exact hopens (List.forall_mem_cons.mpr ⟨ha, hmark⟩ c hc)
    · have hdigit := isDigit_of_mem_ofNat hc
      exact ⟨isBlank_of_isDigit hdigit, isBracket_of_isDigit hdigit⟩
  · rw [List.mem_singleton.mp hc]
    cases unit <;> decide

theorem markWord_repeater (r : Repeater) : MarkWord r.text := by
  obtain ⟨kind, n, unit⟩ := r
  have hplus : ∀ c ∈ ['+'], OpensMark c := fun c hc => Or.inl (List.mem_singleton.mp hc)
  have hnone : ∀ c ∈ ([] : Text), OpensMark c := fun c hc => absurd hc List.not_mem_nil
  cases kind with
  | cumulate => exact markWord_period (Or.inl rfl) hnone
  | catchUp => exact markWord_period (Or.inl rfl) hplus
  | restart => exact markWord_period (Or.inr (Or.inl rfl)) hplus

theorem markWord_warning (w : Warning) : MarkWord w.text := by
  obtain ⟨kind, n, unit⟩ := w
  have hminus : ∀ c ∈ ['-'], OpensMark c := fun c hc => Or.inr (Or.inr (List.mem_singleton.mp hc))
  have hnone : ∀ c ∈ ([] : Text), OpensMark c := fun c hc => absurd hc List.not_mem_nil
  cases kind with
  | all => exact markWord_period (Or.inr (Or.inr rfl)) hnone
  | first => exact markWord_period (Or.inr (Or.inr rfl)) hminus

/-- The count and the unit behind the mark. -/
theorem counted?_period : counted? mark (TimeUnit.period mark n unit) =
    some (Text.ofNat n, unit, []) := by
  have hdigits := Numeral.digits_ofNat n
  have hletter : isDigit unit.letter = false := by cases unit <;> decide
  obtain ⟨htake, hdrop⟩ := takeWhile_stop hdigits hletter []
  have hne : ¬(Text.ofNat n).isEmpty = true := by
    rw [List.isEmpty_iff]
    exact Text.ofNat_ne_nil n
  rw [TimeUnit.period, List.append_assoc, counted?, after?_append]
  simp only [Option.bind_eq_bind, Option.bind_some, htake, hdrop]
  rw [if_neg hne, TimeUnit.ofLetter?_letter, Option.map_some]

theorem counted?_eq_none_of_ne (h : a ≠ b) (lead : Text) :
    counted? (a :: lead) (TimeUnit.period (b :: mark) n unit) = none := by
  simp [counted?, TimeUnit.period, after?, h]

/-- A mark of one character is not read as a longer one. -/
theorem counted?_eq_none_of_short (hb : isDigit b = false) (lead : Text) :
    counted? (a :: b :: lead) (TimeUnit.period [a] n unit) = none := by
  obtain ⟨d, ds, hd⟩ := List.exists_cons_of_ne_nil (Text.ofNat_ne_nil n)
  have hdigit : isDigit d = true := Numeral.digits_ofNat n d (by rw [hd]; exact List.mem_cons_self)
  have hne : b ≠ d := by
    intro he
    rw [he, hdigit] at hb
    cases hb
  simp [counted?, TimeUnit.period, after?, hd, hne]

theorem repeaterWord?_text (r : Repeater) :
    repeaterWord? r.text = some (r.kind, Text.ofNat r.count, r.unit) := by
  obtain ⟨kind, n, unit⟩ := r
  cases kind with
  | restart =>
    have hread : counted? RepeatKind.restart.mark (Repeater.text ⟨.restart, n, unit⟩) =
        some (Text.ofNat n, unit, []) := counted?_period
    simp [repeaterWord?, hread]
  | catchUp =>
    have hread : counted? RepeatKind.catchUp.mark (Repeater.text ⟨.catchUp, n, unit⟩) =
        some (Text.ofNat n, unit, []) := counted?_period
    have hrestart : counted? RepeatKind.restart.mark (Repeater.text ⟨.catchUp, n, unit⟩) = none :=
      counted?_eq_none_of_ne (by decide) ['+']
    simp [repeaterWord?, hread, hrestart]
  | cumulate =>
    have hread : counted? RepeatKind.cumulate.mark (Repeater.text ⟨.cumulate, n, unit⟩) =
        some (Text.ofNat n, unit, []) := counted?_period
    have hrestart : counted? RepeatKind.restart.mark (Repeater.text ⟨.cumulate, n, unit⟩) = none :=
      counted?_eq_none_of_ne (by decide) ['+']
    have hcatchUp : counted? RepeatKind.catchUp.mark (Repeater.text ⟨.cumulate, n, unit⟩) = none :=
      counted?_eq_none_of_short (by decide) []
    simp [repeaterWord?, hread, hrestart, hcatchUp]

theorem warningWord?_text (w : Warning) :
    warningWord? w.text = some (w.kind, Text.ofNat w.count, w.unit) := by
  obtain ⟨kind, n, unit⟩ := w
  cases kind with
  | first =>
    have hread : counted? WarningKind.first.mark (Warning.text ⟨.first, n, unit⟩) =
        some (Text.ofNat n, unit, []) := counted?_period
    simp [warningWord?, hread]
  | all =>
    have hread : counted? WarningKind.all.mark (Warning.text ⟨.all, n, unit⟩) =
        some (Text.ofNat n, unit, []) := counted?_period
    have hfirst : counted? WarningKind.first.mark (Warning.text ⟨.all, n, unit⟩) = none :=
      counted?_eq_none_of_short (by decide) []
    simp [warningWord?, hread, hfirst]

theorem repeaterWord?_warning (w : Warning) : repeaterWord? w.text = none := by
  cases hr : repeaterWord? w.text with
  | none => rfl
  | some p =>
    have hnone := warningWord?_eq_none (t := w.text) (by rw [hr]; rfl)
    rw [warningWord?_text] at hnone
    cases hnone

/-! What stands behind the date and time: nothing, one word or two. -/

section Suffix

variable {r w : Option Text} (hr : ∀ t, r = some t → MarkWord t) (hw : ∀ t, w = some t → MarkWord t)

include hr hw

theorem words_spaced : words isBlank (spaced r ++ spaced w) = r.toList ++ w.toList := by
  have hspace : isBlank ' ' = true := by decide
  have hword {t : Text} (ht : MarkWord t) : t ≠ [] ∧ ∀ c ∈ t, isBlank c = false := by
    obtain ⟨c, u, rfl, -⟩ := ht.head
    exact ⟨List.cons_ne_nil c u, fun d hd => (ht.plain d hd).1⟩
  have hlast : words isBlank (spaced w) = w.toList := by
    cases hcase : w with
    | none => rfl
    | some t =>
      obtain ⟨hne, hplain⟩ := hword (hw t hcase)
      exact (words_cons_of_pos hspace t).trans (words_of_plain hne hplain)
  cases hcase : r with
  | none => exact hlast
  | some t =>
    obtain ⟨hne, hplain⟩ := hword (hr t hcase)
    have hbehind : words isBlank (t ++ spaced w) = t :: words isBlank (spaced w) := by
      cases w with
      | none =>
        rw [spaced, List.append_nil]
        exact words_of_plain hne hplain
      | some u =>
        rw [spaced, words_append hne hplain hspace, words_cons_of_pos hspace]
    calc words isBlank (spaced (some t) ++ spaced w)
        = words isBlank (t ++ spaced w) := words_cons_of_pos hspace _
      _ = t :: words isBlank (spaced w) := hbehind
      _ = t :: w.toList := by rw [hlast]

theorem suffix_spaced : Form.Suffix (spaced r ++ spaced w) := by
  have hplain {t : Option Text} (ht : ∀ u, t = some u → MarkWord u) :
      ∀ c ∈ spaced t, isBracket c = false := by
    intro c hc
    cases t with
    | none => exact absurd hc List.not_mem_nil
    | some u =>
      rcases List.mem_cons.mp hc with rfl | hc
      · decide
      · exact ((ht u rfl).plain c hc).2
  have hfollows {t : Text} (ht : MarkWord t) (rest : Text) : Follows OpensMark (' ' :: t ++ rest) := by
    obtain ⟨c, u, rfl, hc⟩ := ht.head
    exact Follows.space hc (u ++ rest)
  refine ⟨?_, ?_⟩
  · intro c hc
    rcases List.mem_append.mp hc with hc | hc
    · exact hplain hr c hc
    · exact hplain hw c hc
  · intro active rest
    cases r with
    | none =>
      cases w with
      | none => exact Follows.bracket (Form.isBracket_closeMark active) rest
      | some u => exact hfollows (hw u rfl) _
    | some t =>
      rw [List.append_assoc]
      exact hfollows (hr t rfl) _

end Suffix

theorem suffix_nil : Form.Suffix [] := by
  have hnone : ∀ t, (none : Option Text) = some t → MarkWord t := by
    intro t h
    cases h
  exact suffix_spaced hnone hnone

namespace Form

theorem markWord_of_repeater (f : Form) : ∀ t, f.repeater.map (·.text) = some t → MarkWord t := by
  intro t ht
  obtain ⟨r, -, rfl⟩ := Option.map_eq_some_iff.mp ht
  exact markWord_repeater r

theorem markWord_of_warning (f : Form) : ∀ t, f.warning.map (·.text) = some t → MarkWord t := by
  intro t ht
  obtain ⟨w, -, rfl⟩ := Option.map_eq_some_iff.mp ht
  exact markWord_warning w

theorem suffix_suffix (f : Form) : Suffix f.suffix :=
  suffix_spaced f.markWord_of_repeater f.markWord_of_warning

/-- The repeater and the warning are read as they are written. -/
theorem readSuffix_suffix (f : Form) : readSuffix f.suffix = .ok (f.repeater, f.warning) := by
  have hwords : words isBlank f.suffix =
      (f.repeater.map (·.text)).toList ++ (f.warning.map (·.text)).toList :=
    words_spaced f.markWord_of_repeater f.markWord_of_warning
  -- The warning, whatever has been read before it.
  have hwarning (r : Option Repeater) :
      readMarks r none (f.warning.map (·.text)).toList = .ok (r, f.warning) := by
    cases hw : f.warning with
    | none => rfl
    | some w =>
      have hread := Numeral.read_ofNat (f.warning_short w hw)
      have hstep : readMarks r none [w.text] =
          Numeral.read (Text.ofNat w.count) >>= fun n =>
            readMarks r (some ⟨w.kind, n, w.unit⟩) [] :=
        readMarks_warning (fun _ => repeaterWord?_warning w) (warningWord?_text w)
      rw [hread] at hstep
      exact hstep
  unfold readSuffix
  rw [hwords]
  cases hr : f.repeater with
  | none => exact hwarning none
  | some r =>
    have hread := Numeral.read_ofNat (f.repeater_short r hr)
    simp only [Option.map_some, Option.toList_some, List.singleton_append]
    rw [readMarks_repeater (repeaterWord?_text r), hread]
    exact hwarning (some r)

end Form

end Stamp

end OutlineTables
