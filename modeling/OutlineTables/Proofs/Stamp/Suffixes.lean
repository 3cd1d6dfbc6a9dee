import OutlineTables.Proofs.Text.Numerals
import OutlineTables.Stamp.Reader

/-!
Timestamps that are no fault. Whatever a text is, it is a timestamp or none, unless it is dated and
the count of its first repeater or of its first warning has too many digits.
-/
namespace OutlineTables

theorem Text.head?_of_after? {l : Char} {ls t rest : Text}
    (h : Text.after? (l :: ls) t = some rest) : t.head? = some l := by
  cases t with
  | nil => cases h
  | cons c cs =>
    unfold Text.after? at h
    split at h
    · rename_i hl
      rw [hl]
      rfl
    · cases h

namespace Stamp

open Text

/-- A count is written in digits behind its mark. -/
theorem counted?_digits {mark t ds rest : Text} {unit : TimeUnit}
    (h : counted? mark t = some (ds, unit, rest)) :
    (∃ t', after? mark t = some t') ∧ ds ≠ [] ∧ ∀ c ∈ ds, isDigit c = true := by
  obtain ⟨t', ht, h⟩ := Option.bind_eq_some_iff.mp h
  dsimp only at h
  split at h
  · cases h
  · rename_i hne
    have hds : t'.takeWhile isDigit = ds := by
      split at h
      · obtain ⟨u, -, he⟩ := Option.map_eq_some_iff.mp h
        exact (Prod.mk.inj he).1
      · cases h
    rw [hds] at hne
    refine ⟨⟨t', ht⟩, by simpa using hne, ?_⟩
    intro c hc
    rw [← hds] at hc
    exact List.mem_takeWhile_imp hc

theorem repeaterWord?_digits {t ds : Text} {kind : RepeatKind} {unit : TimeUnit}
    (h : repeaterWord? t = some (kind, ds, unit)) :
    (t.head? = some '+' ∨ t.head? = some '.') ∧ ds ≠ [] ∧ ∀ c ∈ ds, isDigit c = true := by
  obtain ⟨k, -, hk⟩ := List.exists_of_findSome?_eq_some h
  obtain ⟨⟨ds', unit', rest⟩, hcounted, hk⟩ := Option.bind_eq_some_iff.mp hk
  have hds : ds' = ds := by
    dsimp only at hk
    split at hk
    · cases hk
      rfl
    · obtain ⟨_, -, hk⟩ := Option.bind_eq_some_iff.mp hk
      split at hk
      · cases hk
        rfl
      · cases hk
  subst hds
  obtain ⟨⟨t', ht⟩, hdigits⟩ := counted?_digits hcounted
  refine ⟨?_, hdigits⟩
  -- Whatever its kind, a repeater begins with one of two marks, which are not those of a warning.
  cases k with
  | cumulate => exact Or.inl (head?_of_after? ht)
  | catchUp => exact Or.inl (head?_of_after? ht)
  | restart => exact Or.inr (head?_of_after? ht)

theorem warningWord?_digits {t ds : Text} {kind : WarningKind} {unit : TimeUnit}
    (h : warningWord? t = some (kind, ds, unit)) :
    t.head? = some '-' ∧ ds ≠ [] ∧ ∀ c ∈ ds, isDigit c = true := by
  obtain ⟨k, -, hk⟩ := List.exists_of_findSome?_eq_some h
  obtain ⟨⟨ds', unit', rest⟩, hcounted, hk⟩ := Option.bind_eq_some_iff.mp hk
  have hds : ds' = ds := by
    dsimp only at hk
    split at hk
    · cases hk
      rfl
    · cases hk
  subst hds
  obtain ⟨⟨t', ht⟩, hdigits⟩ := counted?_digits hcounted
  refine ⟨?_, hdigits⟩
  cases k with
  | all => exact head?_of_after? ht
  | first => exact head?_of_after? ht

/-- No word is both a repeater and a warning. -/
theorem warningWord?_eq_none {t : Text} (h : (repeaterWord? t).isSome = true) :
    warningWord? t = none := by
  obtain ⟨⟨kind, ds, unit⟩, hrepeater⟩ := Option.isSome_iff_exists.mp h
  cases hwarning : warningWord? t with
  | none => rfl
  | some p =>
    obtain ⟨kind', ds', unit'⟩ := p
    have hminus := (warningWord?_digits hwarning).1
    rcases (repeaterWord?_digits hrepeater).1 with hplus | hdot
    · rw [hplus] at hminus
      cases hminus
    · rw [hdot] at hminus
      cases hminus

/-- The count of the first word of a kind is not too long. -/
def FirstShort {κ : Type} (word? : Text → Option (κ × Text × TimeUnit)) (ts : List Text) : Prop :=
  ∀ kind ds unit, ts.findSome? word? = some (kind, ds, unit) → ds.length ≤ Numeral.maxDigits

/-- What the first word of a kind writes, if there is one. -/
def firstMark {κ μ : Type} (word? : Text → Option (κ × Text × TimeUnit))
    (make : κ → Nat → TimeUnit → μ) (ts : List Text) : Except NumeralFault (Option μ) :=
  match ts.findSome? word? with
  | none => .ok none
  | some (kind, ds, unit) => (Numeral.read ds).map fun n => some (make kind n unit)

/-- What has been found stays; otherwise it is what the rest of the words says. -/
def settle {μ : Type} (found : Option μ) (rest : Except NumeralFault (Option μ)) :
    Except NumeralFault (Option μ) :=
  match found with
  | some m => .ok (some m)
  | none => rest

section Words

variable {κ μ : Type} {word? : Text → Option (κ × Text × TimeUnit)}
  {make : κ → Nat → TimeUnit → μ} {t : Text} {ts : List Text} {found : Option μ}

theorem firstMark_cons_of_none (h : word? t = none) :
    firstMark word? make (t :: ts) = firstMark word? make ts := by
  unfold firstMark
  rw [List.findSome?_cons, h]

theorem firstMark_cons_of_some {kind : κ} {ds : Text} {unit : TimeUnit}
    (h : word? t = some (kind, ds, unit)) : firstMark word? make (t :: ts) =
      (Numeral.read ds).map fun n => some (make kind n unit) := by
  unfold firstMark
  rw [List.findSome?_cons, h]

theorem exists_firstMark_iff (hdigits : ∀ {t kind ds unit}, word? t = some (kind, ds, unit) →
    ds ≠ [] ∧ ∀ c ∈ ds, isDigit c = true) :
    (∃ m, firstMark word? make ts = .ok m) ↔ FirstShort word? ts := by
  unfold firstMark FirstShort
  cases hfirst : ts.findSome? word? with
  | none => simp
  | some p =>
    obtain ⟨kind, ds, unit⟩ := p
    obtain ⟨t, -, ht⟩ := List.exists_of_findSome?_eq_some hfirst
    obtain ⟨hne, hall⟩ := hdigits ht
    have hread : (∃ m, (Numeral.read ds).map (fun n => some (make kind n unit)) = .ok m) ↔
        ∃ n, Numeral.read ds = .ok n := by
      cases Numeral.read ds <;> simp [Except.map]
    rw [hread, Numeral.exists_read_iff]
    constructor
    · rintro hlegible kind' ds' unit' ⟨⟩
      exact hlegible.short
    · intro hshort
      exact ⟨hne, hall, hshort kind ds unit rfl⟩

theorem settle_cons_of_none (h : found = none → word? t = none) :
    settle found (firstMark word? make (t :: ts)) = settle found (firstMark word? make ts) := by
  cases found with
  | some m => rfl
  | none => exact firstMark_cons_of_none (h rfl)

theorem exists_settle_iff {rest : Except NumeralFault (Option μ)} :
    (∃ m, settle found rest = .ok m) ↔ (found = none → ∃ m, rest = .ok m) := by
  cases found <;> simp [settle]

end Words

section Marks

variable {r : Option Repeater} {w : Option Warning} {t ds : Text} {ts : List Text} {unit : TimeUnit}

theorem readMarks_repeater {kind : RepeatKind} (h : repeaterWord? t = some (kind, ds, unit)) :
    readMarks none w (t :: ts) =
      Numeral.read ds >>= fun n => readMarks (some ⟨kind, n, unit⟩) w ts := by
  conv_lhs => unfold readMarks
  rw [h]

theorem readMarks_warning {kind : WarningKind} (hr : r = none → repeaterWord? t = none)
    (h : warningWord? t = some (kind, ds, unit)) :
    readMarks r none (t :: ts) =
      Numeral.read ds >>= fun n => readMarks r (some ⟨kind, n, unit⟩) ts := by
  conv_lhs => unfold readMarks
  cases r with
  | none => rw [hr rfl, h]
  | some _ => rw [h]

theorem readMarks_other (hr : r = none → repeaterWord? t = none)
    (hw : w = none → warningWord? t = none) : readMarks r w (t :: ts) = readMarks r w ts := by
  conv_lhs => unfold readMarks
  cases r with
  | none =>
    rw [hr rfl]
    cases w with
    | none => rw [hw rfl]
    | some _ => rfl
  | some _ =>
    cases w with
    | none => rw [hw rfl]
    | some _ => rfl

/-- Repeater and warning are looked for apart from each other. -/
theorem readMarks_eq_ok_iff {r' : Option Repeater} {w' : Option Warning} :
    readMarks r w ts = .ok (r', w') ↔
      settle r (firstMark repeaterWord? Repeater.mk ts) = .ok r' ∧
      settle w (firstMark warningWord? Warning.mk ts) = .ok w' := by
  -- Induction on the words, for whatever has been found. What is found settles its side of the
  -- statement, and what is not found leaves both sides to the words that follow.
  induction ts generalizing r w with
  | nil =>
    have hnil {μ : Type} (m : Option μ) : settle m (.ok none) = .ok m := by cases m <;> rfl
    have hrepeater : settle r (firstMark repeaterWord? Repeater.mk []) = .ok r := hnil r
    have hwarning : settle w (firstMark warningWord? Warning.mk []) = .ok w := hnil w
    rw [readMarks, hrepeater, hwarning, Except.ok.injEq, Except.ok.injEq, Except.ok.injEq,
      Prod.mk.injEq]
  | cons t ts ih =>
    by_cases hr : r = none → repeaterWord? t = none
    · rw [settle_cons_of_none hr]
      by_cases hw : w = none → warningWord? t = none
      · rw [readMarks_other hr hw, settle_cons_of_none hw]
        exact ih
      · -- The first warning.
        obtain ⟨rfl, hword⟩ := Classical.not_imp.mp hw
        obtain ⟨⟨kind, ds, unit⟩, hword⟩ := Option.ne_none_iff_exists'.mp hword
        rw [readMarks_warning hr hword, firstMark_cons_of_some hword, bind_eq_ok]
        simp only [settle, ih, map_eq_ok, Except.ok.injEq]
        exact ⟨fun ⟨n, hn, hrest, hfound⟩ => ⟨hrest, n, hn, hfound⟩,
          fun ⟨hrest, n, hn, hfound⟩ => ⟨n, hn, hrest, hfound⟩⟩
    · -- The first repeater, which is no warning besides.
      obtain ⟨rfl, hword⟩ := Classical.not_imp.mp hr
      obtain ⟨⟨kind, ds, unit⟩, hword⟩ := Option.ne_none_iff_exists'.mp hword
      have hnone : warningWord? t = none := warningWord?_eq_none (by rw [hword]; rfl)
      rw [readMarks_repeater hword, firstMark_cons_of_some hword,
        settle_cons_of_none fun _ => hnone, bind_eq_ok]
      simp only [settle, ih, map_eq_ok, Except.ok.injEq]
      exact ⟨fun ⟨n, hn, hfound, hrest⟩ => ⟨⟨n, hn, hfound⟩, hrest⟩,
        fun ⟨⟨n, hn, hfound⟩, hrest⟩ => ⟨n, hn, hfound, hrest⟩⟩

/-- Words are read unless a count is too long that is still looked for. -/
theorem exists_readMarks_iff : (∃ p, readMarks r w ts = .ok p) ↔
    (r = none → FirstShort repeaterWord? ts) ∧ (w = none → FirstShort warningWord? ts) := by
  simp only [Prod.exists, readMarks_eq_ok_iff, exists_and_left, exists_and_right,
    exists_settle_iff, exists_firstMark_iff fun h => (repeaterWord?_digits h).2,
    exists_firstMark_iff fun h => (warningWord?_digits h).2]

end Marks

/-- What follows the date of a timestamp, with counts that are not too long where they matter. -/
structure SuffixLegible (t : Text) : Prop where
  repeater : FirstShort repeaterWord? (words isBlank t)
  warning : FirstShort warningWord? (words isBlank t)

theorem exists_readSuffix_iff {t : Text} : (∃ p, readSuffix t = .ok p) ↔ SuffixLegible t := by
  unfold readSuffix
  rw [exists_readMarks_iff]
  exact ⟨fun h => ⟨h.1 rfl, h.2 rfl⟩, fun h => ⟨fun _ => h.repeater, fun _ => h.warning⟩⟩

/-- The end of a timestamp: that of its second stamp, or of a time range. -/
def readFinish (a : Written) (b : Option Written) : Except StampFault (Option Moment) :=
  match b, a.endClock with
  | some b, _ => (readMoment b.date b.clock).map some
  | none, some clock => (readMoment a.date (some clock)).map some
  | none, none => .ok none

/-- Written stamps that close their brackets and name dates and times that exist. -/
structure Dated (a : Written) (b : Option Written) : Prop where
  closed : closing a.openMark = a.closeMark
  start : ∃ m, readMoment a.date a.clock = .ok m
  finish : ∃ m, readFinish a b = .ok m

/-- A text that is a timestamp or clearly none. -/
def Legible (raw : Text) : Prop :=
  ∀ a b, writtenRange? (strip raw) = some (a, b) → Dated a b → SuffixLegible a.suffix

theorem readMoment_ne_numeral {date : Text} {clock : Option Text} {f : NumeralFault} :
    readMoment date clock ≠ .error (.numeral f) := by
  intro h
  unfold readMoment at h
  dsimp only at h
  split at h <;> cases h

theorem readFinish_ne_numeral {a : Written} {b : Option Written} {f : NumeralFault} :
    readFinish a b ≠ .error (.numeral f) := by
  have hmap {date : Text} {clock : Option Text} :
      (readMoment date clock).map some ≠ .error (.numeral f) := by
    intro h
    cases hm : readMoment date clock with
    | ok m =>
      rw [hm] at h
      cases h
    | error e =>
      rw [hm] at h
      cases h
      exact readMoment_ne_numeral hm
  unfold readFinish
  split
  · exact hmap
  · exact hmap
  · intro h
    cases h

/-- A step that finds no bad numeral itself has one only in what is done next. -/
theorem exists_numeral_bind_iff {α β : Type} {x : Except StampFault α} {g : α → Except StampFault β}
    (hx : ∀ f, x ≠ .error (.numeral f)) : (∃ f, x >>= g = .error (.numeral f)) ↔
      ∃ a, x = .ok a ∧ ∃ f, g a = .error (.numeral f) := by
  cases x with
  | error e =>
    constructor
    · rintro ⟨f, he⟩
      cases he
      exact absurd rfl (hx f)
    · rintro ⟨a, ha, -⟩
      cases ha
  | ok a =>
    constructor
    · rintro ⟨f, hf⟩
      exact ⟨a, rfl, f, hf⟩
    · rintro ⟨a, ha, hf⟩
      cases ha
      exact hf

section Decode

variable {raw : Text} {a : Written} {b : Option Written}

/-- The suffix is read last, once the dates are known. -/
theorem decode_eq (hw : writtenRange? (strip raw) = some (a, b)) : decode raw =
    if closing a.openMark ≠ a.closeMark then .error (.brackets raw)
    else readMoment a.date a.clock >>= fun start => readFinish a b >>= fun finish =>
      match readSuffix a.suffix with
      | .error f => .error (.numeral f)
      | .ok p => .ok ⟨strip raw, decide (a.openMark = '<'), start, finish, p.1, p.2⟩ := by
  unfold decode readFinish
  dsimp only
  rw [hw]
  dsimp only
  cases readSuffix a.suffix <;> cases b <;> cases a.endClock <;> rfl

/-- All that was read of a timestamp. -/
theorem exists_of_decode {s : Stamp} (h : decode raw = .ok s) : ∃ a b start finish p,
    writtenRange? (strip raw) = some (a, b) ∧ closing a.openMark = a.closeMark ∧
      readMoment a.date a.clock = .ok start ∧ readFinish a b = .ok finish ∧
      readSuffix a.suffix = .ok p ∧
      s = ⟨strip raw, decide (a.openMark = '<'), start, finish, p.1, p.2⟩ := by
  cases hw : writtenRange? (strip raw) with
  | none =>
    unfold decode at h
    dsimp only at h
    rw [hw] at h
    cases h
  | some ab =>
    obtain ⟨a, b⟩ := ab
    rw [decode_eq hw] at h
    split at h
    · cases h
    · rename_i hclosed
      obtain ⟨start, hstart, h⟩ := bind_eq_ok.mp h
      obtain ⟨finish, hfinish, h⟩ := bind_eq_ok.mp h
      split at h
      · cases h
      · rename_i p hsuffix
        cases h
        exact ⟨a, b, start, finish, p, rfl, not_not.mp hclosed, hstart, hfinish, hsuffix, rfl⟩

theorem decode?_eq_some_iff {s : Stamp} : decode? raw = .ok (some s) ↔ decode raw = .ok s := by
  unfold decode?
  constructor
  · intro h
    split at h
    · rename_i hs
      cases h
      exact hs
    · cases h
    · cases h
  · intro h
    rw [h]

/-- Of what is written, only the suffix of a dated timestamp can be a fault. -/
theorem decode_of_written (hw : writtenRange? (strip raw) = some (a, b)) :
    (∃ f, decode raw = .error (.numeral f)) ↔ Dated a b ∧ ∃ f, readSuffix a.suffix = .error f := by
  -- What the stamp would be does not matter.
  have hsuffix (start : Moment) (finish : Option Moment) : (∃ f, (match readSuffix a.suffix with
      | .error f => Except.error (StampFault.numeral f)
      | .ok p => .ok (⟨strip raw, decide (a.openMark = '<'), start, finish, p.1, p.2⟩ : Stamp)) =
        .error (.numeral f)) ↔ ∃ f, readSuffix a.suffix = .error f := by
    cases readSuffix a.suffix <;> simp
  rw [decode_eq hw]
  by_cases hclosed : closing a.openMark = a.closeMark
  · rw [if_neg (not_not.mpr hclosed), exists_numeral_bind_iff fun f => readMoment_ne_numeral]
    simp only [exists_numeral_bind_iff fun f => readFinish_ne_numeral, hsuffix]
    constructor
    · rintro ⟨start, hstart, finish, hfinish, hf⟩
      exact ⟨⟨hclosed, ⟨start, hstart⟩, finish, hfinish⟩, hf⟩
    · rintro ⟨⟨-, ⟨start, hstart⟩, finish, hfinish⟩, hf⟩
      exact ⟨start, hstart, finish, hfinish, hf⟩
  · rw [if_pos hclosed]
    constructor
    · rintro ⟨f, he⟩
      cases he
    · rintro ⟨hdated, -⟩
      exact absurd hdated.closed hclosed

theorem exists_decode?_iff : (∃ s, decode? raw = .ok s) ↔ Legible raw := by
  have hfault : (∃ s, decode? raw = .ok s) ↔ ¬∃ f, decode raw = .error (.numeral f) := by
    unfold decode?
    cases decode raw with
    | ok s => simp
    | error e => cases e <;> simp
  -- All other faults make it no timestamp.
  rw [hfault]
  unfold Legible
  cases hw : writtenRange? (strip raw) with
  | none =>
    constructor
    · intro _ a b he
      cases he
    · rintro - ⟨f, he⟩
      unfold decode at he
      dsimp only at he
      rw [hw] at he
      cases he
  | some p =>
    obtain ⟨a, b⟩ := p
    rw [decode_of_written hw]
    constructor
    · intro hnot a' b' he hdated
      cases he
      rw [← exists_readSuffix_iff]
      cases hsuffix : readSuffix a.suffix with
      | ok p => exact ⟨p, rfl⟩
      | error f => exact absurd ⟨hdated, f, hsuffix⟩ hnot
    · rintro hall ⟨hdated, f, he⟩
      obtain ⟨p, hp⟩ := exists_readSuffix_iff.mpr (hall a b rfl hdated)
      rw [he] at hp
      cases hp

end Decode

end Stamp

end OutlineTables
