import OutlineTables.Proofs.Stamp.Components
import OutlineTables.Proofs.Text.Readers

/-!
Languages of readers. What a reader takes from the head of a text is a word of its language, and
it takes any such word that it finds there.
-/
namespace OutlineTables

namespace Text

/-- Year, month and day in digits, with hyphens between them. -/
def IsDate (d : Text) : Prop :=
  ∃ y m n : Text, d = y ++ '-' :: m ++ '-' :: n ∧ (y.length = 4 ∧ m.length = 2 ∧ n.length = 2) ∧
    ∀ c ∈ y ++ m ++ n, isDigit c = true

/-- A date in brackets, with any text on the same line up to the closing one. -/
def IsStamp (open' close : Char) (w : Text) : Prop :=
  ∃ d inside, w = open' :: d ++ inside ++ [close] ∧ IsDate d ∧
    ∀ c ∈ inside, c ≠ close ∧ c ≠ '\n'

/-- A word without digits, as it stands in the brackets `close` ends. -/
def IsDayWord (close : Char) (w : Text) : Prop :=
  w ≠ [] ∧ ∀ c ∈ w, c ≠ close ∧ isBlank c = false ∧ isDigit c = false

/-- A date in brackets, with at most a space and a word behind it. -/
def IsDateStamp (open' close : Char) (w : Text) : Prop :=
  ∃ d, IsDate d ∧ (w = open' :: d ++ [close] ∨
    ∃ day, IsDayWord close day ∧ w = open' :: d ++ ' ' :: day ++ [close])

theorem after?_eq_some_iff {lead t rest : Text} : after? lead t = some rest ↔ lead ++ rest = t := by
  constructor
  · exact append_of_after?
  · rintro rfl
    exact after?_append lead rest

theorem isSome_after?_iff {lead t : Text} : (after? lead t).isSome = true ↔ lead <+: t := by
  rw [Option.isSome_iff_exists]
  exact exists_congr fun _ => after?_eq_some_iff

theorem digits?_eq_some_iff {n : Nat} {t ds rest : Text} : digits? n t = some (ds, rest) ↔
    (ds.length = n ∧ ∀ c ∈ ds, isDigit c = true) ∧ ds ++ rest = t := by
  constructor
  · intro h
    refine ⟨?_, append_of_digits? h⟩
    induction n generalizing t ds with
    | zero =>
      cases h
      exact ⟨rfl, fun c hc => absurd hc List.not_mem_nil⟩
    | succ n ih =>
      cases t with
      | nil => cases h
      | cons c t =>
        unfold digits? at h
        split at h
        · rename_i hc
          obtain ⟨⟨ds', rest'⟩, hd, he⟩ := Option.map_eq_some_iff.mp h
          cases he
          obtain ⟨hlength, hall⟩ := ih hd
          exact ⟨congrArg (· + 1) hlength, List.forall_mem_cons.mpr ⟨hc, hall⟩⟩
        · cases h
  · rintro ⟨⟨rfl, hall⟩, rfl⟩
    exact digits?_append hall rest

theorem date?_eq_some_iff {t d rest : Text} : date? t = some (d, rest) ↔
    IsDate d ∧ d ++ rest = t := by
  constructor
  · intro h
    refine ⟨?_, append_of_date? h⟩
    obtain ⟨⟨y, t₁⟩, hy, h⟩ := Option.bind_eq_some_iff.mp h
    obtain ⟨t₂, -, h⟩ := Option.bind_eq_some_iff.mp h
    obtain ⟨⟨m, t₃⟩, hm, h⟩ := Option.bind_eq_some_iff.mp h
    obtain ⟨t₄, -, h⟩ := Option.bind_eq_some_iff.mp h
    obtain ⟨⟨n, t₅⟩, hn, h⟩ := Option.bind_eq_some_iff.mp h
    cases h
    obtain ⟨⟨hy, hyd⟩, -⟩ := digits?_eq_some_iff.mp hy
    obtain ⟨⟨hm, hmd⟩, -⟩ := digits?_eq_some_iff.mp hm
    obtain ⟨⟨hn, hnd⟩, -⟩ := digits?_eq_some_iff.mp hn
    refine ⟨y, m, n, rfl, ⟨hy, hm, hn⟩, ?_⟩
    rw [List.forall_mem_append, List.forall_mem_append]
    exact ⟨⟨hyd, hmd⟩, hnd⟩
  · rintro ⟨⟨y, m, n, rfl, ⟨hy, hm, hn⟩, hall⟩, rfl⟩
    rw [List.forall_mem_append, List.forall_mem_append] at hall
    obtain ⟨⟨hyd, hmd⟩, hnd⟩ := hall
    have hyear := digits?_append hyd ('-' :: (m ++ '-' :: (n ++ rest)))
    have hmonth := digits?_append hmd ('-' :: (n ++ rest))
    have hday := digits?_append hnd rest
    rw [hy] at hyear
    rw [hm] at hmonth
    rw [hn] at hday
    have hsplit : y ++ '-' :: m ++ '-' :: n ++ rest =
        y ++ '-' :: (m ++ '-' :: (n ++ rest)) := by simp
    rw [hsplit]
    simp [date?, hyear, hmonth, hday, after?]

theorem upTo?_eq_some_iff {close : Char} {t inside rest : Text} :
    upTo? close t = some (inside, rest) ↔
      (∀ c ∈ inside, c ≠ close ∧ c ≠ '\n') ∧ inside ++ close :: rest = t := by
  constructor
  · intro h
    refine ⟨?_, append_of_upTo? h⟩
    unfold upTo? at h
    dsimp only at h
    split at h
    · split at h
      · cases h
        intro c hc
        simpa using List.mem_takeWhile_imp hc
      · cases h
    · cases h
  · rintro ⟨hall, rfl⟩
    obtain ⟨htake, hdrop⟩ := takeWhile_stop (p := fun c => c ≠ close && c ≠ '\n') (c := close)
      (by simpa using hall) (by simp) rest
    unfold upTo?
    dsimp only
    rw [hdrop, htake]
    exact if_pos rfl

theorem stamp?_eq_some_iff {open' close : Char} {t w rest : Text} :
    stamp? open' close t = some (w, rest) ↔ IsStamp open' close w ∧ w ++ rest = t := by
  constructor
  · intro h
    refine ⟨?_, append_of_stamp? h⟩
    obtain ⟨t₁, -, h⟩ := Option.bind_eq_some_iff.mp h
    obtain ⟨⟨d, t₂⟩, hd, h⟩ := Option.bind_eq_some_iff.mp h
    obtain ⟨⟨inside, t₃⟩, hinside, h⟩ := Option.bind_eq_some_iff.mp h
    cases h
    exact ⟨d, inside, rfl, (date?_eq_some_iff.mp hd).1, (upTo?_eq_some_iff.mp hinside).1⟩
  · rintro ⟨⟨d, inside, rfl, hd, hinside⟩, rfl⟩
    have hdate := date?_eq_some_iff.mpr ⟨hd, Eq.refl (d ++ (inside ++ close :: rest))⟩
    have hclose := upTo?_eq_some_iff.mpr ⟨hinside, Eq.refl (inside ++ close :: rest)⟩
    simp [stamp?, after?, hdate, hclose]

/-- A date in brackets is followed by a closing bracket or a space, so there is no choice. -/
theorem dateStamp?_eq_some_iff {open' close : Char} {t w rest : Text} (hclose : close ≠ ' ') :
    dateStamp? open' close t = some (w, rest) ↔ IsDateStamp open' close w ∧ w ++ rest = t := by
  constructor
  · intro h
    refine ⟨?_, append_of_dateStamp? h⟩
    obtain ⟨t₁, -, h⟩ := Option.bind_eq_some_iff.mp h
    obtain ⟨⟨d, t₂⟩, hd, h⟩ := Option.bind_eq_some_iff.mp h
    refine ⟨d, (date?_eq_some_iff.mp hd).1, ?_⟩
    dsimp only at h
    split at h
    · cases h
      exact Or.inl rfl
    · obtain ⟨t₃, -, h⟩ := Option.bind_eq_some_iff.mp h
      split at h
      · cases h
      · rename_i hday
        obtain ⟨t₄, -, h⟩ := Option.bind_eq_some_iff.mp h
        cases h
        refine Or.inr ⟨_, ⟨by simpa using hday, ?_⟩, rfl⟩
        intro c hc
        simpa [and_assoc] using List.mem_takeWhile_imp hc
  · rintro ⟨⟨d, hd, rfl | ⟨day, ⟨hne, hday⟩, rfl⟩⟩, rfl⟩
    · have hdate := date?_eq_some_iff.mpr ⟨hd, Eq.refl (d ++ close :: rest)⟩
      simp [dateStamp?, after?, hdate]
    · have hdate := date?_eq_some_iff.mpr ⟨hd, Eq.refl (d ++ ' ' :: (day ++ close :: rest))⟩
      have hcut : open' :: d ++ ' ' :: day ++ [close] ++ rest =
          open' :: (d ++ ' ' :: (day ++ close :: rest)) := by simp
      obtain ⟨htake, hdrop⟩ := takeWhile_stop (c := close)
        (p := fun c => c ≠ close && !isBlank c && !isDigit c) (by simpa [and_assoc] using hday)
        (by simp) rest
      unfold dateStamp?
      rw [hcut]
      simp only [after?, if_pos, Option.bind_eq_bind, Option.bind_some, hdate]
      rw [if_neg hclose]
      dsimp only
      rw [htake, hdrop]
      simp [hne, after?]

section Runs

variable {p : Char → Bool} {t w rest : Text}

theorem mem_runs : (w, rest) ∈ runs p t ↔ (∀ c ∈ w, p c = true) ∧ w ++ rest = t := by
  induction t generalizing w with
  | nil =>
    rw [runs, List.mem_singleton, Prod.mk.injEq, List.append_eq_nil_iff]
    constructor
    · rintro ⟨rfl, rfl⟩
      exact ⟨fun c hc => absurd hc List.not_mem_nil, rfl, rfl⟩
    · exact And.right
  | cons c t ih =>
    rw [runs, List.mem_cons]
    cases w with
    | nil =>
      have hlong : ([], rest) ∉ (if p c = true then (runs p t).map fun x => (c :: x.1, x.2)
          else []) := by
        split <;> simp
      simp [hlong]
    | cons d w =>
      rw [List.forall_mem_cons, List.cons_append, List.cons.injEq]
      constructor
      · rintro (he | hm)
        · cases he
        · split at hm
          · rename_i hc
            obtain ⟨⟨w', rest'⟩, hm, he⟩ := List.mem_map.mp hm
            cases he
            obtain ⟨hall, happend⟩ := ih.mp hm
            exact ⟨⟨hc, hall⟩, rfl, happend⟩
          · cases hm
      · rintro ⟨⟨hc, hall⟩, rfl, happend⟩
        rw [if_pos hc]
        exact Or.inr (List.mem_map.mpr ⟨(w, rest), ih.mpr ⟨hall, happend⟩, rfl⟩)

/-- The first run is the empty one. -/
theorem runs_eq_cons (p : Char → Bool) (t : Text) : runs p t = ([], t) :: (runs p t).drop 1 := by
  cases t <;> rfl

theorem pairwise_runs (p : Char → Bool) (t : Text) :
    (runs p t).Pairwise fun a b => a.1.length < b.1.length := by
  induction t with
  | nil => exact List.pairwise_singleton _ _
  | cons c t ih =>
    rw [runs, List.pairwise_cons]
    split
    · refine ⟨?_, List.pairwise_map.mpr (ih.imp fun h => Nat.succ_lt_succ h)⟩
      intro a ha
      obtain ⟨b, -, rfl⟩ := List.mem_map.mp ha
      exact Nat.succ_pos _
    · exact ⟨fun a ha => absurd ha List.not_mem_nil, List.Pairwise.nil⟩

theorem mem_drop_runs : (w, rest) ∈ (runs p t).drop 1 ↔
    (w ≠ [] ∧ ∀ c ∈ w, p c = true) ∧ w ++ rest = t := by
  have hruns : (w, rest) ∈ runs p t ↔ (w = [] ∧ rest = t) ∨ (w, rest) ∈ (runs p t).drop 1 := by
    conv_lhs => rw [runs_eq_cons]
    rw [List.mem_cons, Prod.mk.injEq]
  constructor
  · intro h
    obtain ⟨hall, happend⟩ := mem_runs.mp (hruns.mpr (Or.inr h))
    refine ⟨⟨?_, hall⟩, happend⟩
    -- Runs behind the first are longer than it.
    rintro rfl
    have hlonger := pairwise_runs p t
    rw [runs_eq_cons, List.pairwise_cons] at hlonger
    exact Nat.lt_irrefl 0 (hlonger.1 _ h)
  · rintro ⟨⟨hne, hall⟩, happend⟩
    exact (hruns.mp (mem_runs.mpr ⟨hall, happend⟩)).resolve_left fun h => hne h.1

end Runs

end Text

end OutlineTables
