import Mathlib.Data.List.DropRight
import OutlineTables.Logbook.Template

/-!
What readers take from the head of a text. Together with what they leave it makes up the text, so
nothing that is read is changed on the way.
-/
namespace OutlineTables

namespace Text

theorem trimEnd_eq_rdropWhile (p : Char → Bool) (t : Text) : trimEnd p t = t.rdropWhile p := rfl

theorem cutAt_isPrefix (sep : Char) (t : Text) : (cutAt sep t).1 <+: t := by
  induction t with
  | nil => exact List.prefix_rfl
  | cons c t ih =>
    unfold cutAt
    split
    · exact List.nil_prefix
    · exact List.cons_prefix_cons.mpr ⟨rfl, ih⟩

/-- Where no white space stands behind a gap, nothing else is trimmed in front. -/
theorem strip_of_dropWhile {t rest : Text} {c : Char} (ht : t.dropWhile isGap = c :: rest)
    (hc : isBlank c = false) : strip t <+: t.dropWhile isGap ∧ strip t ≠ [] := by
  have hsame : t.dropWhile isBlank = t.dropWhile isGap := by
    induction t with
    | nil => rfl
    | cons d t ih =>
      rw [List.dropWhile_cons] at ht
      rw [List.dropWhile_cons, List.dropWhile_cons]
      split at ht
      · rename_i hd
        rw [if_pos (isBlank_of_isGap hd), if_pos hd]
        exact ih ht
      · rename_i hd
        cases ht
        rw [if_neg hd, hc]
        rfl
  unfold strip trim
  rw [hsame]
  refine ⟨List.rdropWhile_prefix isBlank _, fun hnil => ?_⟩
  have hall := List.rdropWhile_eq_nil_iff.mp hnil c (ht ▸ List.mem_cons_self)
  rw [hc] at hall
  cases hall

/-- A class ends where what follows does not begin with one of its members. -/
theorem takeWhile_append_stop {α : Type} {p : α → Bool} {w rest : List α}
    (hw : ∀ d ∈ w, p d = true) (hstop : ∀ c ∈ rest.head?, p c = false) :
    (w ++ rest).takeWhile p = w ∧ (w ++ rest).dropWhile p = rest := by
  rw [List.takeWhile_append_of_pos hw, List.dropWhile_append_of_pos hw]
  cases rest with
  | nil => exact ⟨List.append_nil w, rfl⟩
  | cons c rest =>
    have hc : ¬p c = true := ne_true_of_eq_false (hstop c rfl)
    rw [List.takeWhile_cons_of_neg hc, List.dropWhile_cons_of_neg hc, List.append_nil]
    exact ⟨rfl, rfl⟩

/-- A class ends where the first character outside of it stands. -/
theorem takeWhile_stop {p : Char → Bool} {w : Text} {c : Char} (hw : ∀ d ∈ w, p d = true)
    (hc : p c = false) (rest : Text) :
    (w ++ c :: rest).takeWhile p = w ∧ (w ++ c :: rest).dropWhile p = c :: rest := by
  refine takeWhile_append_stop hw ?_
  rintro d ⟨⟩
  exact hc

theorem append_of_after? {lead t rest : Text} (h : after? lead t = some rest) :
    lead ++ rest = t := by
  induction lead generalizing t with
  | nil =>
    cases h
    rfl
  | cons c lead ih =>
    cases t with
    | nil => cases h
    | cons d t =>
      unfold after? at h
      split at h
      · rename_i hc
        rw [List.cons_append, ih h, hc]
      · cases h

theorem append_of_digits? {n : Nat} {t ds rest : Text} (h : digits? n t = some (ds, rest)) :
    ds ++ rest = t := by
  induction n generalizing t ds with
  | zero =>
    cases h
    rfl
  | succ n ih =>
    cases t with
    | nil => cases h
    | cons c t =>
      unfold digits? at h
      split at h
      · obtain ⟨⟨ds', rest'⟩, hd, he⟩ := Option.map_eq_some_iff.mp h
        cases he
        exact congrArg (c :: ·) (ih hd)
      · cases h

theorem append_of_date? {t d rest : Text} (h : date? t = some (d, rest)) : d ++ rest = t := by
  obtain ⟨⟨y, t₁⟩, hy, h⟩ := Option.bind_eq_some_iff.mp h
  obtain ⟨t₂, ht₂, h⟩ := Option.bind_eq_some_iff.mp h
  obtain ⟨⟨mo, t₃⟩, hm, h⟩ := Option.bind_eq_some_iff.mp h
  obtain ⟨t₄, ht₄, h⟩ := Option.bind_eq_some_iff.mp h
  obtain ⟨⟨da, t₅⟩, hd, h⟩ := Option.bind_eq_some_iff.mp h
  cases h
  rw [← append_of_digits? hy, ← append_of_after? ht₂, ← append_of_digits? hm,
    ← append_of_after? ht₄, ← append_of_digits? hd]
  simp

theorem append_of_upTo? {close : Char} {t inside rest : Text}
    (h : upTo? close t = some (inside, rest)) : inside ++ close :: rest = t := by
  unfold upTo? at h
  dsimp only at h
  split at h
  · rename_i c rest' hrest
    split at h
    · rename_i hc
      cases h
      subst hc
      rw [← hrest, List.takeWhile_append_dropWhile]
    · cases h
  · cases h

theorem append_of_stamp? {a b : Char} {t s rest : Text} (h : stamp? a b t = some (s, rest)) :
    s ++ rest = t := by
  obtain ⟨t₁, ht₁, h⟩ := Option.bind_eq_some_iff.mp h
  obtain ⟨⟨d, t₂⟩, hd, h⟩ := Option.bind_eq_some_iff.mp h
  obtain ⟨⟨body, t₃⟩, hb, h⟩ := Option.bind_eq_some_iff.mp h
  cases h
  rw [← append_of_after? ht₁, ← append_of_date? hd, ← append_of_upTo? hb]
  simp

theorem append_of_runs {p : Char → Bool} {t w rest : Text} (h : (w, rest) ∈ runs p t) :
    w ++ rest = t := by
  induction t generalizing w with
  | nil =>
    cases List.mem_singleton.mp h
    rfl
  | cons c t ih =>
    rcases List.mem_cons.mp h with he | h
    · cases he
      rfl
    · split at h
      · obtain ⟨⟨w', rest'⟩, hm, he⟩ := List.mem_map.mp h
        cases he
        exact congrArg (c :: ·) (ih hm)
      · cases h

theorem append_of_dateStamp? {a b : Char} {t s rest : Text}
    (h : dateStamp? a b t = some (s, rest)) : s ++ rest = t := by
  obtain ⟨t₁, ht₁, h⟩ := Option.bind_eq_some_iff.mp h
  obtain ⟨⟨d, t₂⟩, hd, h⟩ := Option.bind_eq_some_iff.mp h
  rw [← append_of_after? ht₁, ← append_of_date? hd]
  dsimp only at h
  split at h
  · rename_i rest' hclose
    cases h
    rw [← append_of_after? hclose]
    simp
  · obtain ⟨t₃, ht₃, h⟩ := Option.bind_eq_some_iff.mp h
    split at h
    · cases h
    · obtain ⟨t₄, ht₄, h⟩ := Option.bind_eq_some_iff.mp h
      cases h
      have hday : t₃.takeWhile (fun c => c ≠ b && !isBlank c && !isDigit c) ++ b :: rest = t₃ := by
        rw [← List.singleton_append, append_of_after? ht₄, List.takeWhile_append_dropWhile]
      have hspace := append_of_after? ht₃
      rw [← hday] at hspace
      rw [← hspace]
      simp

/-- A timestamp is not empty, and the text begins with it. -/
theorem prefix_of_stampRange? {a b : Char} {t s : Text} (h : stampRange? a b t = some s) :
    s <+: t ∧ s ≠ [] := by
  obtain ⟨⟨x, rest⟩, hx, h⟩ := Option.bind_eq_some_iff.mp h
  have hfirst := append_of_stamp? hx
  have hne : x ≠ [] := by
    obtain ⟨t₁, -, hx⟩ := Option.bind_eq_some_iff.mp hx
    obtain ⟨⟨d, t₂⟩, -, hx⟩ := Option.bind_eq_some_iff.mp hx
    obtain ⟨⟨body, t₃⟩, -, hx⟩ := Option.bind_eq_some_iff.mp hx
    cases hx
    simp
  dsimp only at h
  split at h
  · rename_i y rest' hy
    cases h
    obtain ⟨u, hu, hy⟩ := Option.bind_eq_some_iff.mp hy
    refine ⟨⟨rest', ?_⟩, by simp⟩
    rw [← hfirst, ← append_of_after? hu, ← append_of_stamp? hy]
    simp
  · cases h
    exact ⟨⟨rest, hfirst⟩, hne⟩

theorem prefix_of_stampToken? {t s : Text} (h : stampToken? t = some s) : s <+: t ∧ s ≠ [] := by
  unfold stampToken? at h
  rcases Option.or_eq_some_iff.mp h with h | ⟨-, h⟩ <;> exact prefix_of_stampRange? h

/-- The timestamp of a planning word stands behind its lead. -/
theorem infix_of_planningToken? {t : Text} {kind : PlanningKind} {n : Nat} {s : Text}
    (h : planningToken? t = some (kind, n, s)) :
    s ≠ [] ∧ ∃ lead rest, lead ++ s ++ rest = t ∧ lead.length = n := by
  obtain ⟨k, -, h⟩ := List.exists_of_findSome?_eq_some h
  obtain ⟨behind, hword, h⟩ := Option.bind_eq_some_iff.mp h
  obtain ⟨stamp, hstamp, h⟩ := Option.bind_eq_some_iff.mp h
  obtain ⟨u, hu, hcolon⟩ := Option.bind_eq_some_iff.mp hword
  cases h
  obtain ⟨⟨rest, hrest⟩, hne⟩ := prefix_of_stampToken? hstamp
  have hgap : behind.takeWhile isGap ++ (s ++ rest) = behind := by
    rw [hrest, List.takeWhile_append_dropWhile]
  refine ⟨hne, kind.word ++ ':' :: behind.takeWhile isGap, rest, ?_, by simp; omega⟩
  calc kind.word ++ ':' :: behind.takeWhile isGap ++ s ++ rest
      = kind.word ++ ([':'] ++ (behind.takeWhile isGap ++ (s ++ rest))) := by simp
    _ = t := by rw [hgap, append_of_after? hcolon, append_of_after? hu]

end Text

/-- A link is written the way it is read. -/
theorem LinkText.append_of_read? {t rest : Text} {l : LinkText} (h : read? t = some (l, rest)) :
    l.render ++ rest = t := by
  obtain ⟨t₁, ht₁, h⟩ := Option.bind_eq_some_iff.mp h
  have hopen := Text.append_of_after? ht₁
  have htarget := List.takeWhile_append_dropWhile (p := Text.isPlain) (l := t₁)
  dsimp only at h
  split at h
  · cases h
  · obtain ⟨t₂, ht₂, h⟩ := Option.bind_eq_some_iff.mp h
    rw [← Text.append_of_after? ht₂] at htarget
    rw [← hopen, ← htarget]
    split at h
    · cases h
      simp [render]
    · rename_i t₃
      obtain ⟨t₄, ht₄, h⟩ := Option.bind_eq_some_iff.mp h
      cases h
      have hdescription : t₃.takeWhile Text.isPlain ++ ([']', ']'] ++ rest) = t₃ := by
        rw [Text.append_of_after? ht₄, List.takeWhile_append_dropWhile]
      calc render ⟨t₁.takeWhile Text.isPlain, some (t₃.takeWhile Text.isPlain)⟩ ++ rest
          = ['[', '['] ++ (t₁.takeWhile Text.isPlain ++
              ([']'] ++ '[' :: (t₃.takeWhile Text.isPlain ++ ([']', ']'] ++ rest)))) := by
            simp [render]
        _ = ['[', '['] ++ (t₁.takeWhile Text.isPlain ++ ([']'] ++ '[' :: t₃)) := by
            rw [hdescription]
    · cases h

theorem Text.prefix_of_linkToken? {t w : Text} (h : linkToken? t = some w) :
    w <+: t ∧ w ≠ [] := by
  obtain ⟨⟨l, rest⟩, hl, rfl⟩ := Option.map_eq_some_iff.mp h
  refine ⟨⟨rest, LinkText.append_of_read? hl⟩, ?_⟩
  unfold LinkText.render
  split <;> simp

end OutlineTables
