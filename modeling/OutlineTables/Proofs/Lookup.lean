import Mathlib.Data.List.Nodup
import Mathlib.Data.List.Perm.Basic

/-!
Entries of lists found by their names.
-/
namespace OutlineTables

theorem lookup_map {α β : Type} (f : α → String) (g : α → β) (as : List α) (name : String) :
    (as.map fun a => (f a, g a)).lookup name = (as.find? (f · = name)).map g := by
  induction as with
  | nil => rfl
  | cons a as ih =>
    by_cases h : f a = name
    · subst h
      simp
    · have h' : (name == f a) = false := by simpa using fun e => h e.symm
      simp [List.lookup_cons, h, h', ih]

theorem lookup_map_values {α β : Type} (g : String → α → β) (as : List (String × α))
    (name : String) :
    (as.map fun (n, a) => (n, g n a)).lookup name = (as.lookup name).map (g name) := by
  induction as with
  | nil => rfl
  | cons a as ih =>
    obtain ⟨n, a⟩ := a
    by_cases h : name = n
    · subst h
      simp
    · have h' : (name == n) = false := by simpa using h
      simp only [List.map_cons, List.lookup_cons, h', ih]

theorem lookup_of_mem {α β : Type} [BEq α] [LawfulBEq α] {as : List (α × β)}
    (hn : (as.map Prod.fst).Nodup) {a : α} {b : β} (h : (a, b) ∈ as) : as.lookup a = some b := by
  induction as with
  | nil => cases h
  | cons p as ih =>
    obtain ⟨c, d⟩ := p
    rw [List.map_cons, List.nodup_cons] at hn
    rcases List.mem_cons.mp h with he | h
    · cases he
      exact List.lookup_cons_self
    · have hac : a ≠ c := fun he => hn.1 (List.mem_map.mpr ⟨(a, b), h, he⟩)
      have hb : (a == c) = false := by simpa using hac
      rw [List.lookup_cons, hb]
      exact ih hn.2 h

/-- A table of lists that has one more entry. -/
theorem getD_lookup_cons {α : Type} {names : List String} {as : List (String × List α)}
    {f : String → List α} (h : ∀ n ∈ names, (as.lookup n).getD [] = f n) {name : String}
    {a : List α} (ha : a = f name) :
    ∀ n ∈ name :: names, (((name, a) :: as).lookup n).getD [] = f n := by
  intro n hn
  by_cases hname : n = name
  · subst hname
    rw [List.lookup_cons_self, Option.getD_some, ha]
  · have hname' : (n == name) = false := by simpa using hname
    rw [List.lookup_cons, hname']
    exact h n ((List.mem_cons.mp hn).resolve_left hname)

/-- Entries may change places as long as no two have one name. -/
theorem lookup_perm {α β : Type} [BEq α] [LawfulBEq α] {as bs : List (α × β)}
    (hn : (as.map Prod.fst).Nodup) (h : as.Perm bs) (a : α) : as.lookup a = bs.lookup a := by
  cases hb : bs.lookup a with
  | none =>
    rw [List.lookup_eq_none_iff] at hb ⊢
    exact fun p hp => hb p (h.mem_iff.mp hp)
  | some b =>
    obtain ⟨l, r, hbs, -⟩ := List.lookup_eq_some_iff.mp hb
    exact lookup_of_mem hn (h.mem_iff.mpr (by simp [hbs]))

theorem find?_of_mem {α β : Type} [DecidableEq β] {f : α → β} {as : List α}
    (hn : (as.map f).Nodup) {a : α} (h : a ∈ as) : as.find? (f · = f a) = some a := by
  cases ha : as.find? (f · = f a) with
  | none => simpa using List.find?_eq_none.mp ha a h
  | some b =>
    have hfb : f b = f a := by simpa using List.find?_some ha
    rw [List.inj_on_of_nodup_map hn (List.mem_of_find?_eq_some ha) h hfb]

end OutlineTables
