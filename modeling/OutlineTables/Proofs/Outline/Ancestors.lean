import Mathlib.Order.Basic
import OutlineTables.Proofs.Success
import OutlineTables.Rows.OfOutline

/-!
Ancestors by levels. The headings that are open at a heading are the chain of its parents, each of
them the nearest heading before the last one that has a smaller level.
-/
namespace OutlineTables

/-- Among headings of these levels, `i` is the parent of `j`: the nearest heading before it that
has a smaller level. -/
structure IsParent (level : Nat → Int) (i j : Nat) : Prop where
  before : i < j
  smaller : level i < level j
  nearest : ∀ k, i < k → k < j → level j ≤ level k

/-- Heading `i` is the `k`-fold parent of heading `j`. -/
inductive IsAncestor (level : Nat → Int) : Nat → Nat → Nat → Prop
  | self (j : Nat) : IsAncestor level 0 j j
  | above {k i p j : Nat} (hp : IsParent level p j) (h : IsAncestor level k i p) :
    IsAncestor level (k + 1) i j

/-- The parents of heading `j`, the nearest first. -/
inductive ParentChain (level : Nat → Int) : Nat → List Nat → Prop
  | root {j : Nat} (h : ∀ i, ¬IsParent level i j) : ParentChain level j []
  | under {i j : Nat} {is : List Nat} (hp : IsParent level i j) (h : ParentChain level i is) :
    ParentChain level j (i :: is)

section Levels

variable {level : Nat → Int} {i j k n : Nat} {is : List Nat}

/-- Each parent stands before its child. -/
theorem IsAncestor.add_le (h : IsAncestor level k i j) : i + k ≤ j := by
  induction h with
  | self j => exact Nat.le_refl j
  | above hp _ ih =>
    have := hp.before
    omega

theorem IsParent.unique (h : IsParent level i j) (h' : IsParent level k j) : i = k := by
  -- If one of them were further away, the nearer one would stand between.
  have hk : ¬i < k := fun hlt => by
    have := h.nearest k hlt h'.before
    have := h'.smaller
    omega
  have hi : ¬k < i := fun hlt => by
    have := h'.nearest i hlt h.before
    have := h.smaller
    omega
  omega

/-- A heading of a smaller level before `j`, however far away, gives `j` a parent. -/
theorem exists_parent (hi : i < j) (hl : level i < level j) : ∃ p, IsParent level p j := by
  -- Induction on how many headings before `j` are known to be of no smaller level.
  have hnear (d : Nat) : ∀ k, k + d = j → i < k → (∀ m, k ≤ m → m < j → level j ≤ level m) →
      ∃ p, IsParent level p j := by
    intro k
    induction k generalizing d with
    | zero => omega
    | succ k ih =>
      intro hk hik hall
      by_cases hlk : level k < level j
      · exact ⟨k, by omega, hlk, fun m hkm hmj => hall m hkm hmj⟩
      · have hne : i ≠ k := fun he => hlk (he ▸ hl)
        apply ih (d + 1) (by omega) (by omega)
        intro m hkm hmj
        rcases Nat.eq_or_lt_of_le hkm with rfl | hlt
        · omega
        · exact hall m hlt hmj
  exact hnear 0 j rfl hi fun m hm hmj => by omega

theorem ParentChain.getElem?_iff (h : ParentChain level j is) :
    (j :: is)[k]? = some i ↔ IsAncestor level k i j := by
  -- Induction on the chain; a chain that ends has no `k`-fold parent for any `k` above zero.
  induction h generalizing k with
  | @root j hroot =>
    constructor
    · intro hk
      cases k with
      | zero =>
        cases hk
        exact IsAncestor.self _
      | succ k => simp at hk
    · intro ha
      cases ha with
      | self => rfl
      | above hp _ => exact absurd hp (hroot _)
  | @under p j is hp _ ih =>
    constructor
    · intro hk
      cases k with
      | zero =>
        cases hk
        exact IsAncestor.self _
      | succ k => exact IsAncestor.above hp (ih.mp hk)
    · intro ha
      cases ha with
      | self => rfl
      | above hp' ha =>
        rw [hp'.unique hp] at ha
        exact ih.mpr ha

/-- Headings that are not smaller are left out of the way up to the parent of `n`. -/
theorem ParentChain.dropWhile (h : ParentChain level j is) (hj : j < n)
    (hall : ∀ k, j < k → k < n → level n ≤ level k) :
    ParentChain level n ((j :: is).dropWhile fun i => decide (level n ≤ level i)) := by
  -- Induction on the chain, as long as its headings are left out; the first that stays is the
  -- parent, for all headings after it are of no smaller level.
  induction h with
  | @root j hroot =>
    by_cases hl : level n ≤ level j
    · rw [List.dropWhile_cons_of_pos (by simpa using hl), List.dropWhile_nil]
      apply ParentChain.root
      intro i hi
      have := hi.smaller
      rcases Nat.lt_trichotomy i j with hlt | rfl | hlt
      · -- Then `j` would have a parent too.
        obtain ⟨p, hp⟩ := exists_parent hlt (by omega : level i < level j)
        exact hroot p hp
      · omega
      · have := hall i hlt hi.before
        omega
    · rw [List.dropWhile_cons_of_neg (by simpa using hl)]
      exact ParentChain.under ⟨hj, by omega, hall⟩ (ParentChain.root hroot)
  | @under p j is hp hchain ih =>
    by_cases hl : level n ≤ level j
    · rw [List.dropWhile_cons_of_pos (by simpa using hl)]
      have := hp.before
      apply ih (by omega)
      intro k hpk hkn
      rcases Nat.lt_trichotomy k j with hlt | rfl | hlt
      · have := hp.nearest k hpk hlt
        omega
      · exact hl
      · exact hall k hlt hkn
    · rw [List.dropWhile_cons_of_neg (by simpa using hl)]
      exact ParentChain.under ⟨hj, by omega, hall⟩ (ParentChain.under hp hchain)

/-- The headings that are open before heading `n`. -/
def OpenAt (level : Nat → Int) : Nat → List Nat → Prop
  | 0, is => is = []
  | n + 1, is => ∃ js, is = n :: js ∧ ParentChain level n js

theorem OpenAt.chain (h : OpenAt level n is) :
    ParentChain level n (is.dropWhile fun i => decide (level n ≤ level i)) := by
  cases n with
  | zero =>
    rw [h]
    apply ParentChain.root
    intro i hi
    exact absurd hi.before (Nat.not_lt_zero i)
  | succ n =>
    obtain ⟨js, rfl, hchain⟩ := h
    exact hchain.dropWhile (Nat.lt_succ_self n) fun k hk hk' => by omega

end Levels

theorem exists_getElem?_right {α β : Type} {R : α → β → Prop} {as : List α} {bs : List β}
    (h : List.Forall₂ R as bs) {k : Nat} {a : α} (ha : as[k]? = some a) :
    ∃ b, bs[k]? = some b ∧ R a b := by
  induction h generalizing k with
  | nil => cases ha
  | @cons a' b as bs hab _ ih =>
    cases k with
    | zero =>
      cases ha
      exact ⟨b, rfl, hab⟩
    | succ k => exact ih ha

theorem forall₂_dropWhile {α β : Type} {R : α → β → Prop} {p : α → Bool} {q : β → Bool}
    {as : List α} {bs : List β} (h : List.Forall₂ R as bs) (hpq : ∀ a b, R a b → p a = q b) :
    List.Forall₂ R (as.dropWhile p) (bs.dropWhile q) := by
  induction h with
  | nil => exact List.Forall₂.nil
  | @cons a b as bs hab hrest ih =>
    rw [List.dropWhile_cons, List.dropWhile_cons, hpq a b hab]
    split
    · exact ih
    · exact List.Forall₂.cons hab hrest

namespace Heading

/-- The level of heading `i`. -/
def levelAt (hs : List Heading) (i : Nat) : Int := (hs[i]?.map (·.level)).getD 0

theorem levelAt_of_getElem? {hs : List Heading} {i : Nat} {h : Heading} (hi : hs[i]? = some h) :
    levelAt hs i = h.level := by
  unfold levelAt
  rw [hi]
  rfl

/-- Each heading of a list comes with its parents, as far as the list goes up. -/
theorem withAncestors_chains {hs : List Heading} {rest opened : List Heading} {n : Nat}
    {is : List Nat} (hrest : hs.drop n = rest)
    (hopened : List.Forall₂ (fun a i => hs[i]? = some a) opened is)
    (hopen : OpenAt (levelAt hs) n is) :
    List.Forall₂ (fun j p => hs[j]? = some p.1 ∧ ∃ js, ParentChain (levelAt hs) j js ∧
        List.Forall₂ (fun a i => hs[i]? = some a) p.2 js)
      (List.range' n rest.length) (withAncestors opened rest) := by
  induction rest generalizing n opened is with
  | nil => exact List.Forall₂.nil
  | cons h rest ih =>
    have hn : hs[n]? = some h := by
      rw [← List.head?_drop, hrest]
      rfl
    have hlevel := levelAt_of_getElem? hn
    have hchain := hopen.chain
    have habove := forall₂_dropWhile (p := fun a => decide (h.level ≤ a.level))
      (q := fun i => decide (levelAt hs n ≤ levelAt hs i)) hopened fun a i hi => by
        rw [hlevel, levelAt_of_getElem? hi]
    have hrest' : hs.drop (n + 1) = rest := by
      rw [← List.tail_drop, hrest]
      rfl
    rw [List.length_cons, List.range'_succ]
    refine List.Forall₂.cons ⟨hn, _, hchain, habove⟩ ?_
    -- The next heading finds this one open, and what was open above it.
    exact ih hrest' (List.Forall₂.cons hn habove) ⟨_, rfl, hchain⟩

/-- Heading `j` of a list, with each `k`-fold parent at place `k` of a list that it heads. -/
structure HasParents (hs : List Heading) (j : Nat) (p : Heading × List Heading) : Prop where
  heading : hs[j]? = some p.1
  parents : ∀ k a, (p.1 :: p.2)[k]? = some a ↔
    ∃ i, IsAncestor (levelAt hs) k i j ∧ hs[i]? = some a

theorem forall₂_withAncestors (hs : List Heading) :
    List.Forall₂ (HasParents hs) (List.range' 0 hs.length) (withAncestors [] hs) := by
  refine (withAncestors_chains (n := 0) List.drop_zero List.Forall₂.nil rfl).imp ?_
  rintro j ⟨h, above⟩ ⟨hj, js, hchain, habove⟩
  have hall : List.Forall₂ (fun a i => hs[i]? = some a) (h :: above) (j :: js) :=
    List.Forall₂.cons hj habove
  refine ⟨hj, fun k a => ?_⟩
  constructor
  · intro hk
    obtain ⟨i, hi, ha⟩ := exists_getElem?_right hall hk
    exact ⟨i, hchain.getElem?_iff.mp hi, ha⟩
  · rintro ⟨i, hi, ha⟩
    obtain ⟨a', ha', hat⟩ := exists_getElem?_right hall.flip (hchain.getElem?_iff.mpr hi)
    have hsame : a = a' := Option.some.inj (ha.symm.trans hat)
    rw [hsame]
    exact ha'

theorem exists_place {hs : List Heading} {p : Heading × List Heading}
    (hp : p ∈ withAncestors [] hs) : ∃ j, HasParents hs j p := by
  obtain ⟨j, -, hj⟩ := exists_left_of_mem (forall₂_withAncestors hs) hp
  exact ⟨j, hj⟩

theorem exists_of_place {hs : List Heading} {j : Nat} {h : Heading} (hj : hs[j]? = some h) :
    ∃ above, (h, above) ∈ withAncestors [] hs ∧ HasParents hs j (h, above) := by
  have hmem : j ∈ List.range' 0 hs.length := by
    have hlt := (List.getElem?_eq_some_iff.mp hj).1
    simpa using hlt
  obtain ⟨⟨h', above⟩, hp, hparents⟩ := exists_right_of_mem (forall₂_withAncestors hs) hmem
  have hsame : h = h' := Option.some.inj (hj.symm.trans hparents.heading)
  subst hsame
  exact ⟨above, hp, hparents⟩

end Heading

end OutlineTables
