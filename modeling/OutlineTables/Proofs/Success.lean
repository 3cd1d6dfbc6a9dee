import Mathlib.Data.List.Forall2

/-!
What it takes for a computation that may fail to succeed.
-/
namespace OutlineTables

variable {ε ε' α β γ : Type}

theorem bind_eq_ok {x : Except ε α} {f : α → Except ε β} {b : β} :
    x >>= f = .ok b ↔ ∃ a, x = .ok a ∧ f a = .ok b := by
  cases x with
  | error e => simp [bind, Except.bind]
  | ok a => simp [bind, Except.bind]

theorem map_eq_ok {x : Except ε α} {f : α → β} {b : β} :
    x.map f = .ok b ↔ ∃ a, x = .ok a ∧ f a = b := by
  cases x with
  | error e => simp [Except.map]
  | ok a => simp [Except.map]

theorem mapError_eq_ok {x : Except ε α} {f : ε → ε'} {a : α} :
    x.mapError f = .ok a ↔ x = .ok a := by
  cases x with
  | error e => simp [Except.mapError]
  | ok a => simp [Except.mapError]

theorem exists_ok {x : Except ε α} (h : x.isOk = true) : ∃ a, x = .ok a := by
  cases x with
  | error e => cases h
  | ok a => exact ⟨a, rfl⟩

theorem exists_of_map {x : Except ε α} {f : α → β} {b : β} (h : (x.map f).toOption = some b) :
    ∃ a, x = .ok a ∧ f a = b := by
  cases x with
  | error e => cases h
  | ok a => exact ⟨a, rfl, Option.some.inj h⟩

/-- A list is worked through with success exactly if each of its members is. -/
theorem mapM_eq_ok {f : α → Except ε β} {as : List α} {bs : List β} :
    as.mapM f = .ok bs ↔ List.Forall₂ (fun a b => f a = .ok b) as bs := by
  induction as generalizing bs with
  | nil => simp [pure, Except.pure, eq_comm]
  | cons a as ih =>
    simp only [List.mapM_cons, bind_eq_ok, ih, List.forall₂_cons_left_iff]
    constructor
    · rintro ⟨b, hb, bs', hbs, h⟩
      cases h
      exact ⟨b, bs', hb, hbs, rfl⟩
    · rintro ⟨b, bs', hb, hbs, rfl⟩
      exact ⟨b, hb, bs', hbs, rfl⟩

/-- Another step may make something of each result that the first one has. -/
theorem mapM_eq_ok_map {f : α → Except ε β} {f' : α → Except ε γ} {g : β → γ} {as : List α}
    {bs : List β} (hf : ∀ a, ∀ b ∈ bs, f a = .ok b → f' a = .ok (g b)) (h : as.mapM f = .ok bs) :
    as.mapM f' = .ok (bs.map g) := by
  rw [mapM_eq_ok] at h ⊢
  induction h with
  | nil => exact List.Forall₂.nil
  | @cons a b as bs ha _ ih =>
    have hhead : f' a = .ok (g b) := hf a b List.mem_cons_self ha
    exact List.Forall₂.cons hhead (ih fun a' b' hb => hf a' b' (List.mem_cons_of_mem b hb))

theorem exists_left_of_mem {R : α → β → Prop} {as : List α} {bs : List β}
    (h : List.Forall₂ R as bs) {b : β} (hb : b ∈ bs) : ∃ a ∈ as, R a b := by
  induction h with
  | nil => cases hb
  | cons ha _ ih =>
    rcases List.mem_cons.mp hb with rfl | hb
    · exact ⟨_, List.mem_cons_self, ha⟩
    · obtain ⟨a, hm, ha⟩ := ih hb
      exact ⟨a, List.mem_cons_of_mem _ hm, ha⟩

theorem exists_right_of_mem {R : α → β → Prop} {as : List α} {bs : List β}
    (h : List.Forall₂ R as bs) {a : α} (ha : a ∈ as) : ∃ b ∈ bs, R a b :=
  exists_left_of_mem h.flip ha

theorem map_eq_of_forall₂ {R : α → β → Prop} {as : List α} {bs : List β}
    (h : List.Forall₂ R as bs) {f : α → γ} {g : β → γ} (hfg : ∀ a b, R a b → f a = g b) :
    as.map f = bs.map g := by
  induction h with
  | nil => rfl
  | cons ha _ ih => rw [List.map_cons, List.map_cons, hfg _ _ ha, ih]

theorem exists_of_mem_mapM {f : α → Except ε β} {as : List α} {bs : List β}
    (h : as.mapM f = .ok bs) {b : β} (hb : b ∈ bs) : ∃ a ∈ as, f a = .ok b :=
  exists_left_of_mem (mapM_eq_ok.mp h) hb

theorem exists_mem_of_mapM {f : α → Except ε β} {as : List α} {bs : List β}
    (h : as.mapM f = .ok bs) {a : α} (ha : a ∈ as) : ∃ b ∈ bs, f a = .ok b :=
  exists_right_of_mem (mapM_eq_ok.mp h) ha

theorem exists_mapM_iff {f : α → Except ε β} {as : List α} :
    (∃ bs, as.mapM f = .ok bs) ↔ ∀ a ∈ as, ∃ b, f a = .ok b := by
  constructor
  · rintro ⟨bs, h⟩ a ha
    obtain ⟨b, -, hb⟩ := exists_mem_of_mapM h ha
    exact ⟨b, hb⟩
  · intro h
    induction as with
    | nil => exact ⟨[], rfl⟩
    | cons a as ih =>
      obtain ⟨b, hb⟩ := h a List.mem_cons_self
      obtain ⟨bs, hbs⟩ := ih fun c hc => h c (List.mem_cons_of_mem _ hc)
      exact ⟨b :: bs, mapM_eq_ok.mpr (List.Forall₂.cons hb (mapM_eq_ok.mp hbs))⟩

/-- Whatever is done next, both steps have to succeed. -/
theorem exists_bind_iff {x : Except ε α} {f : α → Except ε β} :
    (∃ b, x >>= f = .ok b) ↔ ∃ a, x = .ok a ∧ ∃ b, f a = .ok b := by
  constructor
  · rintro ⟨b, h⟩
    obtain ⟨a, ha, hb⟩ := bind_eq_ok.mp h
    exact ⟨a, ha, b, hb⟩
  · rintro ⟨a, ha, b, hb⟩
    exact ⟨b, bind_eq_ok.mpr ⟨a, ha, hb⟩⟩

/-- What the next step takes to succeed may not depend on the result of the first. -/
theorem exists_bind_and_iff {x : Except ε α} {f : α → Except ε β} {P : Prop}
    (hf : ∀ a, (∃ b, f a = .ok b) ↔ P) :
    (∃ b, x >>= f = .ok b) ↔ (∃ a, x = .ok a) ∧ P := by
  rw [exists_bind_iff]
  constructor
  · rintro ⟨a, ha, hb⟩
    exact ⟨⟨a, ha⟩, (hf a).mp hb⟩
  · rintro ⟨⟨a, ha⟩, hp⟩
    exact ⟨a, ha, (hf a).mpr hp⟩

/-- A next step that always succeeds does not count. -/
theorem exists_bind_of_forall {x : Except ε α} {f : α → Except ε β} (hf : ∀ a, ∃ b, f a = .ok b) :
    (∃ b, x >>= f = .ok b) ↔ ∃ a, x = .ok a := by
  have hand := exists_bind_and_iff (x := x) fun a => iff_true_intro (hf a)
  rw [hand, and_true]

/-- A step that is taken for a value at hand, where nothing can go wrong without one. -/
theorem exists_option_iff {o : Option α} {x : Except ε β} {P : α → Prop}
    (hnone : o = none → ∃ b, x = .ok b) (hsome : ∀ a, o = some a → ((∃ b, x = .ok b) ↔ P a)) :
    (∃ b, x = .ok b) ↔ ∀ a, o = some a → P a := by
  cases o with
  | none =>
    constructor
    · intro _ a ha
      cases ha
    · intro _
      exact hnone rfl
  | some a =>
    rw [hsome a rfl]
    constructor
    · intro h a' ha
      cases ha
      exact h
    · intro h
      exact h a rfl

/-- A step that is taken under a condition, where nothing can go wrong without it. -/
theorem exists_ite_iff {c : Prop} [Decidable c] {x y : Except ε α} (hy : ∃ a, y = .ok a) :
    (∃ a, (if c then x else y) = .ok a) ↔ (c → ∃ a, x = .ok a) := by
  by_cases hc : c
  · rw [if_pos hc, imp_iff_right hc]
  · rw [if_neg hc]
    exact ⟨fun _ h => absurd h hc, fun _ => hy⟩

end OutlineTables
