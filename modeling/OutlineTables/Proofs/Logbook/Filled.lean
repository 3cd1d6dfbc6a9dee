import OutlineTables.Proofs.Logbook.Cuts
import OutlineTables.Proofs.Stamp.Brackets

/-!
Filled templates. A header that is written from a template, with values in its placeholders, has
what was written as its first cut, and no template of another type takes it.
-/
namespace OutlineTables

open Text

namespace Note

/-- What stands in the placeholders of a note. -/
structure Values where
  logged : Text
  new : Text
  old : Text

def quote (t : Text) : Text := '"' :: (t ++ ['"'])

end Note

/-- How a part is written: values in double quotes, and white space as any number of spaces. -/
inductive Part.Fills (v : Note.Values) : Part → Text → Prop
  | literal (c : Char) : Fills v (.literal c) [c]
  | blanks {n : Nat} (hn : 0 < n) : Fills v .blanks (List.replicate n ' ')
  | logged : Fills v (.hole .inactiveStamp) v.logged
  | new : Fills v (.hole .newValue) (Note.quote v.new)
  | old : Fills v (.hole .oldValue) (Note.quote v.old)

instance (v : Note.Values) : (p : Part) → (w : Text) → Decidable (p.Fills v w)
  | .literal c, w => decidable_of_iff (w = [c])
    ⟨fun h => h ▸ .literal c, fun h => by cases h; rfl⟩
  | .blanks, w => decidable_of_iff (0 < w.length ∧ w = List.replicate w.length ' ')
    ⟨fun h => h.2 ▸ .blanks h.1, fun h => by cases h with | blanks hn => simpa using hn⟩
  | .hole .inactiveStamp, w => decidable_of_iff (w = v.logged)
    ⟨fun h => h ▸ .logged, fun h => by cases h; rfl⟩
  | .hole .newValue, w => decidable_of_iff (w = Note.quote v.new)
    ⟨fun h => h ▸ .new, fun h => by cases h; rfl⟩
  | .hole .oldValue, w => decidable_of_iff (w = Note.quote v.old)
    ⟨fun h => h ▸ .old, fun h => by cases h; rfl⟩
  | .hole .activeStamp, _ | .hole .inactiveDate, _ | .hole .activeDate, _ | .hole .userWord, _
  | .hole .userName, _ => isFalse nofun

namespace Template

section FirstCut

variable {p : Part} {ps : Template} {w rest : Text} {ws : List Text}

theorem Cut.exists_split {t : Text} {vs : List Text} (h : Cut (p :: ps) t vs) :
    ∃ v us u, p.Allows v ∧ v ++ u = t ∧ Cut ps u us := by
  obtain ⟨v, us, rfl⟩ := h.exists_cons
  obtain ⟨u, ⟨hv, hsplit⟩, hus⟩ := cut_cons_iff.mp h
  exact ⟨v, us, u, hv, hsplit, hus⟩

theorem firstCut_nil : FirstCut [] [] [] :=
  ⟨cut_nil_iff.mpr ⟨rfl, rfl⟩, fun _ hvs => Or.inl (cut_nil_iff.mp hvs).1⟩

/-- A segment in front of a first cut, if no other one is preferred that the rest can follow. -/
theorem FirstCut.cons (hws : FirstCut ps rest ws) (hw : p.Allows w)
    (hfirst : ∀ v rest' vs, p.Allows v → v ++ rest' = w ++ rest → Cut ps rest' vs →
      v = w ∨ p.Prefers w v) : FirstCut (p :: ps) (w ++ rest) (w :: ws) := by
  refine ⟨cut_cons_iff.mpr ⟨rest, ⟨hw, rfl⟩, hws.toCut⟩, ?_⟩
  intro vs hvs
  obtain ⟨v, vs, rfl⟩ := hvs.exists_cons
  obtain ⟨rest', ⟨hv, happend⟩, hbehind⟩ := cut_cons_iff.mp hvs
  rcases hfirst v rest' vs hv happend hbehind with rfl | hlt
  · obtain rfl := List.append_cancel_left happend
    exact (hws.first vs hbehind).imp (congrArg (v :: ·)) .behind
  · exact Or.inr (.here hlt)

theorem FirstCut.literal (hws : FirstCut ps rest ws) (c : Char) :
    FirstCut (.literal c :: ps) (c :: rest) ([c] :: ws) :=
  hws.cons (p := .literal c) rfl fun _ _ _ hv _ _ => Or.inl hv

/-- White space is taken as a whole if something else follows. -/
theorem FirstCut.blanks (hws : FirstCut ps rest ws) (hne : w ≠ [])
    (hw : ∀ c ∈ w, isBlank c = true) (hstop : ∀ c ∈ rest.head?, isBlank c = false) :
    FirstCut (.blanks :: ps) (w ++ rest) (w :: ws) := by
  refine hws.cons (p := .blanks) ⟨hne, hw⟩ fun v rest' vs hv happend _ => ?_
  rcases List.append_eq_append_iff.mp happend with ⟨x, rfl, -⟩ | ⟨x, rfl, rfl⟩
  · cases x with
    | nil => exact Or.inl (List.append_nil v).symm
    | cons c x =>
      right
      change v.length < (v ++ c :: x).length
      rw [List.length_append, List.length_cons]
      omega
  · cases x with
    | nil => exact Or.inl (List.append_nil w)
    | cons c x =>
      have hblank := hv.2 c (List.mem_append_right _ List.mem_cons_self)
      rw [hstop c rfl] at hblank
      cases hblank

/-- There is one timestamp at most at the head of a text. -/
theorem FirstCut.stamp (hws : FirstCut ps rest ws) (hw : IsStamp '[' ']' w) :
    FirstCut (.hole .inactiveStamp :: ps) (w ++ rest) (w :: ws) := by
  refine hws.cons (p := .hole .inactiveStamp) hw fun v rest' vs hv happend _ => ?_
  have hread := stamp?_eq_some_iff.mpr ⟨hw, Eq.refl (w ++ rest)⟩
  rw [stamp?_eq_some_iff.mpr ⟨hv, happend⟩] at hread
  exact Or.inl (Prod.mk.inj (Option.some.inj hread)).1

/-- A value is taken as a whole if the rest cannot begin inside of it. -/
theorem FirstCut.value {h : Hole} (hh : h = .newValue ∨ h = .oldValue) (hws : FirstCut ps rest ws)
    (hwhole : ∀ v x vs, v ++ x = w → x ≠ [] → ¬Cut ps (x ++ rest) vs) :
    FirstCut (.hole h :: ps) (w ++ rest) (w :: ws) := by
  have hallows : (Part.hole h).Allows w := by
    rcases hh with rfl | rfl <;> trivial
  refine hws.cons hallows fun v rest' vs _ happend hvs => ?_
  rcases List.append_eq_append_iff.mp happend with ⟨x, rfl, rfl⟩ | ⟨x, rfl, -⟩
  · by_cases hx : x = []
    · rw [hx, List.append_nil]
      exact Or.inl rfl
    · exact absurd hvs (hwhole v x vs rfl hx)
  · cases x with
    | nil => exact Or.inl (List.append_nil w)
    | cons c x =>
      have hlonger : w.length < (w ++ c :: x).length := by
        rw [List.length_append, List.length_cons]
        omega
      right
      rcases hh with rfl | rfl <;> exact hlonger

/-- A value without white space ends where white space begins. -/
theorem FirstCut.word {h : Hole} (hh : h = .newValue ∨ h = .oldValue)
    (hws : FirstCut (.blanks :: ps) rest ws) (hw : ∀ c ∈ w, isBlank c = false) :
    FirstCut (.hole h :: .blanks :: ps) (w ++ rest) (w :: ws) := by
  refine hws.value hh ?_
  rintro v x vs rfl hx hvs
  obtain ⟨u, us, rest', ⟨hne, hu⟩, happend, -⟩ := hvs.exists_split
  -- The white space would have to begin with a character of the value.
  obtain ⟨c, x, rfl⟩ := List.exists_cons_of_ne_nil hx
  obtain ⟨d, u, rfl⟩ := List.exists_cons_of_ne_nil hne
  obtain ⟨rfl, -⟩ := List.cons.inj happend
  have hblank := hu d List.mem_cons_self
  rw [hw d (List.mem_append_right _ List.mem_cons_self)] at hblank
  cases hblank

/-- Between an old timestamp and the timestamp of the note. -/
def onStamp : Template :=
  [.blanks, .literal 'o', .literal 'n', .blanks, .hole .inactiveStamp]

theorem exists_of_cut_onStamp {t : Text} {vs : List Text} (h : Cut onStamp t vs) :
    ∃ b c u, t = b ++ 'o' :: 'n' :: c ++ '[' :: u ∧ (∀ x ∈ b, isBlank x = true) ∧
      c ≠ [] ∧ ∀ x ∈ c, isBlank x = true := by
  obtain ⟨b, vs₁, t₁, ⟨-, hb⟩, rfl, h₁⟩ := h.exists_split
  obtain ⟨o, vs₂, t₂, rfl, rfl, h₂⟩ := h₁.exists_split
  obtain ⟨n, vs₃, t₃, rfl, rfl, h₃⟩ := h₂.exists_split
  obtain ⟨c, vs₄, t₄, ⟨hne, hc⟩, rfl, h₄⟩ := h₃.exists_split
  obtain ⟨s, vs₅, t₅, ⟨d, inside, rfl, -⟩, rfl, -⟩ := h₄.exists_split
  exact ⟨b, c, d ++ inside ++ [']'] ++ t₅, by simp, hb, hne, hc⟩

/-- The square brackets in an old timestamp are not behind white space, so no timestamp of a note
begins there. -/
theorem FirstCut.quotedStamp {old : Text} {a : Stamp.Written} {b : Option Stamp.Written}
    (hold : Stamp.writtenRange? old = some (a, b)) (hws : FirstCut onStamp rest ws) :
    FirstCut (.hole .oldValue :: onStamp) (Note.quote old ++ rest) (Note.quote old :: ws) := by
  refine hws.value (Or.inr rfl) ?_
  intro v x vs hsplit hx hvs
  obtain ⟨b, c, u, htext, hb, hne, hc⟩ := exists_of_cut_onStamp hvs
  obtain ⟨x', q, rfl⟩ := (List.eq_nil_or_concat' x).resolve_left hx
  have hquote : v ++ x' ++ [q] = '"' :: old ++ ['"'] := by
    rw [List.append_assoc]
    exact hsplit
  obtain ⟨hfront, hq⟩ := List.append_inj' hquote rfl
  obtain rfl := List.singleton_inj.mp hq
  -- The rest begins inside of the value, up to its bracket, as it has no quote in front of that.
  have hnone : '"' ∉ b ++ 'o' :: 'n' :: c ++ ['['] := by
    have hquote : isBlank '"' = false := by decide
    intro hm
    simp only [List.mem_append, List.mem_cons, List.not_mem_nil, or_false] at hm
    rcases hm with (hm | hm | hm | hm) | hm
    · exact absurd (hb _ hm) (ne_true_of_eq_false hquote)
    · cases hm
    · cases hm
    · exact absurd (hc _ hm) (ne_true_of_eq_false hquote)
    · cases hm
  have hbegin : b ++ 'o' :: 'n' :: c ++ ['['] ++ u = x' ++ '"' :: rest := by
    rw [List.append_assoc]
    simpa using htext.symm
  obtain ⟨y, rfl, -⟩ := append_split hnone hbegin
  -- So there is white space in front of this bracket, which is in the old timestamp.
  obtain ⟨c', d, rfl⟩ := (List.eq_nil_or_concat' c).resolve_left hne
  have hblank := hc d (List.mem_append_right _ List.mem_cons_self)
  have hbracket : v ++ b ++ 'o' :: 'n' :: c' ++ [d] ++ '[' :: y = '"' :: old := by
    rw [← hfront]
    simp
  obtain ⟨q, pre, hpre⟩ : ∃ q pre, v ++ b ++ 'o' :: 'n' :: c' = q :: pre :=
    List.exists_cons_of_ne_nil (by simp)
  rw [hpre] at hbracket
  obtain ⟨-, hinside⟩ := List.cons.inj hbracket
  rcases Stamp.before_bracket hold hinside.symm with hnil | hhyphen
  · exact absurd hnil (by simp)
  · have hd : d = '-' := by simpa using hhyphen
    rw [hd] at hblank
    revert hblank
    decide

end FirstCut

/-- Literal text without brackets, with single runs of white space in it. -/
def isLead : Template → Bool
  | [] => true
  | .literal c :: ps => !isBlank c && !Stamp.isBracket c && isLead ps
  | .blanks :: ps => decide (ps.head? ≠ some .blanks) && isLead ps
  | .hole _ :: _ => false

section Lead

variable {v : Note.Values} {lead ps : Template} {us ws : List Text} {rest : Text}

/-- Literal text and white space are taken as they are written. -/
theorem FirstCut.append (hlead : isLead lead = true) (hus : List.Forall₂ (Part.Fills v) lead us)
    (hws : FirstCut ps rest ws) (hstop : ∀ c ∈ rest.head?, isBlank c = false) :
    FirstCut (lead ++ ps) (us.flatten ++ rest) (us ++ ws) := by
  -- Induction on what was written for the parts, from the last one on.
  induction hus with
  | nil => exact hws
  | @cons p u lead us hu hus ih =>
    rw [List.flatten_cons, List.append_assoc]
    cases hu with
    | literal c =>
      simp only [isLead, Bool.and_eq_true] at hlead
      exact (ih hlead.2).literal c
    | @blanks n hn =>
      simp only [isLead, Bool.and_eq_true, decide_eq_true_eq] at hlead
      refine (ih hlead.2).blanks (by simpa using hn.ne') ?_ ?_
      · intro c hc
        rw [List.eq_of_mem_replicate hc]
        decide
      · -- Behind white space comes a literal character or what follows the whole.
        cases hus with
        | nil => exact hstop
        | cons hu _ =>
          cases hu with
          | literal c =>
            simp only [isLead, Bool.and_eq_true, Bool.not_eq_true'] at hlead
            intro d hd
            cases hd
            exact hlead.2.1.1
          | blanks _ => exact absurd rfl hlead.1
          | logged | new | old => cases hlead.2
    | logged | new | old => cases hlead

/-- Literal text captures nothing. -/
theorem captures_lead (hlead : isLead lead = true) (hus : List.Forall₂ (Part.Fills v) lead us)
    (pos : Nat) : captures (lead ++ ps) pos (us ++ ws) =
      captures ps (pos + us.flatten.length) ws := by
  induction hus generalizing pos with
  | nil => rfl
  | @cons p u lead us hu _ ih =>
    have hcount : pos + (u :: us).flatten.length = pos + u.length + us.flatten.length := by
      rw [List.flatten_cons, List.length_append, Nat.add_assoc]
    rw [hcount]
    cases hu with
    | literal c =>
      simp only [isLead, Bool.and_eq_true] at hlead
      exact ih hlead.2 _
    | blanks hn =>
      simp only [isLead, Bool.and_eq_true] at hlead
      exact ih hlead.2 _
    | logged | new | old => cases hlead

theorem plain_lead (hlead : isLead lead = true) (hus : List.Forall₂ (Part.Fills v) lead us) :
    ∀ c ∈ us.flatten, c ≠ '\n' ∧ Stamp.isBracket c = false := by
  induction hus with
  | nil => exact fun c hc => absurd hc List.not_mem_nil
  | @cons p u lead us hu _ ih =>
    rw [List.flatten_cons, List.forall_mem_append]
    cases hu with
    | literal c =>
      simp only [isLead, Bool.and_eq_true, Bool.not_eq_true'] at hlead
      refine ⟨fun d hd => ?_, ih hlead.2⟩
      rw [List.mem_singleton.mp hd]
      refine ⟨?_, hlead.1.2⟩
      rintro rfl
      exact absurd hlead.1.1 (by decide)
    | blanks hn =>
      simp only [isLead, Bool.and_eq_true] at hlead
      refine ⟨fun d hd => ?_, ih hlead.2⟩
      rw [List.eq_of_mem_replicate hd]
      decide
    | logged | new | old => cases hlead

theorem exists_of_fills_append {as bs : Template} (h : List.Forall₂ (Part.Fills v) (as ++ bs) ws) :
    ∃ us vs, ws = us ++ vs ∧ List.Forall₂ (Part.Fills v) as us ∧
      List.Forall₂ (Part.Fills v) bs vs :=
  ⟨ws.take as.length, ws.drop as.length, (List.take_append_drop as.length ws).symm,
    (List.forall₂_take_append ws as bs h.flip).flip,
    (List.forall₂_drop_append ws as bs h.flip).flip⟩

end Lead

/-- What was written for parts is one line, and its first cut. -/
structure Found (ps : Template) (ws : List Text) : Prop where
  first : FirstCut ps ws.flatten ws
  line : '\n' ∉ ws.flatten

section Found

variable {v : Note.Values} {lead ps : Template} {us ws : List Text} {w : Text}

theorem found_stamp (hw : IsStamp '[' ']' w) (hline : '\n' ∉ w) :
    Found [.hole .inactiveStamp] [w] where
  first := firstCut_nil.stamp hw
  line := by simpa using hline

theorem Found.append (hlead : isLead lead = true) (hus : List.Forall₂ (Part.Fills v) lead us)
    (h : Found ps ws) (hstop : ∀ c ∈ ws.flatten.head?, isBlank c = false) :
    Found (lead ++ ps) (us ++ ws) where
  first := by
    rw [List.flatten_append]
    exact h.first.append hlead hus hstop
  line := by
    rw [List.flatten_append, List.mem_append, not_or]
    exact ⟨fun hm => (plain_lead hlead hus _ hm).1 rfl, h.line⟩

theorem Found.word {p : Hole} (hp : p = .newValue ∨ p = .oldValue) (hw : ∀ c ∈ w, isBlank c = false)
    (h : Found (.blanks :: ps) ws) : Found (.hole p :: .blanks :: ps) (w :: ws) where
  first := h.first.word hp hw
  line := by
    rw [List.flatten_cons, List.mem_append, not_or]
    exact ⟨fun hm => absurd (hw _ hm) (by decide), h.line⟩

theorem Found.quotedStamp {old : Text} {a : Stamp.Written} {b : Option Stamp.Written}
    (hold : Stamp.writtenRange? old = some (a, b)) (hline : '\n' ∉ old) (h : Found onStamp ws) :
    Found (.hole .oldValue :: onStamp) (Note.quote old :: ws) where
  first := h.first.quotedStamp hold
  line := by
    rw [List.flatten_cons, List.mem_append, not_or]
    exact ⟨by simpa [Note.quote] using hline, h.line⟩

end Found

/-- Whether literal text at the heads of two templates differs. -/
def clash : Template → Template → Bool
  | .literal c :: ps, .literal d :: qs => decide (c ≠ d) || clash ps qs
  | .literal c :: _, .blanks :: _ => !isBlank c
  | .blanks :: _, .literal c :: _ => !isBlank c
  | _, _ => false

theorem Cut.of_literal {c : Char} {ps : Template} {t : Text} {ws : List Text}
    (h : Cut (.literal c :: ps) t ws) : ∃ u us, t = c :: u ∧ Cut ps u us := by
  obtain ⟨w, us, u, rfl, rfl, hus⟩ := h.exists_split
  exact ⟨u, us, rfl, hus⟩

theorem Cut.of_blanks {ps : Template} {t : Text} {ws : List Text} (h : Cut (.blanks :: ps) t ws) :
    ∃ c u, t = c :: u ∧ isBlank c = true := by
  obtain ⟨w, us, u, ⟨hne, hw⟩, rfl, -⟩ := h.exists_split
  obtain ⟨c, w, rfl⟩ := List.exists_cons_of_ne_nil hne
  exact ⟨c, w ++ u, rfl, hw c List.mem_cons_self⟩

/-- Texts of templates with different heads are different. -/
theorem not_cut_of_clash {ps qs : Template} {t : Text} {ws vs : List Text}
    (h : clash ps qs = true) (hws : Cut ps t ws) : ¬Cut qs t vs := by
  intro hvs
  -- Both templates take the same characters of the text, up to the part in which they differ.
  induction ps, qs using clash.induct generalizing t ws vs with
  | case1 c ps d qs ih =>
    obtain ⟨u, us, rfl, hus⟩ := hws.of_literal
    obtain ⟨u', us', he, hus'⟩ := hvs.of_literal
    obtain ⟨rfl, rfl⟩ := List.cons.inj he
    exact ih (by simpa [clash] using h) hus hus'
  | case2 c ps qs =>
    obtain ⟨u, -, rfl, -⟩ := hws.of_literal
    obtain ⟨d, u', he, hd⟩ := hvs.of_blanks
    obtain ⟨rfl, -⟩ := List.cons.inj he
    simp [clash, hd] at h
  | case3 ps c qs =>
    obtain ⟨u, -, rfl, -⟩ := hvs.of_literal
    obtain ⟨d, u', he, hd⟩ := hws.of_blanks
    obtain ⟨rfl, -⟩ := List.cons.inj he
    simp [clash, hd] at h
  | case4 ps qs h1 h2 h3 => simp [clash] at h

end Template

/-- A header is of the type whose template it was written from, if other templates differ in their
literal text. -/
theorem NoteType.match?_flatten {types : List NoteType}
    (hp : types.Pairwise fun a b => Template.clash a.template b.template = true) {ty : NoteType}
    (hty : ty ∈ types) {ws : List Text} (h : Template.Found ty.template ws) :
    match? types ws.flatten = some (ty, Template.captures ty.template 0 ws) := by
  obtain ⟨before, after, rfl⟩ := List.append_of_mem hty
  have hfound : ty.template.match? ws.flatten = some (Template.captures ty.template 0 ws) :=
    (Template.matchFrom?_eq_some_iff h.line).mpr ⟨ws, h.first, rfl⟩
  refine List.findSome?_eq_some_iff.mpr ⟨before, ty, after, rfl, by rw [hfound]; rfl, ?_⟩
  intro other hother
  rw [Option.map_eq_none_iff, ← Option.not_isSome_iff_eq_none, Template.match?,
    Template.isSome_matchFrom?_iff _ _ h.line]
  rintro ⟨vs, hvs⟩
  -- A type that is tried earlier would have another cut of the header.
  have hclash := (List.pairwise_append.mp hp).2.2 other hother ty List.mem_cons_self
  exact Template.not_cut_of_clash hclash hvs h.first.toCut

end OutlineTables
