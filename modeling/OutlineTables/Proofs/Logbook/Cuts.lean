import OutlineTables.Proofs.Logbook.Choices
import OutlineTables.Proofs.Logbook.Spelling

/-!
Cuts of headers. Main statement: a template describes exactly the headers that can be cut into
segments of its parts, and what it captures are the segments of the first such cut.
-/
namespace OutlineTables

namespace Template

/-- A cut of a header into segments, one for each part, in order. -/
structure Cut (ps : Template) (header : Text) (ws : List Text) : Prop where
  allowed : List.Forall₂ Part.Allows ps ws
  whole : ws.flatten = header

/-- Cuts compared from left to right: the first segment in which they differ decides. -/
inductive Precedes : Template → List Text → List Text → Prop
  | here {p : Part} {ps : Template} {w v : Text} {ws vs : List Text} (h : p.Prefers w v) :
    Precedes (p :: ps) (w :: ws) (v :: vs)
  | behind {p : Part} {ps : Template} {w : Text} {ws vs : List Text} (h : Precedes ps ws vs) :
    Precedes (p :: ps) (w :: ws) (w :: vs)

/-- The cut that comes before all others. -/
structure FirstCut (ps : Template) (header : Text) (ws : List Text) : Prop extends
    Cut ps header ws where
  first : ∀ vs, Cut ps header vs → vs = ws ∨ Precedes ps ws vs

/-- The segments of the placeholders, with their places. -/
def captures : Template → Nat → List Text → List Capture
  | .hole h :: ps, pos, w :: ws => ⟨h, w, pos⟩ :: captures ps (pos + w.length) ws
  | _ :: ps, pos, w :: ws => captures ps (pos + w.length) ws
  | _, _, _ => []

section Cuts

variable {p : Part} {ps : Template} {t w rest : Text} {ws vs : List Text} {pos : Nat}
  {cs : List Capture}

theorem cut_nil_iff : Cut [] t ws ↔ ws = [] ∧ t = [] := by
  constructor
  · rintro ⟨hall, rfl⟩
    cases hall
    exact ⟨rfl, rfl⟩
  · rintro ⟨rfl, rfl⟩
    exact ⟨.nil, rfl⟩

theorem cut_cons_iff : Cut (p :: ps) t (w :: ws) ↔
    ∃ rest, (p.Allows w ∧ w ++ rest = t) ∧ Cut ps rest ws := by
  constructor
  · rintro ⟨hall, rfl⟩
    obtain ⟨hw, hws⟩ := List.forall₂_cons.mp hall
    exact ⟨ws.flatten, ⟨hw, rfl⟩, hws, rfl⟩
  · rintro ⟨rest, ⟨hw, rfl⟩, hws, rfl⟩
    exact ⟨.cons hw hws, rfl⟩

theorem Cut.exists_cons (h : Cut (p :: ps) t vs) : ∃ w ws, vs = w :: ws := by
  obtain ⟨w, ws, -, -, rfl⟩ := List.forall₂_cons_left_iff.mp h.allowed
  exact ⟨w, ws, rfl⟩

theorem Precedes.asymm (h : Precedes ps ws vs) : ¬Precedes ps vs ws := by
  induction h with
  | here h =>
    rintro (h' | _)
    · exact h.asymm h'
    · exact h.asymm h
  | behind _ ih =>
    rintro (h' | h')
    · exact h'.asymm h'
    · exact ih h'

/-- There is one first cut at most. -/
theorem FirstCut.eq (h : FirstCut ps t ws) (h' : FirstCut ps t vs) : ws = vs := by
  rcases h'.first ws h.toCut with he | hlt
  · exact he
  · rcases h.first vs h'.toCut with he | hlt'
    · exact he.symm
    · exact absurd hlt' hlt.asymm

theorem isEnd_iff (hn : '\n' ∉ t) : isEnd t = true ↔ t = [] := by
  have hline : t ≠ ['\n'] := by
    rintro rfl
    exact hn List.mem_cons_self
  simp [isEnd, hline]

theorem not_mem_rest (hn : '\n' ∉ t) (h : (w, rest) ∈ p.choices t) : '\n' ∉ rest := by
  intro hm
  rw [← ((Part.mem_choices hn).mp h).2] at hn
  exact hn (List.mem_append_right _ hm)

/-- A template describes a text if and only if the text has a cut. -/
theorem isSome_matchFrom?_iff (ps : Template) (pos : Nat) {t : Text} (hn : '\n' ∉ t) :
    (matchFrom? ps pos t).isSome = true ↔ ∃ ws, Cut ps t ws := by
  -- Induction on the parts: one takes a segment that it may take, the others cut what is left.
  induction ps generalizing pos t with
  | nil =>
    rw [matchFrom?]
    simp only [cut_nil_iff, exists_eq_left]
    rw [← isEnd_iff hn]
    cases isEnd t <;> simp
  | cons p ps ih =>
    rw [matchFrom?, List.findSome?_isSome_iff]
    constructor
    · rintro ⟨⟨w, rest⟩, hm, hsome⟩
      rw [Option.isSome_map, ih _ (not_mem_rest hn hm)] at hsome
      obtain ⟨ws, hws⟩ := hsome
      exact ⟨w :: ws, cut_cons_iff.mpr ⟨rest, (Part.mem_choices hn).mp hm, hws⟩⟩
    · rintro ⟨vs, hvs⟩
      obtain ⟨w, ws, rfl⟩ := hvs.exists_cons
      obtain ⟨rest, hw, hws⟩ := cut_cons_iff.mp hvs
      have hm := (Part.mem_choices hn).mpr hw
      refine ⟨(w, rest), hm, ?_⟩
      rw [Option.isSome_map, ih _ (not_mem_rest hn hm)]
      exact ⟨ws, hws⟩

/-- A match is the first cut. -/
theorem exists_firstCut (hn : '\n' ∉ t) (h : matchFrom? ps pos t = some cs) :
    ∃ ws, FirstCut ps t ws ∧ cs = captures ps pos ws := by
  induction ps generalizing pos t cs with
  | nil =>
    rw [matchFrom?] at h
    split at h
    · rename_i hend
      cases h
      have ht := (isEnd_iff hn).mp hend
      refine ⟨[], ⟨cut_nil_iff.mpr ⟨rfl, ht⟩, ?_⟩, rfl⟩
      exact fun vs hvs => Or.inl (cut_nil_iff.mp hvs).1
    · cases h
  | cons p ps ih =>
    rw [matchFrom?, List.findSome?_eq_some_iff] at h
    obtain ⟨before, ⟨w, rest⟩, after, hsplit, hfound, hnone⟩ := h
    obtain ⟨cs', hcs', rfl⟩ := Option.map_eq_some_iff.mp hfound
    have hm : (w, rest) ∈ p.choices t := hsplit ▸ List.mem_append_right _ List.mem_cons_self
    have hw := (Part.mem_choices hn).mp hm
    obtain ⟨ws, hws, rfl⟩ := ih (not_mem_rest hn hm) hcs'
    refine ⟨w :: ws, ⟨cut_cons_iff.mpr ⟨rest, hw, hws.toCut⟩, ?_⟩, by cases p <;> rfl⟩
    intro vs hvs
    obtain ⟨v, vs, rfl⟩ := hvs.exists_cons
    obtain ⟨rest', hv, hvs⟩ := cut_cons_iff.mp hvs
    have hv' := (Part.mem_choices hn).mpr hv
    have horder := Part.pairwise_choices p t
    rw [hsplit] at hv' horder
    obtain ⟨-, horder, -⟩ := List.pairwise_append.mp horder
    rcases List.mem_append.mp hv' with hb | hb
    · -- Behind a segment that comes before, nothing matches, so the rest has no cut.
      have hrest := hnone _ hb
      have hm' : (v, rest') ∈ p.choices t := (Part.mem_choices hn).mpr hv
      have hsome := (isSome_matchFrom?_iff ps (pos + v.length) (not_mem_rest hn hm')).mpr ⟨vs, hvs⟩
      rw [Option.map_eq_none_iff.mp hrest] at hsome
      cases hsome
    · -- It is the segment that was found, or one that the part prefers less.
      rcases List.mem_cons.mp hb with he | hb
      · cases he
        exact (hws.first vs hvs).imp (congrArg (w :: ·)) .behind
      · exact Or.inr (.here ((List.pairwise_cons.mp horder).1 _ hb))

theorem matchFrom?_eq_some_iff (hn : '\n' ∉ t) : matchFrom? ps pos t = some cs ↔
    ∃ ws, FirstCut ps t ws ∧ cs = captures ps pos ws := by
  constructor
  · exact exists_firstCut hn
  · rintro ⟨ws, hws, rfl⟩
    have hsome := (isSome_matchFrom?_iff ps pos hn).mpr ⟨ws, hws.toCut⟩
    obtain ⟨cs, hcs⟩ := Option.isSome_iff_exists.mp hsome
    obtain ⟨vs, hvs, rfl⟩ := exists_firstCut hn hcs
    rw [hcs, hws.eq hvs]

end Cuts

/-- Of all headers without line feeds a template describes those that can be cut into segments of
its parts, as its text spells them. It captures the segments that its placeholders have in the first
of these cuts. -/
theorem match_iff_cut (t header : Text) (hn : '\n' ∉ header) :
    (∀ ps, Spells t ps ↔ ps = ofText t) ∧
    (((ofText t).match? header).isSome = true ↔ ∃ ws, Cut (ofText t) header ws) ∧
    ∀ cs, (ofText t).match? header = some cs ↔
      ∃ ws, FirstCut (ofText t) header ws ∧ cs = captures (ofText t) 0 ws :=
  ⟨fun _ => spells_iff, isSome_matchFrom?_iff (ofText t) 0 hn, fun _ => matchFrom?_eq_some_iff hn⟩

/-- Two values that could share a text in several ways: the first takes as little as it can. -/
theorem match_iff_cut_values :
    let t := "%s is  %-9S".toList
    let header := "a is b is c".toList
    '\n' ∉ header ∧ (∀ ps, Spells t ps ↔ ps = ofText t) ∧ (∃ ws, Cut (ofText t) header ws) ∧
      ∃ ws, FirstCut (ofText t) header ws ∧ captures (ofText t) 0 ws =
        [⟨.newValue, "a".toList, 0⟩, ⟨.oldValue, "b is c".toList, 5⟩] := by
  intro t header
  have hn : '\n' ∉ header := by decide
  obtain ⟨hspells, hsome, hmatch⟩ := match_iff_cut t header hn
  have hcaptures : (ofText t).match? header =
      some [⟨.newValue, "a".toList, 0⟩, ⟨.oldValue, "b is c".toList, 5⟩] := by decide
  obtain ⟨ws, hws, hcs⟩ := (hmatch _).mp hcaptures
  exact ⟨hn, hspells, hsome.mp (by rw [hcaptures]; rfl), ws, hws, hcs.symm⟩

end Template

end OutlineTables
