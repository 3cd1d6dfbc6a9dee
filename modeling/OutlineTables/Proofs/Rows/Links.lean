import OutlineTables.Proofs.Outline.HeadingLines
import OutlineTables.Proofs.Rows.Lists
import OutlineTables.Proofs.Text.Languages
import OutlineTables.Proofs.Text.Words

/-!
Links and their rows. Whatever is found as a link in a line can be split, and the target is put
together again from its parts. Main statement: where no type is left out, each link of an outline
has one row, in the order of the text.
-/
namespace OutlineTables

namespace LinkText

open Text

/-- No bracket inside, and a target that is not empty. -/
structure Plain (l : LinkText) : Prop where
  nonempty : l.target ≠ []
  target : ∀ c ∈ l.target, isPlain c = true
  description : ∀ d, l.description = some d → ∀ c ∈ d, isPlain c = true

variable {t rest : Text} {l : LinkText}

theorem plain_of_read? (h : read? t = some (l, rest)) : l.Plain := by
  obtain ⟨t₁, -, h⟩ := Option.bind_eq_some_iff.mp h
  dsimp only at h
  split at h
  · cases h
  · rename_i hempty
    have hne : t₁.takeWhile isPlain ≠ [] := by simpa using hempty
    have htarget : ∀ c ∈ t₁.takeWhile isPlain, isPlain c = true := fun _ => List.mem_takeWhile_imp
    obtain ⟨t₂, -, h⟩ := Option.bind_eq_some_iff.mp h
    split at h
    · cases h
      refine ⟨hne, htarget, ?_⟩
      rintro d ⟨⟩
    · obtain ⟨t₄, -, h⟩ := Option.bind_eq_some_iff.mp h
      cases h
      refine ⟨hne, htarget, ?_⟩
      rintro d ⟨⟩ c hc
      exact List.mem_takeWhile_imp hc
    · cases h

theorem read?_render (h : l.Plain) (rest : Text) : read? (l.render ++ rest) = some (l, rest) := by
  obtain ⟨target, description⟩ := l
  have hclose : isPlain ']' = false := rfl
  have hne : ¬target.isEmpty = true := by simpa using h.nonempty
  cases description with
  | none =>
    have hrender : render ⟨target, none⟩ ++ rest =
        '[' :: '[' :: (target ++ ']' :: ']' :: rest) := by
      simp [render]
    obtain ⟨htake, hdrop⟩ := takeWhile_stop h.target hclose (']' :: rest)
    rw [hrender, read?]
    simp only [after?, if_pos, Option.bind_eq_bind, Option.bind_some]
    rw [htake, if_neg hne, hdrop]
    rfl
  | some d =>
    have hrender : render ⟨target, some d⟩ ++ rest =
        '[' :: '[' :: (target ++ ']' :: '[' :: (d ++ ']' :: ']' :: rest)) := by
      simp [render]
    obtain ⟨htake, hdrop⟩ := takeWhile_stop h.target hclose ('[' :: (d ++ ']' :: ']' :: rest))
    obtain ⟨htake', hdrop'⟩ := takeWhile_stop (h.description d rfl) hclose (']' :: rest)
    rw [hrender, read?]
    simp only [after?, if_pos, Option.bind_eq_bind, Option.bind_some]
    rw [htake, if_neg hne, hdrop]
    simp [after?, htake', hdrop']

theorem strip_render (l : LinkText) : strip l.render = l.render := by
  have hopen : isBlank '[' = false := by decide
  have hclose : isBlank ']' = false := by decide
  obtain ⟨inside, hinside⟩ : ∃ inside, l.render = '[' :: (inside ++ [']']) := by
    obtain ⟨target, description⟩ := l
    cases description with
    | none => exact ⟨'[' :: (target ++ [']']), by simp [render]⟩
    | some d => exact ⟨'[' :: (target ++ ']' :: '[' :: (d ++ [']'])), by simp [render]⟩
  rw [hinside]
  exact strip_framed hopen hclose inside

end LinkText

namespace Link

open Text

/-- A letter, and then letters, digits and signs. -/
def IsScheme (s : Text) : Prop :=
  ∃ c cs, s = c :: cs ∧ c.isAlpha = true ∧ ∀ d ∈ cs, isSchemeChar d = true

/-- The forms of targets. -/
inductive Form where
  | scheme (s : Text)
  | customId
  | coderef
  | file
  | fuzzy

namespace Form

def type : Form → Text
  | scheme s => s
  | customId => "custom-id".toList
  | coderef => "coderef".toList
  | file => "file".toList
  | fuzzy => "fuzzy".toList

/-- The target of this form that has the path. -/
def target : Form → Text → Text
  | scheme s, path => s ++ ':' :: path
  | customId, path => '#' :: path
  | coderef, path => '(' :: path ++ [')']
  | file, path => path
  | fuzzy, path => path

/-- Which form a target has: that of a scheme if there is one in front of a colon, and otherwise
one of those that its first characters, or its first and its last, tell apart. -/
structure Fits (f : Form) (t : Text) : Prop where
  isScheme : ∀ s, f = scheme s → IsScheme s
  scheme : (∃ s, f = scheme s) ↔ ∃ s path, IsScheme s ∧ t = s ++ ':' :: path
  customId : f = customId ↔ ['#'] <+: t
  coderef : f = coderef ↔ ∃ inside, t = '(' :: inside ++ [')']
  file : f = file ↔ ∃ p ∈ pathStarts, p <+: t

end Form

theorem scheme?_eq_some_iff {t s path : Text} :
    scheme? t = some (s, path) ↔ IsScheme s ∧ t = s ++ ':' :: path := by
  constructor
  · intro h
    unfold scheme? at h
    split at h
    · cases h
    · rename_i c cs
      split at h
      · rename_i hc
        split at h
        · rename_i rest hrest
          cases h
          refine ⟨⟨c, _, rfl, hc, fun d hd => List.mem_takeWhile_imp hd⟩, ?_⟩
          rw [List.cons_append, ← hrest, List.takeWhile_append_dropWhile]
        · cases h
      · cases h
  · rintro ⟨⟨c, cs, rfl, hc, hcs⟩, rfl⟩
    obtain ⟨htake, hdrop⟩ := takeWhile_stop hcs (c := ':') rfl path
    rw [List.cons_append, scheme?, if_pos hc, htake, hdrop]
    rfl

/-- A path begins with one of three characters. -/
theorem head_of_pathStart {p t : Text} {c : Char} (hp : p ∈ pathStarts) (h : p <+: c :: t) :
    c = '/' ∨ c = '.' ∨ c = '~' := by
  simp only [pathStarts, List.mem_cons, List.not_mem_nil, or_false] at hp
  rcases hp with rfl | rfl | rfl | rfl
  · exact Or.inl (List.cons_prefix_cons.mp h).1.symm
  · exact Or.inr (Or.inl (List.cons_prefix_cons.mp h).1.symm)
  · exact Or.inr (Or.inl (List.cons_prefix_cons.mp h).1.symm)
  · exact Or.inr (Or.inr (List.cons_prefix_cons.mp h).1.symm)

theorem fits_scheme {s : Text} (hs : IsScheme s) (path : Text) :
    (Form.scheme s).Fits (s ++ ':' :: path) := by
  have hscheme := hs
  obtain ⟨c, cs, rfl, hc, -⟩ := hs
  refine ⟨?_, ⟨fun _ => ⟨_, path, hscheme, rfl⟩, fun _ => ⟨_, rfl⟩⟩, ?_, ?_, ?_⟩
  · rintro _ ⟨⟩
    exact hscheme
  -- A letter begins no target of another form.
  · refine ⟨fun h => Form.noConfusion h, fun h => ?_⟩
    obtain rfl := (List.cons_prefix_cons.mp h).1
    cases hc
  · refine ⟨fun h => Form.noConfusion h, fun ⟨inside, h⟩ => ?_⟩
    obtain rfl := (List.cons.inj h).1
    cases hc
  · refine ⟨fun h => Form.noConfusion h, fun ⟨p, hp, h⟩ => ?_⟩
    rcases head_of_pathStart hp h with rfl | rfl | rfl <;> cases hc

/-- Type and path of a target make it up again. -/
theorem exists_form (t : Text) : ∃ f : Form, f.Fits t ∧ (ofTarget t).1 = f.type ∧
    t = f.target (ofTarget t).2 := by
  cases hs : scheme? t with
  | some p =>
    obtain ⟨s, path⟩ := p
    obtain ⟨hscheme, rfl⟩ := scheme?_eq_some_iff.mp hs
    refine ⟨.scheme s, fits_scheme hscheme path, ?_⟩
    unfold ofTarget
    rw [hs]
    exact ⟨rfl, rfl⟩
  | none =>
    have hnone : ¬∃ s path, IsScheme s ∧ t = s ++ ':' :: path := by
      rintro ⟨s, path, hscheme⟩
      rw [scheme?_eq_some_iff.mpr hscheme] at hs
      cases hs
    unfold ofTarget
    rw [hs]
    dsimp only
    split
    · rename_i path _
      refine ⟨.customId, ⟨by simp, by simpa using hnone, by simp, by simp, ?_⟩, rfl, rfl⟩
      refine ⟨fun h => Form.noConfusion h, fun ⟨p, hp, h⟩ => ?_⟩
      rcases head_of_pathStart hp h with h | h | h <;> cases h
    · rename_i inside hlast
      have htarget : '(' :: inside = '(' :: inside.dropLast ++ [')'] := by
        cases inside with
        | nil => cases hlast
        | cons c cs =>
          rw [List.getLast?_cons_cons] at hlast
          exact congrArg ('(' :: ·) (List.dropLast_append_getLast? ')' hlast).symm
      refine ⟨.coderef, ⟨by simp, by simpa using hnone, by simp, ?_, ?_⟩, rfl, htarget⟩
      · exact ⟨fun _ => ⟨_, htarget⟩, fun _ => rfl⟩
      · refine ⟨fun h => Form.noConfusion h, fun ⟨p, hp, h⟩ => ?_⟩
        rcases head_of_pathStart hp h with h | h | h <;> cases h
    · rename_i t _ _ hcustom hcode
      have hcustomId : ¬['#'] <+: t := by
        rintro ⟨path, rfl⟩
        exact hcustom path rfl
      have hcoderef : ¬∃ inside, t = '(' :: inside ++ [')'] := by
        rintro ⟨inside, rfl⟩
        exact hcode _ rfl List.getLast?_concat
      have hstart : (pathStarts.any fun p => (after? p t).isSome) = true ↔
          ∃ p ∈ pathStarts, p <+: t := by
        simp only [List.any_eq_true, isSome_after?_iff]
      split
      · rename_i hfile
        exact ⟨.file, ⟨by simp, by simpa using hnone, by simpa using hcustomId,
          by simpa using hcoderef, by simpa using hstart.mp hfile⟩, rfl, rfl⟩
      · rename_i hfile
        exact ⟨.fuzzy, ⟨by simp, by simpa using hnone, by simpa using hcustomId,
          by simpa using hcoderef, by simpa using mt hstart.mpr hfile⟩, rfl, rfl⟩

theorem ofText?_render {l : LinkText} (h : l.Plain) : ofText? l.render =
    some ⟨(ofTarget (strip l.target)).1, (ofTarget (strip l.target)).2, l.description.getD []⟩ := by
  have hread := LinkText.read?_render h []
  rw [List.append_nil] at hread
  unfold ofText?
  rw [l.strip_render, hread]

end Link

/-- Links that are found in a line. -/
theorem Line.exists_render_link {l : Line} {e : Excerpt} (h : e ∈ l.links) :
    ∃ link : LinkText, link.Plain ∧ e.text = link.render := by
  obtain ⟨⟨pos, w⟩, hx, rfl⟩ := List.mem_map.mp h
  obtain ⟨lead, behind, -, -, -, -, hw⟩ := Text.read_of_mem_scan hx
  obtain ⟨⟨link, rest⟩, hlink, rfl⟩ := Option.map_eq_some_iff.mp hw
  exact ⟨link, LinkText.plain_of_read? hlink, rfl⟩

theorem Outline.exists_render_link {o : Options} {t : Text} {h : Heading}
    (hh : h ∈ (Outline.read o t).headings) {e : Excerpt} (he : e ∈ h.links) :
    ∃ link : LinkText, link.Plain ∧ e.text = link.render := by
  obtain ⟨s, -, below, rfl⟩ := exists_right_of_mem (Outline.headings_sections o t) hh
  obtain ⟨l, -, he⟩ := List.mem_flatMap.mp he
  exact l.exists_render_link he

/-- The links of an outline with the headings that they are in, in the order of the text. -/
def Outline.placedLinks (x : Outline) : List (Heading × Excerpt) :=
  x.headings.flatMap fun h => h.links.map (Prod.mk h)

/-- The row of a link in the body of a heading. The link is split, with what stands in the second
pair of brackets as its description; type and path make up its target, without the white space at
the ends. -/
structure LinkRow.IsOf (file : Text) (p : Heading × Excerpt) (row : LinkRow) : Prop where
  file : row.file = file
  heading : row.heading = p.1.offset
  offset : row.offset = p.2.offset
  split : Link.ofText? p.2.text = some row.link
  written : ∃ l : LinkText, l.Plain ∧ p.2.text = l.render ∧
    row.link.description = l.description.getD [] ∧ ∃ f : Link.Form, f.Fits (Text.strip l.target) ∧
      row.link.type = f.type ∧ Text.strip l.target = f.target row.link.path

namespace Rows

theorem forall₂_flatMap {α β : Type} {R : α → β → Prop} {f : α → List β} {as : List α}
    (h : ∀ a ∈ as, ∃ b, f a = [b] ∧ R a b) : List.Forall₂ R as (as.flatMap f) := by
  induction as with
  | nil => exact List.Forall₂.nil
  | cons a as ih =>
    obtain ⟨b, hb, hab⟩ := h a List.mem_cons_self
    rw [List.flatMap_cons, hb]
    exact List.Forall₂.cons hab (ih fun c hc => h c (List.mem_cons_of_mem a hc))

variable {o : Options} {x : Outline} {t file md5 : Text} {size : Option Int} {r : Rows}

theorem links_ofOutline (hr : ofOutline o x file md5 size = .ok r) :
    r.links = x.placedLinks.flatMap fun p =>
      ofLink (Scope.ofOptions o file (firsts x.tags)) p.1 p.2 := by
  have hf : Lists fun r : Rows => r.links := ⟨rfl, fun _ _ => rfl⟩
  have hp : SkipsProperties fun r : Rows => r.links := fun _ _ _ => rfl
  have hown (h : Heading) (above : List Heading) (a : Rows)
      (ha : ofHeading (Scope.ofOptions o file (firsts x.tags)) h above = .ok a) :
      a.links = h.links.flatMap (ofLink (Scope.ofOptions o file (firsts x.tags)) h) := by
    obtain ⟨row, -, hlinks⟩ := hf.of_own hp (fun _ _ => rfl) (fun _ _ _ _ _ => rfl) ha
    exact hlinks
  have hlinks := hf.of_outline (g := fun p =>
    p.1.links.flatMap (ofLink (Scope.ofOptions o file (firsts x.tags)) p.1))
    (fun _ _ => rfl) hp hown hr
  -- What is made of a heading does not depend on its ancestors.
  have hheadings : x.headings.flatMap (fun h =>
        h.links.flatMap (ofLink (Scope.ofOptions o file (firsts x.tags)) h)) =
      (Heading.withAncestors [] x.headings).flatMap fun p =>
        p.1.links.flatMap (ofLink (Scope.ofOptions o file (firsts x.tags)) p.1) := by
    conv_lhs => rw [← Heading.map_fst_withAncestors [] x.headings]
    exact List.flatMap_map ..
  rw [hlinks, ← hheadings, Outline.placedLinks, List.flatMap_assoc]
  simp only [List.flatMap_map]

theorem exists_ofLink {s : Scope} (hs : s.options.excludedLinks = .nothing) {h : Heading}
    {e : Excerpt} (he : ∃ link : LinkText, link.Plain ∧ e.text = link.render) :
    ∃ row, ofLink s h e = [row] ∧ LinkRow.IsOf s.file (h, e) row := by
  obtain ⟨link, hlink, htext⟩ := he
  obtain ⟨f, hfits, htype, htarget⟩ := Link.exists_form (Text.strip link.target)
  have hsplit := Link.ofText?_render hlink
  rw [← htext] at hsplit
  unfold ofLink
  rw [hsplit, hs]
  dsimp only
  rw [Exclusion.covers_nothing, if_neg Bool.false_ne_true]
  exact ⟨_, rfl, rfl, rfl, rfl, hsplit, link, hlink, htext, rfl, f, hfits, htype, htarget⟩

/-- Where no type of links is left out, the links of an outline have one row each, in the order of
the text. -/
theorem links_ofText (ho : o.excludedLinks = .nothing)
    (hr : ofOutline o (Outline.read o t) file md5 size = .ok r) :
    List.Forall₂ (LinkRow.IsOf file) (Outline.read o t).placedLinks r.links := by
  rw [links_ofOutline hr]
  refine forall₂_flatMap fun p hp => ?_
  obtain ⟨h, hh, hp⟩ := List.mem_flatMap.mp hp
  obtain ⟨e, he, rfl⟩ := List.mem_map.mp hp
  exact exists_ofLink (s := Scope.ofOptions o file _) ho (Outline.exists_render_link hh he)

/-- One link of each form, and one whose target is white space. -/
theorem links_ofText_forms :
    let t : Text := ("* a\n[[https://orgmode.org][org]], [[ #intro ]]\n** b\n" ++
      "[[(ref)][]][[./b.org]] and [[a heading]] [[ ]]").toList
    ∃ r, ofOutline .default (Outline.read .default t) "a.org".toList [] none = .ok r ∧
      r.links.map (·.link) = [
        ⟨"https".toList, "//orgmode.org".toList, "org".toList⟩,
        ⟨"custom-id".toList, "intro".toList, []⟩,
        ⟨"coderef".toList, "ref".toList, []⟩,
        ⟨"file".toList, "./b.org".toList, []⟩,
        ⟨"fuzzy".toList, "a heading".toList, []⟩,
        ⟨"fuzzy".toList, [], []⟩] ∧
      List.Forall₂ (LinkRow.IsOf "a.org".toList) (Outline.read .default t).placedLinks r.links := by
  intro t
  have h : ((ofOutline .default (Outline.read .default t) "a.org".toList [] none).map
      fun r => r.links.map (·.link)).toOption = some [
        ⟨"https".toList, "//orgmode.org".toList, "org".toList⟩,
        ⟨"custom-id".toList, "intro".toList, []⟩,
        ⟨"coderef".toList, "ref".toList, []⟩,
        ⟨"file".toList, "./b.org".toList, []⟩,
        ⟨"fuzzy".toList, "a heading".toList, []⟩,
        ⟨"fuzzy".toList, [], []⟩] := by
    decide +kernel
  obtain ⟨r, hr, hlinks⟩ := exists_of_map h
  exact ⟨r, hr, hlinks, links_ofText rfl hr⟩

end Rows

end OutlineTables
