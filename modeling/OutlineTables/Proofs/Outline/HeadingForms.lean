import OutlineTables.Proofs.Outline.Drafts
import OutlineTables.Proofs.Text.Words

/-!
Heading lines as they are written: stars, and then those of keyword, priority, comment mark, title
and tags that are there, each behind some spaces. Main statement: where no part is taken for
another one, what is written is read back.
-/
namespace OutlineTables

namespace Text

variable {p : Char → Bool} {t u : Text}

/-- Nothing is trimmed at the end of a text that ends with another character. -/
theorem trimEnd_eq_self_iff : trimEnd p t = t ↔ ∀ c ∈ t.getLast?, p c = false := by
  rw [trimEnd_eq_rdropWhile, List.rdropWhile_eq_self_iff]
  cases t with
  | nil => simp
  | cons c t => simp [List.getLast?_eq_some_getLast (List.cons_ne_nil c t)]

theorem strip_of_head (h : ∀ c ∈ t.head?, isBlank c = false) : strip t = stripEnd t := by
  cases t with
  | nil => rfl
  | cons c t => exact strip_cons (h c rfl) t

/-- A text has no white space at its ends where its first and its last character are of another
kind. -/
theorem strip_eq_self_iff : strip t = t ↔
    (∀ c ∈ t.head?, isBlank c = false) ∧ ∀ c ∈ t.getLast?, isBlank c = false := by
  constructor
  · intro h
    have hhead := isBlank_head_of_strip h
    exact ⟨hhead, trimEnd_eq_self_iff.mp ((strip_of_head hhead).symm.trans h)⟩
  · rintro ⟨hhead, hlast⟩
    exact (strip_of_head hhead).trans (trimEnd_eq_self_iff.mpr hlast)

theorem isGap_of_mem_spaces {n : Nat} {c : Char} (h : c ∈ List.replicate n ' ') :
    isGap c = true := by
  rw [List.eq_of_mem_replicate h]
  rfl

theorem strip_append_spaces (h : strip t = t) (n : Nat) :
    strip (t ++ List.replicate n ' ') = t := by
  have hend : stripEnd (t ++ List.replicate n ' ') = stripEnd t := by
    induction n with
    | zero => rw [List.replicate_zero, List.append_nil]
    | succ n ih =>
      rw [List.replicate_succ', ← List.append_assoc, stripEnd, trimEnd_eq_rdropWhile,
        List.rdropWhile_concat_pos _ _ _ (by decide)]
      exact ih
  cases t with
  | nil =>
    have hspaces := strip_append_of_gap (fun _ => isGap_of_mem_spaces (n := n)) []
    rwa [List.append_nil] at hspaces
  | cons c t =>
    have hc := isBlank_head_of_strip h c rfl
    rw [List.cons_append, strip_cons hc, ← List.cons_append, hend, ← strip_cons hc, h]

/-- What begins with the separator does not add to what stands before the first one. -/
theorem cutAt_append_fst {sep : Char} (hu : ∀ c ∈ u.head?, c = sep) (t : Text) :
    (cutAt sep (t ++ u)).1 = (cutAt sep t).1 := by
  induction t with
  | nil =>
    cases u with
    | nil => rfl
    | cons c u =>
      obtain rfl := hu c rfl
      simp [cutAt]
  | cons c t ih =>
    rw [List.cons_append, cutAt, cutAt]
    split
    · rfl
    · exact congrArg (c :: ·) ih

end Text

open Text

theorem Section.ofLines_nil (free : Bool) : Section.ofLines free [] = ⟨[], [], []⟩ := by
  simp [Section.ofLines, Section.cutPlanning, Section.cutProperties, Block.read]

namespace Starred

/-- Tags with a colon before and behind each of them. -/
def tagGroup (tags : List Text) : Text := ':' :: tags.flatMap (· ++ [':'])

def priorityMark (c : Char) : Text := ['[', '#', c, ']']

def IsTag (t : Text) : Prop := t ≠ [] ∧ ∀ c ∈ t, isTagChar c = true

theorem isTagChar_stops : isTagChar ':' = false ∧ isTagChar '\n' = false ∧
    ∀ c, isGap c = true → isTagChar c = false := by
  refine ⟨by decide +kernel, by decide +kernel, fun c hc => ?_⟩
  simp only [isGap, Bool.or_eq_true, decide_eq_true_eq] at hc
  rcases hc with rfl | rfl <;> decide +kernel

/-- A word that may stand for the state of a heading. -/
def IsKeyword (k : Text) : Prop := k ≠ [] ∧ ∀ c ∈ k, isBlank c = false

variable {tags : List Text} {w : Text}

theorem closedTags?_eq_some_iff {ps : List Text} : closedTags? ps = some tags ↔
    ps = tags ++ [[]] ∧ ∀ t ∈ tags, IsTag t := by
  induction ps generalizing tags with
  | nil => simp [closedTags?]
  | cons p ps ih =>
    cases ps with
    | nil =>
      cases tags with
      | nil => cases p <;> simp [closedTags?]
      | cons t tags => cases p <;> simp [closedTags?]
    | cons q ps =>
      rw [closedTags?.eq_3 _ _ (by simp)]
      cases tags with
      | nil => simp
      | cons t tags =>
        have hword : (!p.isEmpty && p.all isTagChar) = true ↔ IsTag p := by
          cases p <;> simp [IsTag]
        rw [Option.ite_none_right_eq_some, hword, Option.map_eq_some_iff]
        simp only [List.cons.injEq, exists_eq_right_right, ih, List.cons_append,
          List.forall_mem_cons]
        constructor
        · rintro ⟨hp, ⟨hps, htags⟩, rfl⟩
          exact ⟨⟨rfl, hps⟩, hp, htags⟩
        · rintro ⟨⟨rfl, hps⟩, hp, htags⟩
          exact ⟨hp, ⟨hps, htags⟩, rfl⟩

theorem join_closed (tags : List Text) :
    join [':'] (tags ++ [[]]) = tags.flatMap (· ++ [':']) := by
  induction tags with
  | nil => rfl
  | cons t tags ih =>
    rw [List.cons_append, join_cons (by simp), ih, List.flatMap_cons]

theorem tagGroup?_eq_some_iff : tagGroup? w = some tags ↔
    tags ≠ [] ∧ (∀ t ∈ tags, IsTag t) ∧ w = tagGroup tags := by
  constructor
  · intro h
    unfold tagGroup? at h
    split at h
    · rename_i t
      split at h
      · cases h
      · rename_i hne
        obtain ⟨hpieces, htags⟩ := closedTags?_eq_some_iff.mp h
        refine ⟨?_, htags, ?_⟩
        · rintro rfl
          exact hne h
        · rw [tagGroup, ← join_closed, ← hpieces, join_pieces]
    · cases h
  · rintro ⟨hne, htags, rfl⟩
    have hpieces : pieces ':' (tags.flatMap (· ++ [':'])) = tags ++ [[]] := by
      rw [← join_closed, pieces_join (by simp)]
      intro t ht hcolon
      rcases List.mem_append.mp ht with ht | ht
      · have hchar := (htags t ht).2 ':' hcolon
        rw [isTagChar_stops.1] at hchar
        cases hchar
      · simp [List.mem_singleton.mp ht] at hcolon
    have hclosed := closedTags?_eq_some_iff.mpr ⟨hpieces, htags⟩
    rw [tagGroup, tagGroup?, hclosed]
    cases tags with
    | nil => exact absurd rfl hne
    | cons t tags => rfl

theorem mem_tagGroup (h : ∀ t ∈ tags, IsTag t) {c : Char} (hc : c ∈ tagGroup tags) :
    c = ':' ∨ isTagChar c = true := by
  simp only [tagGroup, List.mem_cons, List.mem_flatMap, List.mem_append, List.not_mem_nil,
    or_false] at hc
  rcases hc with rfl | ⟨t, ht, hc | rfl⟩
  · exact Or.inl rfl
  · exact Or.inr ((h t ht).2 c hc)
  · exact Or.inl rfl

theorem isGap_of_mem_tagGroup (h : ∀ t ∈ tags, IsTag t) {c : Char} (hc : c ∈ tagGroup tags) :
    isGap c = false := by
  apply eq_false_of_ne_true
  intro hgap
  rcases mem_tagGroup h hc with rfl | hchar
  · cases hgap
  · rw [isTagChar_stops.2.2 c hgap] at hchar
    cases hchar

theorem cutPriority_of_not_prefix {t : Text}
    (h : ∀ c, isPriorityChar c = true → ¬priorityMark c <+: t) : cutPriority t = (none, t) := by
  unfold cutPriority
  split
  · rename_i c t
    rw [if_neg]
    intro hc
    exact h c hc ⟨t, rfl⟩
  · rfl

theorem cutComment_of_not_prefix {t : Text} (hword : t ≠ commentWord)
    (hspace : ¬(commentWord ++ [' ']) <+: t) : cutComment t = (false, t) := by
  unfold cutComment
  split
  · rename_i hafter
    have hcomment := after?_eq_some_iff.mp hafter
    rw [List.append_nil] at hcomment
    exact absurd hcomment.symm hword
  · rename_i rest hafter
    have hcomment := after?_eq_some_iff.mp hafter
    exact absurd ⟨rest, (List.append_assoc _ [' '] rest).trans hcomment⟩ hspace
  · rfl

theorem exists_tagGroup (hne : tags ≠ []) : ∃ u, tagGroup tags = ':' :: (u ++ [':']) := by
  obtain rfl | ⟨front, t, rfl⟩ := List.eq_nil_or_concat' tags
  · exact absurd rfl hne
  · exact ⟨front.flatMap (· ++ [':']) ++ t, by simp [tagGroup]⟩

/-- The last word stands behind a gap, or is everything. -/
theorem lastWord_spec (t : Text) : (lastWord t).1 ++ (lastWord t).2 = t ∧
    ∀ c ∈ (lastWord t).1.getLast?, isGap c = true := by
  induction t with
  | nil => simp [lastWord]
  | cons c t ih =>
    obtain ⟨hjoin, hgap⟩ := ih
    unfold lastWord
    split
    · rename_i w hw
      rw [hw] at hjoin
      split
      · rename_i hc
        exact ⟨congrArg (c :: ·) hjoin, by simpa using hc⟩
      · exact ⟨congrArg (c :: ·) hjoin, by simp⟩
    · rename_i front w hne hw
      rw [hw] at hjoin hgap
      refine ⟨congrArg (c :: ·) hjoin, ?_⟩
      cases front with
      | nil => exact absurd rfl hne
      | cons d front => rwa [List.getLast?_cons_cons]

theorem lastWord_append (hw : ∀ c ∈ w, isGap c = false) {front : Text}
    (hfront : ∀ c ∈ front.getLast?, isGap c = true) : lastWord (front ++ w) = (front, w) := by
  have hword : lastWord w = ([], w) := by
    clear hfront
    induction w with
    | nil => rfl
    | cons c w ih =>
      obtain ⟨hc, hw⟩ := List.forall_mem_cons.mp hw
      rw [lastWord, ih hw]
      exact if_neg (ne_true_of_eq_false hc)
  induction front with
  | nil => exact hword
  | cons c front ih =>
    cases front with
    | nil =>
      rw [List.singleton_append, lastWord, hword]
      exact if_pos (hfront c rfl)
    | cons d front =>
      rw [List.getLast?_cons_cons] at hfront
      rw [List.cons_append, lastWord, ih hfront]

end Starred

/-- The parts behind the stars of a heading line, in their order. -/
inductive HeadingPart where
  | keyword
  | priority
  | comment
  | title
  | tags
deriving DecidableEq, Repr

def HeadingPart.all : List HeadingPart := [.keyword, .priority, .comment, .title, .tags]

/-- What a heading line says, and the number of spaces in front of each part that is there. -/
structure HeadingForm (keywords : List Text) where
  level : Nat
  keyword : Option Text
  priority : Option Char
  commented : Bool
  title : Text
  tags : List Text
  spaces : HeadingPart → Nat
  level_pos : 0 < level
  keyword_mem : ∀ k ∈ keyword, k ∈ keywords
  priority_char : ∀ c ∈ priority, Starred.isPriorityChar c = true
  title_line : '\n' ∉ title
  title_strip : strip title = title
  tags_word : ∀ t ∈ tags, Starred.IsTag t
  spaces_pos : ∀ part, 0 < spaces part

namespace HeadingForm

variable {keywords : List Text} (f : HeadingForm keywords)

/-- What is written of a part, without its spaces; nothing if the part is not there. -/
def word : HeadingPart → Text
  | .keyword => f.keyword.getD []
  | .priority => (f.priority.map Starred.priorityMark).getD []
  | .comment => if f.commented then Starred.commentWord else []
  | .title => f.title
  | .tags => if f.tags.isEmpty then [] else Starred.tagGroup f.tags

theorem word_keyword : f.word .keyword = f.keyword.getD [] := rfl

theorem word_priority :
    f.word .priority = (f.priority.map Starred.priorityMark).getD [] := rfl

theorem word_comment :
    f.word .comment = if f.commented then Starred.commentWord else [] := rfl

theorem word_tags :
    f.word .tags = if f.tags.isEmpty then [] else Starred.tagGroup f.tags := rfl

/-- Parts with their spaces. -/
def written : List HeadingPart → Text
  | [] => []
  | part :: parts =>
    if (f.word part).isEmpty then written parts
    else List.replicate (f.spaces part) ' ' ++ (f.word part ++ written parts)

def line : Text :=
  List.replicate f.level '*' ++ f.written HeadingPart.all

/-- Parts without the spaces in front. -/
def behind (parts : List HeadingPart) : Text := (f.written parts).dropWhile (· = ' ')

/-- No other part stands where one is missing and could be taken for it. -/
structure Unambiguous : Prop where
  keyword : f.keyword = none →
    (cutAt ' ' (f.behind HeadingPart.all)).1 ∉ keywords
  priority : f.priority = none → ∀ c, Starred.isPriorityChar c = true →
    ¬Starred.priorityMark c <+: f.behind [.priority, .comment, .title, .tags]
  comment : f.commented = false →
    f.behind [.comment, .title, .tags] ≠ Starred.commentWord ∧
      ¬(Starred.commentWord ++ [' ']) <+: f.behind [.comment, .title, .tags]
  tags : f.tags = [] → ∀ front gap tags, isGap gap = true → tags ≠ [] →
    (∀ t ∈ tags, Starred.IsTag t) → f.line ≠ front ++ gap :: Starred.tagGroup tags

/-- The heading that the line writes if its first character is at `pos`. -/
def heading (pos : Int) : Heading :=
  { offset := pos, level := f.level, title := f.title, keyword := f.keyword,
    priority := f.priority.map ([·]), commented := f.commented, tags := f.tags,
    properties := [], planning := [], drawers := [], looseEntries := [], content := none,
    timestamps := [], links := [] }

section Written

variable (hkeywords : ∀ k ∈ keywords, Starred.IsKeyword k) (part : HeadingPart)
  (parts : List HeadingPart)

theorem written_of_missing (h : f.word part = []) :
    f.written (part :: parts) = f.written parts := by
  rw [written, h]
  rfl

theorem behind_of_missing (h : f.word part = []) :
    f.behind (part :: parts) = f.behind parts :=
  congrArg (List.dropWhile (· = ' ')) (f.written_of_missing part parts h)

include hkeywords

theorem strip_word : strip (f.word part) = f.word part := by
  cases part with
  | keyword =>
    rw [word_keyword]
    cases hk : f.keyword with
    | none => rfl
    | some k =>
      obtain ⟨-, hblank⟩ := hkeywords k (f.keyword_mem k hk)
      exact strip_eq_self_iff.mpr ⟨fun c hc => hblank c (List.mem_of_mem_head? hc),
        fun c hc => hblank c (List.mem_of_mem_getLast? hc)⟩
  | priority =>
    rw [word_priority]
    cases f.priority with
    | none => rfl
    | some c => exact strip_framed (c := '[') (d := ']') (by decide) (by decide) ['#', c]
  | comment =>
    rw [word_comment]
    cases f.commented <;> rfl
  | title => exact f.title_strip
  | tags =>
    rw [word_tags]
    split
    · rfl
    · rename_i hne
      obtain ⟨u, hu⟩ := Starred.exists_tagGroup (mt List.isEmpty_iff.mpr hne)
      rw [hu, strip_framed (by decide) (by decide)]

/-- Without the spaces in front, a part and what follows it are left. -/
theorem behind_cons (h : f.word part ≠ []) :
    f.behind (part :: parts) = f.word part ++ f.written parts := by
  obtain ⟨c, w, hw⟩ := List.exists_cons_of_ne_nil h
  have hc : isBlank c = false :=
    isBlank_head_of_strip (f.strip_word hkeywords part) c (by rw [hw]; rfl)
  have hspaces : ∀ d ∈ List.replicate (f.spaces part) ' ', decide (d = ' ') = true :=
    fun d hd => decide_eq_true (List.eq_of_mem_replicate hd)
  rw [behind, written, hw]
  refine (takeWhile_append_stop hspaces ?_).2
  rintro _ ⟨⟩
  apply decide_eq_false
  rintro rfl
  cases hc

/-- Nothing is written, or some spaces with another character behind them. -/
theorem written_cases : (f.written parts = [] ∧ f.behind parts = []) ∨
    ∃ n, f.written parts = ' ' :: (List.replicate n ' ' ++ f.behind parts) ∧
      f.behind parts ≠ [] := by
  induction parts with
  | nil => exact Or.inl ⟨rfl, rfl⟩
  | cons part parts ih =>
    by_cases h : f.word part = []
    · rwa [f.written_of_missing part parts h, f.behind_of_missing part parts h]
    · right
      obtain ⟨n, hn⟩ := Nat.exists_eq_add_of_lt (f.spaces_pos part)
      refine ⟨n, ?_, ?_⟩
      · rw [f.behind_cons hkeywords part parts h, written, if_neg (mt List.isEmpty_iff.mp h), hn]
        simp [List.replicate_succ]
      · simp [f.behind_cons hkeywords part parts h, h]

theorem strip_behind : strip (f.behind parts) = f.behind parts := by
  induction parts with
  | nil => rfl
  | cons part parts ih =>
    by_cases h : f.word part = []
    · rwa [f.behind_of_missing part parts h]
    · rw [f.behind_cons hkeywords part parts h]
      rcases f.written_cases hkeywords parts with ⟨hnil, -⟩ | ⟨n, hwritten, hne⟩
      · rw [hnil, List.append_nil, f.strip_word hkeywords part]
      · obtain ⟨hhead, -⟩ := strip_eq_self_iff.mp (f.strip_word hkeywords part)
        obtain ⟨-, hlast⟩ := strip_eq_self_iff.mp ih
        refine strip_eq_self_iff.mpr ⟨?_, ?_⟩
        · rwa [List.head?_append_of_ne_nil _ h]
        · rwa [hwritten, ← List.cons_append, ← List.append_assoc,
            List.getLast?_append_of_ne_nil _ hne]

/-- What stands behind any spaces has no other white space in front. -/
theorem strip_spaces_behind (n : Nat) :
    strip (List.replicate n ' ' ++ f.behind parts) = f.behind parts := by
  rw [strip_append_of_gap fun _ => isGap_of_mem_spaces, f.strip_behind hkeywords parts]

theorem dropWhile_gap_behind (n : Nat) :
    (List.replicate n ' ' ++ f.behind parts).dropWhile isGap = f.behind parts := by
  have hhead := isBlank_head_of_strip (f.strip_behind hkeywords parts)
  exact (takeWhile_append_stop (fun _ => isGap_of_mem_spaces)
    fun c hc => isGap_of_not_isBlank (hhead c hc)).2

theorem trimEnd_behind : trimEnd isGap (f.behind parts) = f.behind parts := by
  obtain ⟨-, hlast⟩ := strip_eq_self_iff.mp (f.strip_behind hkeywords parts)
  exact trimEnd_eq_self_iff.mpr fun c hc => isGap_of_not_isBlank (hlast c hc)

theorem head_written : ∀ c ∈ (f.written parts).head?, c = ' ' := by
  rcases f.written_cases hkeywords parts with ⟨hnil, -⟩ | ⟨n, hwritten, -⟩
  · simp [hnil]
  · simp [hwritten]

omit hkeywords in
theorem written_append (more : List HeadingPart) :
    f.written (parts ++ more) = f.written parts ++ f.written more := by
  induction parts with
  | nil => rfl
  | cons part parts ih =>
    rw [List.cons_append, written, written, ih]
    split
    · rfl
    · simp only [List.append_assoc]

theorem behind_append (more : List HeadingPart) (h : f.behind parts ≠ []) :
    f.behind (parts ++ more) = f.behind parts ++ f.written more := by
  induction parts with
  | nil => exact absurd rfl h
  | cons part parts ih =>
    by_cases hword : f.word part = []
    · rw [f.behind_of_missing part parts hword] at h ⊢
      rw [List.cons_append, f.behind_of_missing _ _ hword, ih h]
    · rw [List.cons_append, f.behind_cons hkeywords part _ hword, f.written_append,
        f.behind_cons hkeywords part parts hword, List.append_assoc]

theorem behind_append_of_nil (more : List HeadingPart) (h : f.behind parts = []) :
    f.behind (parts ++ more) = f.behind more := by
  rcases f.written_cases hkeywords parts with ⟨hnil, -⟩ | ⟨n, -, hne⟩
  · rw [behind, f.written_append, hnil, List.nil_append, behind]
  · exact absurd h hne

theorem behind_isPrefix (more : List HeadingPart) :
    f.behind parts <+: f.behind (parts ++ more) := by
  by_cases h : f.behind parts = []
  · rw [h]
    exact List.nil_prefix
  · rw [f.behind_append hkeywords parts more h]
    exact List.prefix_append _ _

end Written

section Read

variable {f} (hkeywords : ∀ k ∈ keywords, Starred.IsKeyword k)

include hkeywords

theorem ofLine?_line (pos : Int) :
    Starred.ofLine? ⟨pos, f.line⟩ = some ⟨pos, f.level, f.behind HeadingPart.all⟩ := by
  have hstars : ∀ c ∈ List.replicate f.level '*', decide (c = '*') = true :=
    fun c hc => decide_eq_true (List.eq_of_mem_replicate hc)
  have hstop : ∀ c ∈ (f.written HeadingPart.all).head?, decide (c = '*') = false := by
    intro c hc
    rw [f.head_written hkeywords _ c hc]
    decide
  obtain ⟨htake, hdrop⟩ := takeWhile_append_stop hstars hstop
  have hsome : (List.replicate f.level '*').isEmpty = false := by
    have hpos := f.level_pos
    simp
    omega
  unfold Starred.ofLine? line
  simp only [htake, hdrop, hsome, Bool.false_eq_true, if_false, List.length_replicate]
  rcases f.written_cases hkeywords HeadingPart.all with ⟨hnil, hbehind⟩ | ⟨n, hwritten, -⟩
  · rw [hnil, hbehind]
  · rw [hwritten]
    exact congrArg (fun t => some (Starred.mk pos f.level t))
      (f.dropWhile_gap_behind hkeywords _ n)

variable (h : f.Unambiguous)

include h

/-- Without tags, the last word is none that could be taken for them: a gap stands in front of it,
be it among the parts or behind the stars. -/
theorem not_hidden_tags (htags : f.tags = []) {front : Text} {tags : List Text} (hne : tags ≠ [])
    (hwords : ∀ t ∈ tags, Starred.IsTag t)
    (hjoin : front ++ Starred.tagGroup tags = f.behind HeadingPart.all)
    (hgap : ∀ c ∈ front.getLast?, isGap c = true) : False := by
  rcases f.written_cases hkeywords HeadingPart.all with ⟨-, hnil⟩ | ⟨n, hwritten, -⟩
  · simp [hnil, Starred.tagGroup] at hjoin
  · have hline : f.line = List.replicate f.level '*' ++
        ' ' :: (List.replicate n ' ' ++ (front ++ Starred.tagGroup tags)) := by
      rw [line, hwritten, hjoin]
    obtain rfl | ⟨first, gap, rfl⟩ := List.eq_nil_or_concat' front
    · refine h.tags htags (List.replicate f.level '*' ++ List.replicate n ' ') ' ' tags rfl hne
        hwords (hline.trans ?_)
      rw [List.nil_append, ← List.cons_append, ← List.replicate_succ, List.replicate_succ']
      simp
    · refine h.tags htags (List.replicate f.level '*' ++ ' ' :: (List.replicate n ' ' ++ first)) gap
        tags (hgap gap (by simp)) hne hwords (hline.trans ?_)
      simp

theorem cutTags_of_nil (htags : f.tags = []) :
    Starred.cutTags (f.behind HeadingPart.all) = (f.behind HeadingPart.all, []) := by
  unfold Starred.cutTags
  rw [f.trimEnd_behind hkeywords]
  obtain ⟨hjoin, hgap⟩ := Starred.lastWord_spec (f.behind HeadingPart.all)
  generalize Starred.lastWord (f.behind HeadingPart.all) = last at hjoin hgap
  have hnone : Starred.tagGroup? last.2 = none := by
    refine Option.eq_none_iff_forall_ne_some.mpr fun tags hsome => ?_
    obtain ⟨hne, hwords, hgroup⟩ := Starred.tagGroup?_eq_some_iff.mp hsome
    exact not_hidden_tags hkeywords h htags hne hwords (hgroup ▸ hjoin) hgap
  simp only [hnone]

omit h in
/-- What stands in front of the tags is nothing, or ends with the spaces between them and the
part before. -/
theorem exists_front (htags : f.tags ≠ []) : ∃ front, f.behind HeadingPart.all =
    front ++ Starred.tagGroup f.tags ∧ (∀ c ∈ front.getLast?, isGap c = true) ∧
    strip front = f.behind [.keyword, .priority, .comment, .title] := by
  have hword : f.word .tags = Starred.tagGroup f.tags := by
    rw [word_tags, if_neg (mt List.isEmpty_iff.mp htags)]
  by_cases hnil : f.behind [.keyword, .priority, .comment, .title] = []
  · refine ⟨[], ?_, by simp, hnil.symm⟩
    refine (f.behind_append_of_nil hkeywords _ [.tags] hnil).trans ?_
    rw [f.behind_cons hkeywords _ _ (by rw [hword]; exact List.cons_ne_nil _ _), hword]
    exact List.append_nil _
  · have hwritten : f.written [.tags] =
        List.replicate (f.spaces .tags) ' ' ++ Starred.tagGroup f.tags := by
      simp [written, hword, Starred.tagGroup]
    refine ⟨_ ++ List.replicate (f.spaces .tags) ' ', ?_, ?_,
      strip_append_spaces (f.strip_behind hkeywords _) _⟩
    · refine (f.behind_append hkeywords _ [.tags] hnil).trans ?_
      rw [hwritten, List.append_assoc]
    · have hpos := f.spaces_pos .tags
      simp [List.getLast?_append, List.getLast?_replicate, hpos.ne', isGap]

/-- In front of the tags, what is left are the other parts, maybe with spaces at the end. -/
theorem cutTags_behind : ∃ t, Starred.cutTags (f.behind HeadingPart.all) = (t, f.tags) ∧
    strip t = f.behind [.keyword, .priority, .comment, .title] := by
  by_cases htags : f.tags = []
  · have hmissing : f.word .tags = [] := by rw [word_tags, htags]; rfl
    have hall : f.written HeadingPart.all =
        f.written [.keyword, .priority, .comment, .title] := by
      refine (f.written_append [.keyword, .priority, .comment, .title] [.tags]).trans ?_
      rw [f.written_of_missing _ _ hmissing]
      exact List.append_nil _
    refine ⟨_, htags ▸ cutTags_of_nil hkeywords h htags, ?_⟩
    rw [f.strip_behind hkeywords, behind, behind, hall]
  · obtain ⟨front, hall, hgap, hfront⟩ := exists_front hkeywords htags
    have hgroup := Starred.tagGroup?_eq_some_iff.mpr ⟨htags, f.tags_word, rfl⟩
    refine ⟨front, ?_, hfront⟩
    unfold Starred.cutTags
    rw [f.trimEnd_behind hkeywords, hall,
      Starred.lastWord_append (fun c => Starred.isGap_of_mem_tagGroup f.tags_word) hgap]
    simp only [hgroup]

theorem cutKeyword_behind {t : Text}
    (ht : strip t = f.behind [.keyword, .priority, .comment, .title]) :
    ∃ u, Starred.cutKeyword keywords t = (f.keyword, u) ∧
      strip u = f.behind [.priority, .comment, .title] := by
  cases hk : f.keyword with
  | none =>
    have hmissing : f.word .keyword = [] := by rw [word_keyword, hk]; rfl
    refine ⟨t, ?_, ht.trans (f.behind_of_missing _ _ hmissing)⟩
    rw [Starred.cutKeyword, ht]
    refine if_neg ?_
    rw [isIn_iff]
    -- The tags are cut off already, but they would not have changed the first word.
    by_cases hnil : f.behind [.keyword, .priority, .comment, .title] = []
    · rw [hnil]
      exact fun hmem => (hkeywords _ hmem).1 rfl
    · have hfirst := h.keyword hk
      have hall : f.behind HeadingPart.all = _ := f.behind_append hkeywords _ [.tags] hnil
      rwa [hall, cutAt_append_fst (f.head_written hkeywords _)] at hfirst
  | some k =>
    have hmem := f.keyword_mem k hk
    obtain ⟨hne, hblank⟩ := hkeywords k hmem
    have hword : f.word .keyword = k := by rw [word_keyword, hk]; rfl
    have hspace : ' ' ∉ k := fun hc => by cases hblank ' ' hc
    rw [f.behind_cons hkeywords _ _ (by rwa [hword]), hword] at ht
    rcases f.written_cases hkeywords [.priority, .comment, .title] with
      ⟨hnil, hbehind⟩ | ⟨n, hwritten, -⟩
    · refine ⟨[], ?_, hbehind.symm⟩
      rw [Starred.cutKeyword, ht, hnil, List.append_nil, cutAt_of_not_mem hspace]
      exact if_pos (isIn_iff.mpr hmem)
    · refine ⟨_, ?_, f.strip_spaces_behind hkeywords _ n⟩
      rw [Starred.cutKeyword, ht, hwritten, cutAt_append hspace]
      exact if_pos (isIn_iff.mpr hmem)

theorem cutPriority_behind :
    Starred.cutPriority (f.behind [.priority, .comment, .title]) =
      (f.priority.map ([·]), f.behind [.comment, .title]) := by
  cases hp : f.priority with
  | none =>
    have hmissing : f.word .priority = [] := by rw [word_priority, hp]; rfl
    have hnot (c : Char) (hc : Starred.isPriorityChar c = true) :
        ¬Starred.priorityMark c <+: f.behind [.priority, .comment, .title] := fun hmark =>
      h.priority hp c hc (hmark.trans (f.behind_isPrefix hkeywords _ [.tags]))
    rw [Starred.cutPriority_of_not_prefix hnot, f.behind_of_missing _ _ hmissing]
    rfl
  | some c =>
    have hword : f.word .priority = Starred.priorityMark c := by rw [word_priority, hp]; rfl
    have hdrop : (f.written [.comment, .title]).dropWhile isGap = f.behind [.comment, .title] := by
      rcases f.written_cases hkeywords [.comment, .title] with
        ⟨hnil, hbehind⟩ | ⟨n, hwritten, -⟩
      · rw [hnil, hbehind]
        rfl
      · rw [hwritten]
        exact f.dropWhile_gap_behind hkeywords _ n
    rw [f.behind_cons hkeywords _ _ (by rw [hword]; exact List.cons_ne_nil _ _), hword,
      ← hdrop]
    exact if_pos (f.priority_char c hp)

theorem cutComment_behind : ∃ u,
    Starred.cutComment (f.behind [.comment, .title]) = (f.commented, u) ∧ strip u = f.title := by
  have htitle : f.behind [.title] = f.title := by
    by_cases hnil : f.word .title = []
    · exact (f.behind_of_missing _ _ hnil).trans hnil.symm
    · exact (f.behind_cons hkeywords _ _ hnil).trans (List.append_nil _)
  cases hc : f.commented with
  | false =>
    have hmissing : f.word .comment = [] := by rw [word_comment, hc]; rfl
    have hsame : f.behind [.comment, .title] = f.title :=
      (f.behind_of_missing _ _ hmissing).trans htitle
    obtain ⟨hword, hspace⟩ := h.comment hc
    have hall := f.behind_isPrefix hkeywords [.comment, .title] [.tags]
    rw [hsame] at hall ⊢
    refine ⟨f.title, Starred.cutComment_of_not_prefix ?_ fun hcomment =>
      hspace (hcomment.trans hall), f.title_strip⟩
    intro hcomment
    -- The title is the mark, so with tags behind it the mark has a space behind it.
    have happend := f.behind_append hkeywords [.comment, .title] [.tags]
      (by rw [hsame, hcomment]; decide)
    rw [hsame, hcomment] at happend
    rcases f.written_cases hkeywords [.tags] with ⟨hnil, -⟩ | ⟨n, hwritten, -⟩
    · rw [hnil, List.append_nil] at happend
      exact hword happend
    · rw [hwritten] at happend
      exact hspace ⟨_, (List.append_assoc _ [' '] _).trans happend.symm⟩
  | true =>
    have hword : f.word .comment = Starred.commentWord := by rw [word_comment, hc]; rfl
    rw [f.behind_cons hkeywords _ _ (by rw [hword]; decide), hword]
    unfold Starred.cutComment
    rw [after?_append]
    rcases f.written_cases hkeywords [.title] with ⟨hnil, hbehind⟩ | ⟨n, hwritten, -⟩
    · rw [hnil]
      exact ⟨[], rfl, hbehind.symm.trans htitle⟩
    · rw [hwritten]
      refine ⟨' ' :: (List.replicate n ' ' ++ f.behind [.title]), rfl, ?_⟩
      rw [← List.cons_append, ← List.replicate_succ, f.strip_spaces_behind hkeywords, htitle]

theorem heading_line (pos : Int) :
    (Starred.ofLine? ⟨pos, f.line⟩).map (Starred.heading keywords) = some (f.heading pos) := by
  obtain ⟨t, htags, ht⟩ := cutTags_behind hkeywords h
  obtain ⟨u, hkeyword, hu⟩ := cutKeyword_behind hkeywords h ht
  obtain ⟨v, hcomment, hv⟩ := cutComment_behind hkeywords h
  rw [ofLine?_line hkeywords, Option.map_some, Starred.heading, htags]
  dsimp only
  rw [hkeyword]
  dsimp only
  rw [hu, cutPriority_behind hkeywords h]
  dsimp only
  rw [hcomment]
  dsimp only
  rw [hv, heading]

omit h in
theorem lineFeed_not_mem_line : '\n' ∉ f.line := by
  have hword (part : HeadingPart) : '\n' ∉ f.word part := by
    cases part with
    | keyword =>
      rw [word_keyword]
      cases hk : f.keyword with
      | none => exact List.not_mem_nil
      | some k =>
        intro hmem
        cases (hkeywords k (f.keyword_mem k hk)).2 '\n' hmem
    | priority =>
      rw [word_priority]
      cases hp : f.priority with
      | none => exact List.not_mem_nil
      | some c =>
        intro hmem
        obtain rfl : '\n' = c := by simpa [Starred.priorityMark] using hmem
        cases f.priority_char '\n' hp
    | comment =>
      rw [word_comment]
      cases f.commented <;> decide
    | title => exact f.title_line
    | tags =>
      rw [word_tags]
      split
      · exact List.not_mem_nil
      · intro hmem
        rcases Starred.mem_tagGroup f.tags_word hmem with hcolon | hchar
        · cases hcolon
        · rw [Starred.isTagChar_stops.2.1] at hchar
          cases hchar
  have hwritten (parts : List HeadingPart) : '\n' ∉ f.written parts := by
    induction parts with
    | nil => exact List.not_mem_nil
    | cons part parts ih =>
      rw [written]
      split
      · exact ih
      · simp [List.mem_replicate, hword part, ih]
  simp [line, List.mem_replicate, hwritten]

end Read

/-- The line that a heading is written in is read back as this heading, wherever no part that is
there could be taken for a missing one; and as a text of its own it is an outline of just this
heading. -/
theorem read_line {o : Options} (hne : o.keywords ≠ [])
    (hkeywords : ∀ k ∈ o.keywords, Starred.IsKeyword k) (f : HeadingForm o.keywords)
    (h : f.Unambiguous) :
    (∀ pos, (Starred.ofLine? ⟨pos, f.line⟩).map (Starred.heading o.headingKeywords) =
      some (f.heading pos)) ∧
    Outline.read o f.line = ⟨[], [], [.node (f.heading 1) []]⟩ := by
  have hsame : o.headingKeywords = o.keywords := if_neg (mt List.isEmpty_iff.mp hne)
  have hread := heading_line hkeywords h
  rw [hsame]
  refine ⟨hread, ?_⟩
  obtain ⟨s, hs, hheading⟩ := Option.map_eq_some_iff.mp (hread 1)
  have hlines : Line.ofText f.line = [⟨1, f.line⟩] := by
    rw [Line.ofText, pieces_of_not_mem (lineFeed_not_mem_line hkeywords)]
    rfl
  have hsection : (Section.ofLines o.logDrawer.isNone []).attach (s.heading o.keywords) =
      f.heading 1 := by
    rw [Section.ofLines_nil, hheading]
    rfl
  have hpreamble : Preamble.ofLines [] = ⟨[], []⟩ := by
    simp [Preamble.ofLines, Preamble.collect, firsts]
  simp only [Outline.read, hlines, Line.sections_of_starred hs, Line.sections, hpreamble,
    Outline.readHeadings, hsame, List.map_cons, List.map_nil, hsection]
  rfl

/-- A title that resembles the parts that are missing. -/
theorem read_line_lookalikes :
    let o : Options := { Options.default with keywords := ["NEXT".toList, "DONE".toList] }
    ∃ x : Heading, Outline.read o "**  NEXT  [#12] COMMENTS :a: b".toList =
        ⟨[], [], [.node x []]⟩ ∧ x.level = 2 ∧ x.keyword = some "NEXT".toList ∧
      x.priority = none ∧ x.commented = false ∧ x.title = "[#12] COMMENTS :a: b".toList ∧
      x.tags = [] := by
  intro o
  have hkeywords : ∀ k ∈ o.keywords, Starred.IsKeyword k := by
    have hwords : ∀ k ∈ o.keywords, k ≠ [] ∧ k.all (isBlank · = false) = true := by decide +kernel
    intro k hk
    obtain ⟨hne, hall⟩ := hwords k hk
    exact ⟨hne, fun c hc => of_decide_eq_true (List.all_eq_true.mp hall c hc)⟩
  let f : HeadingForm o.keywords := {
    level := 2, keyword := some "NEXT".toList, priority := none, commented := false
    title := "[#12] COMMENTS :a: b".toList, tags := [], spaces := fun _ => 2
    level_pos := by decide
    keyword_mem := by decide
    priority_char := by simp
    title_line := by decide
    title_strip := by decide +kernel
    tags_word := by simp
    spaces_pos := fun _ => by decide }
  have hclear : f.Unambiguous := {
    keyword := fun hnone => by cases hnone
    priority := fun _ c _ hmark => by
      have hsecond := List.IsPrefix.getElem hmark (i := 3) (by simp [Starred.priorityMark])
      cases hsecond
    comment := fun _ => by decide +kernel
    tags := fun _ front gap tags _ hne _ hline => by
      obtain ⟨u, hu⟩ := Starred.exists_tagGroup hne
      have hlast : f.line.getLast? = some 'b' := by decide +kernel
      rw [hline, hu] at hlast
      simp [List.getLast?_append, List.getLast?_cons] at hlast }
  exact ⟨f.heading 1, (read_line (by decide) hkeywords f hclear).2, rfl, rfl, rfl, rfl, rfl, rfl⟩

end HeadingForm

end OutlineTables
