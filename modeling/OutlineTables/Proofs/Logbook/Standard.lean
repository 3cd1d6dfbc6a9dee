import OutlineTables.Proofs.Logbook.Filled

/-!
Standard notes. Main statement: a note that is written from one of the default templates is read
back with its type, its header and the lines below, and with the values that were written into it.
-/
namespace OutlineTables

open Text

namespace Note

/-- The text of an item: its header, and maybe a note on the lines below, behind a mark of two
backslashes. -/
inductive Writes (header : Text) : Text → Option Text → Prop
  | bare : Writes header header none
  | noted {gap : Char} {body : Text} (hgap : isBlank gap = true) (hline : gap ≠ '\n')
    (hne : body ≠ []) (hbody : strip body = body) :
    Writes header (header ++ gap :: '\\' :: '\\' :: '\n' :: body) (some body)

/-- Values as a note of a standard type has them: a single inactive timestamp on one line, keywords
without white space for a change of state, and a timestamp for a change of planning. -/
structure Values.Fit (v : Values) (name : Text) : Prop where
  single : ∃ w, Stamp.writtenRange? v.logged = some (w, none)
  inactive : ∃ s, Stamp.decode v.logged = .ok s ∧ s.active = false
  line : '\n' ∉ v.logged
  keywords : name = NoteType.state → ∀ w ∈ [v.new, v.old], w ≠ [] ∧ ∀ c ∈ w, isBlank c = false
  change : name ∈ NoteType.planningChanges →
    (∃ s, Stamp.decode v.old = .ok s) ∧ strip v.old = v.old ∧ '\n' ∉ v.old

/-- A note has the values that were written into it. The old timestamp stands where the header has
it for the first time. -/
structure Values.ReadBack (v : Values) (e : Entry) (name header : Text) (body : Option Text)
    (n : Note) : Prop where
  type : n.type = name
  head : n.header = header
  body : n.body = body
  logged : ∃ s, Stamp.decode v.logged = .ok s ∧ n.timeLogged = some s.start.seconds
  states : name = NoteType.state → n.newState = some v.new ∧ n.oldState = some v.old
  change : name ∈ NoteType.planningChanges → ∃ (k : Nat) (s : Stamp),
    n.oldStamp = some (e.textOffset + k, s) ∧ Stamp.decode v.old = .ok s ∧ s.raw = v.old ∧
      header.Has k v.old ∧ ∀ j < k, ¬header.Has j v.old

section Split

variable {header text : Text} {body : Option Text}

theorem nonempty?_of_ne {t : Text} (h : t ≠ []) : nonempty? t = some t := by
  unfold nonempty?
  rw [if_neg (by simpa using h)]

/-- The end of a timestamp. -/
theorem isBlank_close : isBlank ']' = false := by decide

section Framed

variable {c gap : Char} {m : Text} (hc : isBlank c = false) (hheader : header = c :: (m ++ [']']))
include hheader

theorem stripEnd_framed : stripEnd header = header := by
  rw [hheader]
  exact List.rdropWhile_concat_neg isBlank (c :: m) ']' (ne_true_of_eq_false isBlank_close)

include hc

theorem cutBreak_framed : cutBreak header = header := by
  unfold cutBreak
  rw [stripEnd_framed hheader]
  split
  · -- The last character is no backslash.
    rename_i r hr
    rw [hheader, ← List.cons_append, List.reverse_append] at hr
    cases hr
  · rw [hheader]
    exact strip_framed hc isBlank_close m

theorem cutBreak_marked (hgap : isBlank gap = true) :
    cutBreak (header ++ [gap, '\\', '\\']) = header := by
  have hend : stripEnd (header ++ [gap, '\\', '\\']) = header ++ [gap, '\\', '\\'] := by
    have htext : header ++ [gap, '\\', '\\'] = header ++ [gap, '\\'] ++ ['\\'] := by simp
    have hbackslash : isBlank '\\' = false := by decide
    rw [htext]
    exact List.rdropWhile_concat_neg isBlank _ '\\' (ne_true_of_eq_false hbackslash)
  -- The blank in front of the mark goes with it.
  have hgapped : strip (header ++ [gap]) = header := by
    have hfront : (header ++ [gap]).dropWhile isBlank = header ++ [gap] := by
      rw [hheader, List.cons_append, List.dropWhile_cons_of_neg (ne_true_of_eq_false hc)]
    rw [strip, trim, hfront, trimEnd_eq_rdropWhile, List.rdropWhile_concat_pos _ _ _ hgap]
    exact stripEnd_framed hheader
  unfold cutBreak
  rw [hend]
  simp [hgapped]

/-- A header that stands between a character and the end of a timestamp is read as it is. -/
theorem split_of_writes (hline : '\n' ∉ header) (h : Writes header text body) :
    split text = (header, body) := by
  cases h with
  | bare =>
    unfold split
    rw [cutAt_of_not_mem hline]
    exact congrArg (·, none) (cutBreak_framed hc hheader)
  | @noted gap body hgap hgapline hne hbody =>
    have hfirst : '\n' ∉ header ++ [gap, '\\', '\\'] := by
      simp [hline, Ne.symm hgapline]
    have htext : header ++ gap :: '\\' :: '\\' :: '\n' :: body =
        header ++ [gap, '\\', '\\'] ++ '\n' :: body := by simp
    unfold split
    rw [htext, cutAt_append hfirst]
    dsimp only
    rw [cutBreak_marked hc hheader hgap, hbody, nonempty?_of_ne hne]

end Framed

end Split

section Captures

variable {e : Entry} {header type : Text} {body : Option Text} {v : Values} {s : Stamp}
  {n k j : Nat}

theorem unquote_quote {t : Text} (ht : t ≠ []) : unquote (quote t) = (some t, 1) := by
  have hquote : isBlank '"' = false := by decide
  have hstrip : strip (quote t) = quote t := strip_framed hquote hquote t
  obtain ⟨c, cs, hcs⟩ := List.exists_cons_of_ne_nil ht
  have hlast : (quote t).getLast? = some '"' := List.getLast?_concat (l := '"' :: t)
  have hinside : ((quote t).drop 1).dropLast = t := List.dropLast_concat
  unfold unquote
  dsimp only
  rw [hstrip, hlast, hinside, nonempty?_of_ne ht, quote, hcs]
  rfl

theorem loggedAt_stamp (hs : Stamp.decode v.logged = .ok s) :
    loggedAt [⟨.inactiveStamp, v.logged, n⟩] = .ok (some s.start.seconds) := by
  have htime : Hole.inactiveStamp.isTime = true := rfl
  rw [loggedAt, if_pos htime, Stamp.decode?_eq_some_iff.mpr hs]
  rfl

theorem loggedAt_cons {c : Capture} {cs : List Capture} (hc : c.hole.isTime = false) :
    loggedAt (c :: cs) = loggedAt cs := by
  rw [loggedAt, hc]
  rfl

/-- A note with a time and no other values. -/
theorem readBack_plain (hs : Stamp.decode v.logged = .ok s) (hstate : type ≠ NoteType.state)
    (hplan : type ∉ NoteType.planningChanges) :
    ∃ n', ofCaptures e type header body [⟨.inactiveStamp, v.logged, n⟩] = .ok n' ∧
      v.ReadBack e type header body n' := by
  unfold ofCaptures
  rw [loggedAt_stamp hs]
  exact ⟨_, rfl, rfl, rfl, rfl, ⟨s, hs, rfl⟩, fun h => absurd h hstate, fun h => absurd h hplan⟩

theorem readBack_state (hs : Stamp.decode v.logged = .ok s) (hnew : v.new ≠ [])
    (hold : v.old ≠ []) : ∃ n', ofCaptures e NoteType.state header body
      [⟨.newValue, quote v.new, j⟩, ⟨.oldValue, quote v.old, k⟩, ⟨.inactiveStamp, v.logged, n⟩] =
        .ok n' ∧ v.ReadBack e NoteType.state header body n' := by
  unfold ofCaptures
  rw [loggedAt_cons rfl, loggedAt_cons rfl, loggedAt_stamp hs]
  refine ⟨_, rfl, rfl, rfl, rfl, ⟨s, hs, rfl⟩, fun _ => ⟨?_, ?_⟩, fun h => absurd h (by decide)⟩
  · simp [firstOf, unquote_quote hnew]
  · simp [firstOf, unquote_quote hold]

theorem readBack_change {st : Stamp} (hplan : type ∈ NoteType.planningChanges)
    (hs : Stamp.decode v.logged = .ok s) (hst : Stamp.decode v.old = .ok st)
    (hstrip : strip v.old = v.old) (hplace : header.Has (k + 1) v.old)
    (hfirst : ∀ j < k + 1, ¬header.Has j v.old) :
    ∃ n', ofCaptures e type header body
      [⟨.oldValue, quote v.old, k⟩, ⟨.inactiveStamp, v.logged, n⟩] = .ok n' ∧
      v.ReadBack e type header body n' := by
  obtain ⟨hraw, hne⟩ := Stamp.raw_of_decode hst
  rw [hstrip] at hraw
  have hstamp : stampOf e.textOffset ⟨.oldValue, quote v.old, k⟩ =
      .ok (some (e.textOffset + k + 1, st)) := by
    unfold stampOf
    rw [unquote_quote (hraw ▸ hne)]
    dsimp only
    rw [Stamp.decode?_eq_some_iff.mpr hst]
    rfl
  have hfound : firstOf .oldValue [⟨.oldValue, quote v.old, k⟩, ⟨.inactiveStamp, v.logged, n⟩] =
      some ⟨.oldValue, quote v.old, k⟩ := rfl
  -- The type is a planning change, so the old value is read as a timestamp.
  have hreads := reads_old_iff.mpr hplan
  have hstate : type ≠ NoteType.state := by
    rintro rfl
    exact absurd hplan (by decide)
  unfold ofCaptures
  rw [loggedAt_cons rfl, loggedAt_stamp hs, hfound]
  simp only [hreads, if_true, hstamp]
  refine ⟨_, rfl, rfl, rfl, rfl, ⟨s, hs, rfl⟩, fun h => absurd h hstate, fun _ => ?_⟩
  refine ⟨k + 1, st, ?_, hst, hraw, hplace, hfirst⟩
  have hcount : e.textOffset + k + 1 = e.textOffset + ((k + 1 : Nat) : Int) := by omega
  rw [← hcount]

end Captures

section Forms

open Template

variable {v : Values} {name text : Text} {ps : Template} {ws : List Text}

/-- The forms of the standard templates: only a time, two keywords, or an old timestamp. -/
inductive Form : Text → Template → Prop
  | plain {name : Text} (lead : Template) (hlead : isLead lead = true)
    (hstate : name ≠ NoteType.state) (hplan : name ∉ NoteType.planningChanges) :
    Form name (lead ++ [.hole .inactiveStamp])
  | state (lead mid : Template) (hlead : isLead lead = true)
    (hmid : isLead (.blanks :: mid) = true) : Form NoteType.state (lead ++ .hole .newValue ::
      (.blanks :: mid ++ [.hole .oldValue, .blanks, .hole .inactiveStamp]))
  | change {name : Text} (lead : Template) (hlead : isLead lead = true)
    (hplan : name ∈ NoteType.planningChanges) : Form name (lead ++ .hole .oldValue :: onStamp)

theorem form_of_default (h : (name, text) ∈ NoteType.defaults) : Form name (ofText text) := by
  -- The text in front of the first value is enough to see the form.
  have hplain (lead : Text) (htext : ofText text = ofText lead ++ [.hole .inactiveStamp])
      (hlead : isLead (ofText lead) = true) (hstate : name ≠ NoteType.state)
      (hplan : name ∉ NoteType.planningChanges) : Form name (ofText text) :=
    htext ▸ .plain (ofText lead) hlead hstate hplan
  have hchange (lead : Text) (htext : ofText text = ofText lead ++ .hole .oldValue :: onStamp)
      (hlead : isLead (ofText lead) = true) (hplan : name ∈ NoteType.planningChanges) :
      Form name (ofText text) :=
    htext ▸ .change (ofText lead) hlead hplan
  simp only [NoteType.defaults, List.mem_cons, List.not_mem_nil, or_false, Prod.mk.injEq] at h
  rcases h with ⟨rfl, rfl⟩ | ⟨rfl, rfl⟩ | ⟨rfl, rfl⟩ | ⟨rfl, rfl⟩ | ⟨rfl, rfl⟩ | ⟨rfl, rfl⟩ |
    ⟨rfl, rfl⟩ | ⟨rfl, rfl⟩
  · exact hplain "CLOSING NOTE ".toList (by decide +kernel) (by decide) (by decide) (by decide)
  · exact .state (ofText "State ".toList) ((ofText " from ".toList).drop 1) rfl rfl
  · exact hplain "Note taken on ".toList (by decide +kernel) (by decide) (by decide) (by decide)
  · exact hchange "Rescheduled from ".toList (by decide +kernel) (by decide) (by decide)
  · exact hchange "Not scheduled, was ".toList (by decide +kernel) (by decide) (by decide)
  · exact hchange "New deadline from ".toList (by decide +kernel) (by decide) (by decide)
  · exact hchange "Removed deadline, was ".toList (by decide +kernel) (by decide) (by decide)
  · exact hplain "Refiled on ".toList (by decide +kernel) (by decide) (by decide) (by decide)

/-- A template that begins with a character and ends with a timestamp. -/
def isFramed : Template → Bool
  | .literal c :: ps => !isBlank c && decide (ps.getLast? = some (.hole .inactiveStamp))
  | _ => false

/-- Each standard type is tried with its template. -/
theorem mem_all_of_default : ∀ p ∈ NoteType.defaults,
    ⟨p.1, ofText p.2⟩ ∈ NoteType.all [] ∧ isFramed (ofText p.2) = true := by
  decide +kernel

/-- No header is written from the templates of two standard types. -/
theorem pairwise_clash :
    (NoteType.all []).Pairwise fun a b => clash a.template b.template = true := by
  decide +kernel

theorem framed_of_fills (hframed : isFramed ps = true) (h : List.Forall₂ (Part.Fills v) ps ws) :
    ∃ c m, isBlank c = false ∧ ws.flatten = c :: (m ++ v.logged) := by
  cases h with
  | nil => cases hframed
  | @cons p w ps ws hw hws =>
    cases hw with
    | literal c =>
      simp only [isFramed, Bool.and_eq_true, Bool.not_eq_true', decide_eq_true_eq] at hframed
      obtain ⟨front, rfl⟩ := List.getLast?_eq_some_iff.mp hframed.2
      obtain ⟨us, vs, rfl, -, hvs⟩ := exists_of_fills_append hws
      obtain ⟨_, _, ⟨⟩, ⟨⟩, rfl⟩ := List.forall₂_cons_left_iff.mp hvs
      exact ⟨c, us.flatten, hframed.1, by simp⟩
    | blanks | logged | new | old => cases hframed

/-- A standard note is read from what is found in its header. -/
theorem ofEntry_of_found {e : Entry} {body : Option Text} {ty : NoteType}
    (hty : ty ∈ NoteType.all []) (hframed : isFramed ty.template = true)
    (hfills : List.Forall₂ (Part.Fills v) ty.template ws) (hlogged : IsStamp '[' ']' v.logged)
    (hfound : Found ty.template ws) (hwrites : Writes ws.flatten e.text body) :
    ofEntry (NoteType.all []) e =
      ofCaptures e ty.name ws.flatten body (captures ty.template 0 ws) := by
  obtain ⟨c, m, hc, hheader⟩ := framed_of_fills hframed hfills
  obtain ⟨d, inside, hstamp, -⟩ := hlogged
  have hclosed : ws.flatten = c :: ((m ++ '[' :: (d ++ inside)) ++ [']']) := by
    rw [hheader, hstamp]
    simp
  unfold ofEntry
  rw [split_of_writes hc hclosed hfound.line hwrites]
  dsimp only
  rw [NoteType.match?_flatten pairwise_clash hty hfound]

theorem Values.Fit.isStamp (hfit : v.Fit name) : IsStamp '[' ']' v.logged := by
  obtain ⟨w, hw⟩ := hfit.single
  obtain ⟨s, hs, hinactive⟩ := hfit.inactive
  exact Stamp.isStamp_of_decode hw hs hinactive hfit.line

theorem head_of_isStamp {w : Text} (h : IsStamp '[' ']' w) :
    ∀ c ∈ [w].flatten.head?, isBlank c = false := by
  obtain ⟨d, inside, rfl, -⟩ := h
  rintro c ⟨⟩
  decide

theorem head_of_quote (t : Text) (ws : List Text) :
    ∀ c ∈ (quote t :: ws).flatten.head?, isBlank c = false := by
  rintro c ⟨⟩
  decide

theorem not_blank_quote {t : Text} (h : ∀ c ∈ t, isBlank c = false) :
    ∀ c ∈ quote t, isBlank c = false := by
  have hquote : isBlank '"' = false := by decide
  simp only [quote, List.forall_mem_cons, List.forall_mem_append, List.not_mem_nil, false_implies,
    implies_true, and_true]
  exact ⟨hquote, h, hquote⟩

/-- A note of the name can be read back from the parts and what was written for them. -/
def Reads (v : Values) (name : Text) (ps : Template) (ws : List Text) : Prop :=
  Found ps ws ∧ ∀ e body, ∃ n, ofCaptures e name ws.flatten body (captures ps 0 ws) = .ok n ∧
    v.ReadBack e name ws.flatten body n

variable {lead mid : Template}

/-- Literal text with the time of the note behind it. -/
theorem found_time (hfit : v.Fit name) (h : List.Forall₂ (Part.Fills v) ps ws) (lead : Template)
    (hps : lead ++ [.hole .inactiveStamp] = ps) (hlead : isLead lead = true) :
    Found ps ws ∧ ∀ pos, ∃ n, captures ps pos ws = [⟨.inactiveStamp, v.logged, n⟩] := by
  subst hps
  obtain ⟨us, vs, rfl, hus, hvs⟩ := exists_of_fills_append h
  obtain ⟨_, _, ⟨⟩, ⟨⟩, rfl⟩ := List.forall₂_cons_left_iff.mp hvs
  have htime := found_stamp hfit.isStamp hfit.line
  refine ⟨htime.append hlead hus (head_of_isStamp hfit.isStamp), fun pos => ?_⟩
  rw [captures_lead hlead hus]
  exact ⟨_, rfl⟩

theorem reads_plain (hlead : isLead lead = true) (hstate : name ≠ NoteType.state)
    (hplan : name ∉ NoteType.planningChanges) (hfit : v.Fit name)
    (h : List.Forall₂ (Part.Fills v) (lead ++ [.hole .inactiveStamp]) ws) :
    Reads v name (lead ++ [.hole .inactiveStamp]) ws := by
  obtain ⟨hfound, htime⟩ := found_time hfit h lead rfl hlead
  obtain ⟨s, hs, -⟩ := hfit.inactive
  refine ⟨hfound, fun e body => ?_⟩
  obtain ⟨n, hn⟩ := htime 0
  rw [hn]
  exact readBack_plain hs hstate hplan

theorem reads_state (hlead : isLead lead = true) (hmid : isLead (.blanks :: mid) = true)
    (hfit : v.Fit NoteType.state) (h : List.Forall₂ (Part.Fills v) (lead ++ .hole .newValue ::
      (.blanks :: mid ++ [.hole .oldValue, .blanks, .hole .inactiveStamp])) ws) :
    Reads v NoteType.state (lead ++ .hole .newValue ::
      (.blanks :: mid ++ [.hole .oldValue, .blanks, .hole .inactiveStamp])) ws := by
  obtain ⟨us, ws₁, rfl, hus, h₁⟩ := exists_of_fills_append h
  obtain ⟨_, ws₂, ⟨⟩, h₂, rfl⟩ := List.forall₂_cons_left_iff.mp h₁
  obtain ⟨ms, ws₃, rfl, hms, h₃⟩ := exists_of_fills_append h₂
  obtain ⟨_, ws₄, ⟨⟩, h₄, rfl⟩ := List.forall₂_cons_left_iff.mp h₃
  obtain ⟨hfound, htime⟩ := found_time hfit h₄ [.blanks] rfl rfl
  obtain ⟨s, hs, -⟩ := hfit.inactive
  obtain ⟨hnew, hnewBlank⟩ := hfit.keywords rfl v.new (by simp)
  obtain ⟨hold, holdBlank⟩ := hfit.keywords rfl v.old (by simp)
  constructor
  · -- The cut is put together from the end: the old keyword, what is between, the new keyword.
    have hfrom := hfound.word (Or.inr rfl) (not_blank_quote holdBlank)
    have hmiddle := hfrom.append hmid hms (head_of_quote _ _)
    have hto := hmiddle.word (Or.inl rfl) (not_blank_quote hnewBlank)
    exact hto.append hlead hus (head_of_quote _ _)
  · intro e body
    rw [captures_lead hlead hus, captures, captures_lead hmid hms, captures]
    obtain ⟨n, hn⟩ := htime _
    rw [hn]
    exact readBack_state hs hnew hold

/-- A quoted timestamp stands for the first time in its quotes if no bracket is in front of them. -/
theorem has_quoted {header front old rest : Text} {a : Stamp.Written} {b : Option Stamp.Written}
    (hold : Stamp.writtenRange? old = some (a, b))
    (hfront : ∀ c ∈ front, Stamp.isBracket c = false)
    (hheader : front ++ (quote old ++ rest) = header) :
    header.Has (front.length + 1) old ∧ ∀ j < front.length + 1, ¬header.Has j old := by
  subst hheader
  constructor
  · exact ⟨front ++ ['"'], '"' :: rest, by simp [quote], by simp⟩
  · obtain ⟨c, cs, rfl, hc⟩ := Stamp.head_of_writtenRange? hold
    intro j hj hhas
    -- The timestamp begins with a bracket, which cannot be one of the characters in front of it.
    have hnone : c ∉ front ++ ['"'] := by
      rw [List.mem_append, List.mem_singleton, not_or]
      refine ⟨fun hm => ?_, ?_⟩
      · rw [hfront c hm] at hc
        cases hc
      · rintro rfl
        exact absurd hc (by decide)
    have hsplit : front ++ (quote (c :: cs) ++ rest) =
        front ++ ['"'] ++ (c :: cs ++ '"' :: rest) := by simp [quote]
    rw [hsplit] at hhas
    have hle := hhas.length_le hnone
    rw [List.length_append, List.length_singleton] at hle
    omega

theorem reads_change (hlead : isLead lead = true) (hplan : name ∈ NoteType.planningChanges)
    (hfit : v.Fit name)
    (h : List.Forall₂ (Part.Fills v) (lead ++ .hole .oldValue :: onStamp) ws) :
    Reads v name (lead ++ .hole .oldValue :: onStamp) ws := by
  obtain ⟨us, ws₁, rfl, hus, h₁⟩ := exists_of_fills_append h
  obtain ⟨_, ws₂, ⟨⟩, h₂, rfl⟩ := List.forall₂_cons_left_iff.mp h₁
  -- Behind the value, too, there is literal text and a time.
  obtain ⟨hfound, htime⟩ := found_time hfit h₂ (onStamp.take 4) rfl rfl
  obtain ⟨s, hs, -⟩ := hfit.inactive
  obtain ⟨⟨st, hst⟩, hstrip, hline⟩ := hfit.change hplan
  obtain ⟨a, b, -, -, -, hw, -⟩ := Stamp.exists_of_decode hst
  rw [hstrip] at hw
  refine ⟨(hfound.quotedStamp hw hline).append hlead hus (head_of_quote _ _), fun e body => ?_⟩
  have hheader : us.flatten ++ (quote v.old ++ ws₂.flatten) =
      (us ++ quote v.old :: ws₂).flatten := by
    rw [List.flatten_append, List.flatten_cons]
  have hplain : ∀ c ∈ us.flatten, Stamp.isBracket c = false :=
    fun c hc => (plain_lead hlead hus c hc).2
  obtain ⟨hplace, hfirst⟩ := has_quoted hw hplain hheader
  rw [captures_lead hlead hus, Nat.zero_add, captures]
  obtain ⟨n, hn⟩ := htime _
  rw [hn]
  exact readBack_change hplan hs hst hstrip hplace hfirst

theorem reads_of_form (hform : Form name ps) (hfit : v.Fit name)
    (hfills : List.Forall₂ (Part.Fills v) ps ws) : Reads v name ps ws := by
  cases hform with
  | plain lead hlead hstate hplan => exact reads_plain hlead hstate hplan hfit hfills
  | state lead mid hlead hmid => exact reads_state hlead hmid hfit hfills
  | change lead hlead hplan => exact reads_change hlead hplan hfit hfills

/-- A note of a standard type that is written from its template, and may have a note below, is read
as it was written. -/
theorem ofEntry_standard (hname : (name, text) ∈ NoteType.defaults) (hfit : v.Fit name)
    (hfills : List.Forall₂ (Part.Fills v) (ofText text) ws) {e : Entry} {body : Option Text}
    (hwrites : Writes ws.flatten e.text body) :
    ∃ n, ofEntry (NoteType.all []) e = .ok n ∧ v.ReadBack e name ws.flatten body n := by
  obtain ⟨hty, hframed⟩ := mem_all_of_default _ hname
  obtain ⟨hfound, hread⟩ := reads_of_form (form_of_default hname) hfit hfills
  rw [ofEntry_of_found hty hframed hfills hfit.isStamp hfound hwrites]
  exact hread e body

/-- A change from a range, with more white space than the template has and with a note below. -/
theorem ofEntry_standard_range :
    let v : Values := ⟨"[2024-01-02 Tue 10:00]".toList, [], "[2024-01-01]--[2024-01-03]".toList⟩
    let header :=
      "Rescheduled  from \"[2024-01-01]--[2024-01-03]\"   on [2024-01-02 Tue 10:00]".toList
    let e : Entry := ⟨.item, 10, 12, header ++ " \\\\\nlater".toList⟩
    v.Fit "reschedule".toList ∧ ∃ n, ofEntry (NoteType.all []) e = .ok n ∧
      v.ReadBack e "reschedule".toList header (some "later".toList) n := by
  intro v header e
  have hfit : v.Fit "reschedule".toList := {
    single := ⟨_, rfl⟩
    inactive := ⟨_, rfl, rfl⟩
    line := by decide
    keywords := fun h => absurd h (by decide)
    change := fun _ => ⟨⟨_, rfl⟩, by decide, by decide⟩ }
  have hname : ("reschedule".toList, "Rescheduled from %S on %t".toList) ∈ NoteType.defaults := by
    decide
  let ws : List Text :=
    "Rescheduled".toList.map ([·]) ++ ["  ".toList] ++ "from".toList.map ([·]) ++
      [" ".toList, quote v.old, "   ".toList, ['o'], ['n'], " ".toList, v.logged]
  have hfills : List.Forall₂ (Part.Fills v) (ofText "Rescheduled from %S on %t".toList) ws := by
    decide
  have hheader : ws.flatten = header := by decide +kernel
  have hwrites : Writes ws.flatten e.text (some "later".toList) := by
    rw [hheader]
    exact .noted (by decide) (by decide) (by decide) (by decide)
  obtain ⟨n, hn, hread⟩ := ofEntry_standard hname hfit hfills hwrites
  rw [hheader] at hread
  exact ⟨hfit, n, hn, hread⟩

end Forms

end Note

end OutlineTables
