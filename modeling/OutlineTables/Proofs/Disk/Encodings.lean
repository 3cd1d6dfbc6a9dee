import Mathlib.Tactic.SplitIfs
import OutlineTables.Sync.Plan

/-!
Outline files in either encoding. A reader takes the bytes of one character from the head and
leaves the rest, and no UTF-8 begins with a byte order mark. Line ends are folded before the
outline is read, so it has the offsets of the text with line feeds alone.
-/
namespace OutlineTables

namespace Encoding

/-- Surrogates are no characters, and nothing is behind the last plane. -/
theorem toNat_range (c : Char) :
    (c.toNat < 0xD800 ∨ 0xE000 ≤ c.toNat) ∧ c.toNat < 0x110000 := by
  have hvalid : c.toNat < 0xD800 ∨ 0xDFFF < c.toNat ∧ c.toNat < 0x110000 := c.valid
  omega

/-! ### UTF-8 -/

/-- The bytes of a character are those of the core library. -/
theorem utf8Char_eq (c : Char) : utf8Char c = String.utf8EncodeChar c := by
  have hrange := (toNat_range c).2
  have hvalue : c.val.toNat = c.toNat := rfl
  unfold utf8Char String.utf8EncodeChar
  dsimp only
  rw [hvalue]
  -- Both tell the four forms apart by the same bounds, and the factors that one of them leaves out
  -- are larger than what they would be divided into.
  split_ifs <;> first | omega | skip
  · rfl
  · simp only [List.cons.injEq, and_true]
    exact ⟨congrArg UInt8.ofNat (by omega), congrArg UInt8.ofNat (by omega)⟩
  · simp only [List.cons.injEq, and_true]
    exact ⟨congrArg UInt8.ofNat (by omega), congrArg UInt8.ofNat (by omega),
      congrArg UInt8.ofNat (by omega)⟩
  · simp only [List.cons.injEq, and_true]
    exact ⟨congrArg UInt8.ofNat (by omega), congrArg UInt8.ofNat (by omega),
      congrArg UInt8.ofNat (by omega), congrArg UInt8.ofNat (by omega)⟩

theorem tail?_ofNat {n : Nat} (h : n < 0x40) : tail? (UInt8.ofNat (0x80 + n)) = some n := by
  have hbyte := UInt8.toNat_ofNat_of_lt' (show 0x80 + n < 0x100 by omega)
  unfold tail?
  rw [hbyte, if_pos (by omega), Nat.add_sub_cancel_left]

theorem scalar?_toNat {least n : Nat} {c : Char} (hn : n = c.toNat) (h : least ≤ c.toNat) :
    scalar? least n = some c := by
  subst hn
  unfold scalar?
  rw [if_pos ⟨h, c.valid⟩, Char.ofNat_toNat]

section Utf8

variable {a b d e : UInt8} {rest : Bytes} {x y z : Nat} {c : Char}

theorem ofUtf8?_one (ha : a.toNat < 0x80) :
    ofUtf8? (a :: rest) = (ofUtf8? rest).map (Char.ofNat a.toNat :: ·) := by
  rw [ofUtf8?.eq_def]
  dsimp only
  rw [if_pos ha]

theorem ofUtf8?_two (ha : 0xC0 ≤ a.toNat ∧ a.toNat < 0xE0) (hb : tail? b = some x)
    (hc : scalar? 0x80 ((a.toNat - 0xC0) * 0x40 + x) = some c) :
    ofUtf8? (a :: b :: rest) = (ofUtf8? rest).map (c :: ·) := by
  rw [ofUtf8?.eq_def]
  dsimp only
  rw [if_neg (by omega), if_neg (by omega), if_pos ha.2, hb]
  simp [hc]

theorem ofUtf8?_three (ha : 0xE0 ≤ a.toNat ∧ a.toNat < 0xF0) (hb : tail? b = some x)
    (hd : tail? d = some y)
    (hc : scalar? 0x800 (((a.toNat - 0xE0) * 0x40 + x) * 0x40 + y) = some c) :
    ofUtf8? (a :: b :: d :: rest) = (ofUtf8? rest).map (c :: ·) := by
  rw [ofUtf8?.eq_def]
  dsimp only
  rw [if_neg (by omega), if_neg (by omega), if_neg (by omega), if_pos ha.2, hb, hd]
  simp [hc]

theorem ofUtf8?_four (ha : 0xF0 ≤ a.toNat ∧ a.toNat < 0xF8) (hb : tail? b = some x)
    (hd : tail? d = some y) (he : tail? e = some z)
    (hc : scalar? 0x10000 ((((a.toNat - 0xF0) * 0x40 + x) * 0x40 + y) * 0x40 + z) = some c) :
    ofUtf8? (a :: b :: d :: e :: rest) = (ofUtf8? rest).map (c :: ·) := by
  rw [ofUtf8?.eq_def]
  dsimp only
  rw [if_neg (by omega), if_neg (by omega), if_neg (by omega), if_neg (by omega), if_pos ha.2, hb,
    hd, he]
  simp [hc]

/-- No character begins with so large a byte. -/
theorem ofUtf8?_eq_none (ha : 0xF8 ≤ a.toNat) (rest : Bytes) : ofUtf8? (a :: rest) = none := by
  rw [ofUtf8?.eq_def]
  dsimp only
  rw [if_neg (by omega), if_neg (by omega)]
  match rest with
  | [] => rfl
  | [_] => simp only [if_neg (show ¬a.toNat < 0xE0 by omega)]
  | [_, _] =>
    simp only [if_neg (show ¬a.toNat < 0xE0 by omega), if_neg (show ¬a.toNat < 0xF0 by omega)]
  | _ :: _ :: _ :: _ =>
    simp only [if_neg (show ¬a.toNat < 0xE0 by omega), if_neg (show ¬a.toNat < 0xF0 by omega),
      if_neg (show ¬a.toNat < 0xF8 by omega)]

end Utf8

/-- The character at the head is read, and what follows it is left. -/
theorem ofUtf8?_utf8Char (c : Char) (rest : Bytes) :
    ofUtf8? (utf8Char c ++ rest) = (ofUtf8? rest).map (c :: ·) := by
  have hrange := (toNat_range c).2
  unfold utf8Char
  dsimp only
  split_ifs with h₁ h₂ h₃
  · have ha := UInt8.toNat_ofNat_of_lt' (show c.toNat < 0x100 by omega)
    rw [List.singleton_append, ofUtf8?_one (by omega), ha, Char.ofNat_toNat]
  · have ha := UInt8.toNat_ofNat_of_lt' (show 0xC0 + c.toNat / 0x40 < 0x100 by omega)
    have hb := tail?_ofNat (n := c.toNat % 0x40) (by omega)
    exact ofUtf8?_two (by omega) hb (scalar?_toNat (by omega) (by omega))
  · have ha := UInt8.toNat_ofNat_of_lt' (show 0xE0 + c.toNat / 0x1000 < 0x100 by omega)
    have hb := tail?_ofNat (n := c.toNat / 0x40 % 0x40) (by omega)
    have hd := tail?_ofNat (n := c.toNat % 0x40) (by omega)
    exact ofUtf8?_three (by omega) hb hd (scalar?_toNat (by omega) (by omega))
  · have ha := UInt8.toNat_ofNat_of_lt' (show 0xF0 + c.toNat / 0x40000 < 0x100 by omega)
    have hb := tail?_ofNat (n := c.toNat / 0x1000 % 0x40) (by omega)
    have hd := tail?_ofNat (n := c.toNat / 0x40 % 0x40) (by omega)
    have he := tail?_ofNat (n := c.toNat % 0x40) (by omega)
    exact ofUtf8?_four (by omega) hb hd he (scalar?_toNat (by omega) (by omega))

theorem ofUtf8?_utf8 (t : Text) : ofUtf8? (utf8 t) = some t := by
  induction t with
  | nil => rfl
  | cons c t ih =>
    have hcons : utf8 (c :: t) = utf8Char c ++ utf8 t := rfl
    rw [hcons, ofUtf8?_utf8Char, ih, Option.map_some]

/-! ### UTF-16 -/

/-- A unit is read from its two bytes in their order. -/
theorem exists_bytes (order : ByteOrder) {n : Nat} (h : n < 0x10000) :
    ∃ a b, order.bytes n = [a, b] ∧ order.unit a b = n := by
  have hlow := UInt8.toNat_ofNat_of_lt' (show n % 0x100 < 0x100 by omega)
  have hhigh := UInt8.toNat_ofNat_of_lt' (show n / 0x100 < 0x100 by omega)
  cases order with
  | little => exact ⟨_, _, rfl, by rw [ByteOrder.unit, hlow, hhigh]; omega⟩
  | big => exact ⟨_, _, rfl, by rw [ByteOrder.unit, hlow, hhigh]; omega⟩

section Units

variable {order : ByteOrder} {a b c d : UInt8} {rest : Bytes}

theorem ofUnits_single (h : order.unit a b < 0xD800 ∨ 0xE000 ≤ order.unit a b) (position : Nat) :
    ofUnits order position (a :: b :: rest) =
      (ofUnits order (position + 2) rest).map (Char.ofNat (order.unit a b) :: ·) := by
  rw [ofUnits.eq_def]
  dsimp only
  rw [if_pos h]

theorem ofUnits_pair (hab : 0xD800 ≤ order.unit a b ∧ order.unit a b < 0xDC00)
    (hcd : 0xDC00 ≤ order.unit c d ∧ order.unit c d < 0xE000) (position : Nat) :
    ofUnits order position (a :: b :: c :: d :: rest) =
      (ofUnits order (position + 4) rest).map
        (Char.ofNat (0x10000 + (order.unit a b - 0xD800) * 0x400 + (order.unit c d - 0xDC00)) ::
          ·) := by
  rw [ofUnits.eq_def]
  dsimp only
  rw [if_neg (by omega), if_neg (by omega), if_pos hcd]

end Units

/-- The character at the head is read, be it one unit or a pair of them. -/
theorem ofUnits_utf16Char (order : ByteOrder) (position : Nat) (c : Char) (rest : Bytes) :
    ∃ behind, ofUnits order position (utf16Char order c ++ rest) =
      (ofUnits order behind rest).map (c :: ·) := by
  obtain ⟨hscalar, hrange⟩ := toNat_range c
  unfold utf16Char
  dsimp only
  split_ifs with h
  · obtain ⟨a, b, hbytes, hunit⟩ := exists_bytes order h
    refine ⟨position + 2, ?_⟩
    rw [hbytes, List.cons_append, List.cons_append, List.nil_append,
      ofUnits_single (by omega), hunit, Char.ofNat_toNat]
  · obtain ⟨a, b, hhigh, hab⟩ :=
      exists_bytes order (n := 0xD800 + (c.toNat - 0x10000) / 0x400) (by omega)
    obtain ⟨a', b', hlow, hab'⟩ :=
      exists_bytes order (n := 0xDC00 + (c.toNat - 0x10000) % 0x400) (by omega)
    have hvalue : 0x10000 + (order.unit a b - 0xD800) * 0x400 + (order.unit a' b' - 0xDC00) =
        c.toNat := by omega
    refine ⟨position + 4, ?_⟩
    rw [hhigh, hlow]
    simp only [List.cons_append, List.nil_append]
    rw [ofUnits_pair (by omega) (by omega), hvalue, Char.ofNat_toNat]

theorem ofUnits_flatMap (order : ByteOrder) (position : Nat) (t : Text) :
    ofUnits order position (t.flatMap (utf16Char order)) = .ok t := by
  induction t generalizing position with
  | nil => rfl
  | cons c t ih =>
    obtain ⟨behind, hread⟩ := ofUnits_utf16Char order position c (t.flatMap (utf16Char order))
    rw [List.flatMap_cons, hread, ih]
    rfl

theorem ofUtf16_utf16 (order : ByteOrder) (t : Text) : ofUtf16 (utf16 order t) = .ok t := by
  have hunits : ofUtf16 (utf16 order t) = ofUnits order 2 (t.flatMap (utf16Char order)) := by
    cases order <;> rfl
  rw [hunits, ofUnits_flatMap]

/-- What begins with a byte order mark is no UTF-8. -/
theorem ofUtf8?_utf16 (order : ByteOrder) (t : Text) : ofUtf8? (utf16 order t) = none := by
  cases order with
  | little => exact ofUtf8?_eq_none (a := 0xFF) (by decide) _
  | big => exact ofUtf8?_eq_none (a := 0xFE) (by decide) _

/-! ### Files of text -/

/-- The bytes of a text in an encoding. -/
def Scheme.encode : Scheme → Text → Bytes
  | .utf8, t => t.flatMap String.utf8EncodeChar
  | .utf16 order, t => Encoding.utf16 order t

/-- Whatever the encoding, a text is read back from its bytes but for its line ends. -/
theorem readText_encode (scheme : Scheme) (t : Text) :
    readText (scheme.encode t) = .ok (foldLineEnds t) := by
  unfold readText
  cases scheme with
  | utf8 =>
    have hbytes : Scheme.utf8.encode t = utf8 t :=
      congrArg t.flatMap (funext utf8Char_eq).symm
    rw [hbytes, ofUtf8?_utf8]
  | utf16 order =>
    have hbytes : (Scheme.utf16 order).encode t = utf16 order t := rfl
    rw [hbytes, ofUtf8?_utf16, ofUtf16_utf16]
    rfl

/-! ### Line ends -/

/-- The text without the carriage returns in front of line feeds. -/
def joinReturns : Text → Text
  | [] => []
  | c :: t => if c = '\r' ∧ t.head? = some '\n' then joinReturns t else c :: joinReturns t

/-- The text with a line feed for every carriage return and line feed, and then for every carriage
return that is left. -/
def lineFeeds (t : Text) : Text := (joinReturns t).map fun c => if c = '\r' then '\n' else c

/-- The text with a carriage return in front of every line feed. -/
def withReturns (t : Text) : Text := t.flatMap fun c => if c = '\n' then ['\r', '\n'] else [c]

theorem foldLineEnds_cons {c : Char} (h : c ≠ '\r') (t : Text) :
    foldLineEnds (c :: t) = c :: foldLineEnds t := by
  rw [foldLineEnds.eq_def]
  exact if_neg h

theorem foldLineEnds_eq (t : Text) : foldLineEnds t = lineFeeds t := by
  unfold lineFeeds
  induction t using foldLineEnds.induct with
  | case1 => rfl
  | case2 t ih => simp [foldLineEnds, joinReturns, ih]
  | case3 t hne ih =>
    have hhead : ¬t.head? = some '\n' := by
      cases t with
      | nil => simp
      | cons c t =>
        rintro ⟨⟩
        exact hne t rfl
    simp [foldLineEnds, joinReturns, hhead, ih]
  | case4 c t hc ih => simp [foldLineEnds_cons hc, joinReturns, hc, ih]

theorem lineFeeds_of_not_mem {t : Text} (h : '\r' ∉ t) : lineFeeds t = t := by
  rw [← foldLineEnds_eq]
  induction t with
  | nil => rfl
  | cons c t ih =>
    rw [List.mem_cons, not_or] at h
    rw [foldLineEnds_cons (Ne.symm h.1), ih h.2]

theorem lineFeeds_withReturns {t : Text} (h : '\r' ∉ t) : lineFeeds (withReturns t) = t := by
  rw [← foldLineEnds_eq]
  induction t with
  | nil => rfl
  | cons c t ih =>
    rw [List.mem_cons, not_or] at h
    have hrest : foldLineEnds (withReturns t) = t := ih h.2
    have hcons : withReturns (c :: t) =
        (if c = '\n' then ['\r', '\n'] else [c]) ++ withReturns t := rfl
    rw [hcons]
    split_ifs with hc
    · rw [hc]
      exact congrArg ('\n' :: ·) hrest
    · rw [List.singleton_append, foldLineEnds_cons (Ne.symm h.1), hrest]

end Encoding

namespace Mapping

open Encoding (Scheme lineFeeds withReturns)

/-- The outline of a file is that of its text with line feeds for all line ends, whatever the
encoding of the file. A text without carriage returns has the same outline, offsets included, with
a carriage return in front of every line feed. -/
theorem outline_encoded (m : Mapping) {d : Disk} {p : Path} {scheme : Scheme} {t : Text}
    (h : d.content? p = some (scheme.encode t)) :
    m.outline d p = .ok (Outline.read m.options (lineFeeds t)) ∧
      ∀ u, '\r' ∉ u → t = u ∨ t = withReturns u →
        m.outline d p = .ok (Outline.read m.options u) := by
  have hread : m.outline d p = .ok (Outline.read m.options (lineFeeds t)) := by
    unfold Mapping.outline Disk.readText
    rw [h]
    dsimp only
    rw [Encoding.readText_encode, Encoding.foldLineEnds_eq]
    rfl
  refine ⟨hread, ?_⟩
  intro u hu ht
  have hfeeds : lineFeeds t = u := by
    rcases ht with rfl | rfl
    · exact Encoding.lineFeeds_of_not_mem hu
    · exact Encoding.lineFeeds_withReturns hu
  rw [hread, hfeeds]

/-- A file with a character of two units, in UTF-16 with the large byte first. -/
theorem outline_encoded_pair :
    let m : Mapping := ⟨.default, .sqlite⟩
    let u : Text := "* ä\n𝄞 <2020-01-01>\n".toList
    let t : Text := "* ä\r\n𝄞 <2020-01-01>\r\n".toList
    let p : Path := ["a.org".toList]
    let d : Disk := { files := [(p, (Scheme.utf16 .big).encode t)] }
    d.content? p = some ((Scheme.utf16 .big).encode t) ∧ '\r' ∉ u ∧ t = withReturns u ∧
      m.outline d p = .ok (Outline.read m.options (lineFeeds t)) ∧
      m.outline d p = .ok (Outline.read m.options u) := by
  intro m u t p d
  have h : d.content? p = some ((Scheme.utf16 .big).encode t) := by decide +kernel
  have hu : '\r' ∉ u := by decide
  have ht : t = withReturns u := by decide
  obtain ⟨hfeeds, hall⟩ := outline_encoded m h
  exact ⟨h, hu, ht, hfeeds, hall u hu (Or.inr ht)⟩

end Mapping

end OutlineTables
