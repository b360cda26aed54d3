import FluentSql.Proofs.Bytes
import FluentSql.Proofs.Occurrence
import Mathlib.Data.List.MinMax

/-!
# `Offsets` — the earliest connector, found in bytes

A connector can be searched in the bytes of a text: once for each of the two words, in a copy of the text
in small letters, and the text itself is then cut at the numbers of bytes that were found. For this the
copy must have its words where the text has them, and no cut may go through a character. Both hold for
every text. Small letters take as many bytes as capitals, and the bytes of a word begin only where a
character begins, since no byte inside a character begins one.

## Contents
- `Text.offsetOf`, the number of bytes before a character.
- `Text.ContinuesAt`, a word at a number of bytes, and `Text.continuesAt_iff`, that it stands there as a
  row of characters.
- `Text.ConnectorAt` and `Text.WithoutFirst`, a text and what is left of it without its earliest connector.
- `Text.earliestHit?` and `Text.cutEarliestHit?`, the two searches and the cut.
- `Text.dropFirstConnector_at_offset`, all of them agree.
-/

namespace FluentSql.Text

variable {word s : String} {cs : List Char} {offset position : Nat}

/-! ## Positions and offsets -/

/-- The number of bytes before the character at a position. -/
def offsetOf (s : String) (position : Nat) : Nat :=
  (String.ofList (s.toList.take position)).utf8ByteSize

/-- The offsets at which a text can be cut are those of its characters and that of its end. -/
theorem isValid_iff_exists_offsetOf :
    String.Pos.Raw.IsValid s ⟨offset⟩ ↔ ∃ position, offset = offsetOf s position :=
  String.Pos.Raw.isValid_iff_exists_take_toList

theorem bytes_eq_append (s : String) (position : Nat) :
    bytes s = bytes (String.ofList (s.toList.take position)) ++
      bytes (String.ofList (s.toList.drop position)) := by
  rw [← bytes_append, ← String.ofList_append, List.take_append_drop, String.ofList_toList]

theorem take_offsetOf (s : String) (position : Nat) :
    (bytes s).take (offsetOf s position) = bytes (String.ofList (s.toList.take position)) := by
  rw [bytes_eq_append s position]
  exact List.take_left' (length_bytes _)

theorem drop_offsetOf (s : String) (position : Nat) :
    (bytes s).drop (offsetOf s position) = bytes (String.ofList (s.toList.drop position)) := by
  rw [bytes_eq_append s position]
  exact List.drop_left' (length_bytes _)

/-- Every character has bytes. -/
theorem offsetOf_lt {later : Nat} (hlt : position < later) (hs : position < s.toList.length) :
    offsetOf s position < offsetOf s later := by
  obtain ⟨count, rfl⟩ := Nat.exists_eq_add_of_lt hlt
  have hne : String.ofList ((s.toList.drop position).take (count + 1)) ≠ "" := by
    rw [Ne, String.ofList_eq_empty_iff, List.take_eq_nil_iff, List.drop_eq_nil_iff]
    omega
  rw [offsetOf, offsetOf, Nat.add_assoc, List.take_add, String.ofList_append,
    String.utf8ByteSize_append]
  exact Nat.lt_add_of_pos_right (utf8ByteSize_pos hne)

theorem offsetOf_foldCase (s : String) (position : Nat) :
    offsetOf (foldCase s) position = offsetOf s position := by
  have htake : String.ofList ((foldCase s).toList.take position) =
      foldCase (String.ofList (s.toList.take position)) := by
    rw [toList_foldCase, ← List.map_take, foldCase, String.toList_ofList]
  rw [offsetOf, htake, utf8ByteSize_foldCase, offsetOf]

/-! ## Words at an offset -/

/-- From the byte at the offset on, the text continues with the word, up to ASCII case. The word is given
    in small letters. -/
def ContinuesAt (word s : String) (offset : Nat) : Prop :=
  bytes word <+: ((bytes s).drop offset).map UInt8.toAsciiLower

instance (word s : String) (offset : Nat) : Decidable (ContinuesAt word s offset) :=
  inferInstanceAs (Decidable (_ <+: _))

theorem continuesAt_iff_foldCase :
    ContinuesAt word s offset ↔ bytes word <+: (bytes (foldCase s)).drop offset := by
  rw [bytes_foldCase, ← List.map_drop]
  rfl

theorem ContinuesAt.lt_utf8ByteSize (h : ContinuesAt word s offset) (hne : word ≠ "") :
    offset < s.utf8ByteSize := by
  have hword := utf8ByteSize_pos hne
  have hle := h.length_le
  rw [List.length_map, List.length_drop, length_bytes, length_bytes] at hle
  omega

/-- The bytes of a word stand in a text only where a character begins. -/
theorem isValid_of_isPrefix (hne : word ≠ "") (h : bytes word <+: (bytes s).drop offset) :
    String.Pos.Raw.IsValid s ⟨offset⟩ := by
  have hword := utf8ByteSize_pos hne
  have hlt : offset < s.utf8ByteSize := by
    have hle := h.length_le
    rw [List.length_drop, length_bytes, length_bytes] at hle
    omega
  rw [← length_bytes] at hword
  have hfirst : (bytes word)[0].IsUTF8FirstByte := String.isUTF8FirstByte_getUTF8Byte_zero
  rw [h.getElem hword, List.getElem_drop] at hfirst
  exact String.Pos.Raw.isValid_iff_isUTF8FirstByte.mpr (.inr ⟨hlt, hfirst⟩)

theorem occursAt_iff_isPrefix {keyword : List Char} :
    OccursAt keyword cs position ↔ keyword <+: (cs.drop position).map Char.toLower := by
  rw [List.prefix_iff_eq_take, ← List.map_take, eq_comm]
  rfl

/-- **Bytes and characters.** The bytes of a word stand at an offset exactly if this is the offset of a
    character from which on the characters of the word stand. -/
theorem continuesAt_iff (hne : word ≠ "") :
    ContinuesAt word s offset ↔
      ∃ position, offset = offsetOf s position ∧ OccursAt word.toList s.toList position := by
  have hat : ∀ position, OccursAt word.toList s.toList position ↔
      bytes word <+: (bytes (foldCase s)).drop (offsetOf s position) := by
    intro position
    rw [← offsetOf_foldCase, drop_offsetOf, bytes_prefix_bytes, String.toList_ofList,
      toList_foldCase, ← List.map_drop, occursAt_iff_isPrefix]
  rw [continuesAt_iff_foldCase]
  constructor
  · intro h
    obtain ⟨position, rfl⟩ := isValid_iff_exists_offsetOf.mp (isValid_of_isPrefix hne h)
    rw [offsetOf_foldCase] at h
    exact ⟨position, offsetOf_foldCase s position, (hat position).mpr h⟩
  · rintro ⟨position, rfl, h⟩
    exact (hat position).mp h

/-- What stands in the place of a word has as many bytes as the word. -/
theorem offsetOf_add (h : OccursAt word.toList s.toList position) :
    offsetOf s (position + word.toList.length) = offsetOf s position + word.utf8ByteSize := by
  have hfound : foldCase (String.ofList ((s.toList.drop position).take word.toList.length)) =
      word := by
    rw [foldCase, String.toList_ofList]
    exact (congrArg String.ofList h).trans String.ofList_toList
  have hsize := utf8ByteSize_foldCase
    (String.ofList ((s.toList.drop position).take word.toList.length))
  rw [hfound] at hsize
  rw [offsetOf, List.take_add, String.ofList_append, String.utf8ByteSize_append, ← hsize, offsetOf]

/-! ## Connectors among characters -/

/-- The connectors in small letters, each with the blank that follows it. -/
def connectorWords : List String :=
  ["and ", "or "]

theorem ne_empty_of_mem (hword : word ∈ connectorWords) : word ≠ "" := by
  rintro rfl
  exact absurd hword (by decide)

theorem afterConnector_eq (cs : List Char) :
    afterConnector cs = (afterKeyword "and ".toList cs).or (afterKeyword "or ".toList cs) :=
  rfl

theorem afterConnector_of_occursAt (hword : word ∈ connectorWords)
    (h : OccursAt word.toList cs 0) : afterConnector cs = some (cs.drop word.toList.length) := by
  have hafter := afterKeyword_of_occursAt h
  simp only [connectorWords, List.mem_cons, List.not_mem_nil, or_false] at hword
  rw [afterConnector_eq]
  rcases hword with rfl | rfl
  · rw [hafter, Option.some_or]
  · -- the two words differ in their first letters, so that the other one does not stand there
    have hand : ¬ OccursAt "and ".toList cs 0 := by
      intro hand
      cases cs with
      | nil => exact absurd hand (by decide)
      | cons c cs =>
        have ha : c.toLower = 'a' := (List.cons.inj hand).1
        have ho : c.toLower = 'o' := (List.cons.inj h).1
        exact absurd (ha.symm.trans ho) (by decide)
    rw [afterKeyword_eq_none hand, Option.none_or, hafter]

theorem afterConnector_eq_none (h : ∀ word ∈ connectorWords, ¬ OccursAt word.toList cs 0) :
    afterConnector cs = none := by
  rw [afterConnector_eq, afterKeyword_eq_none (h "and " (by decide)),
    afterKeyword_eq_none (h "or " (by decide)), Option.none_or]

theorem dropFirstConnectorChars_of_first (hword : word ∈ connectorWords)
    (h : OccursAt word.toList cs position)
    (hfirst : ∀ earlier < position, ∀ word ∈ connectorWords, ¬ OccursAt word.toList cs earlier) :
    dropFirstConnectorChars cs = cs.take position ++ cs.drop (position + word.toList.length) := by
  induction cs generalizing position with
  | nil => rw [dropFirstConnectorChars, List.take_nil, List.drop_nil, List.append_nil]
  | cons c cs ih =>
    cases position with
    | zero =>
      rw [dropFirstConnectorChars, afterConnector_of_occursAt hword h, Nat.zero_add]
      rfl
    | succ position =>
      have hrest := ih h fun earlier hlt => hfirst (earlier + 1) (Nat.succ_lt_succ hlt)
      rw [dropFirstConnectorChars, afterConnector_eq_none (hfirst 0 (Nat.succ_pos position)),
        Nat.add_right_comm]
      exact congrArg (c :: ·) hrest

theorem dropFirstConnectorChars_of_absent
    (h : ∀ position, ∀ word ∈ connectorWords, ¬ OccursAt word.toList cs position) :
    dropFirstConnectorChars cs = cs := by
  induction cs with
  | nil => rfl
  | cons c cs ih =>
    rw [dropFirstConnectorChars, afterConnector_eq_none (h 0)]
    exact congrArg (c :: ·) (ih fun position => h (position + 1))

/-! ## What is left of a text -/

/-- A connector stands at the offset, up to ASCII case. -/
def ConnectorAt (s : String) (offset : Nat) : Prop :=
  ∃ word ∈ connectorWords, ContinuesAt word s offset

instance (s : String) (offset : Nat) : Decidable (ConnectorAt s offset) :=
  inferInstanceAs (Decidable (∃ word ∈ connectorWords, ContinuesAt word s offset))

/-- What is left of a text without `count` bytes from the offset on. No character is cut in two. -/
structure Removed (s : String) (offset count : Nat) (rest : String) : Prop where
  starts : String.Pos.Raw.IsValid s ⟨offset⟩
  ends : String.Pos.Raw.IsValid s ⟨offset + count⟩
  remains : bytes rest = (bytes s).take offset ++ (bytes s).drop (offset + count)

/-- What is left of a text without the bytes of its earliest connector: all of it, if there is none. -/
structure WithoutFirst (s rest : String) : Prop where
  absent : (∀ offset, ¬ ConnectorAt s offset) → rest = s
  present : ∀ word ∈ connectorWords, ∀ offset, ContinuesAt word s offset →
    (∀ earlier < offset, ¬ ConnectorAt s earlier) → Removed s offset word.utf8ByteSize rest

/-- There is no more than one such text. -/
theorem WithoutFirst.unique {rest rest' : String} (h : WithoutFirst s rest)
    (h' : WithoutFirst s rest') : rest = rest' := by
  by_cases hsome : ∃ offset, ConnectorAt s offset
  · obtain ⟨word, hword, hat⟩ := Nat.find_spec hsome
    have hfirst : ∀ earlier < Nat.find hsome, ¬ ConnectorAt s earlier :=
      fun earlier hlt => Nat.find_min hsome hlt
    apply eq_of_bytes_eq
    rw [(h.present word hword _ hat hfirst).remains, (h'.present word hword _ hat hfirst).remains]
  · have hnone := not_exists.mp hsome
    rw [h.absent hnone, h'.absent hnone]

theorem connectorAt_offsetOf (hword : word ∈ connectorWords)
    (h : OccursAt word.toList s.toList position) : ConnectorAt s (offsetOf s position) :=
  ⟨word, hword, (continuesAt_iff (ne_empty_of_mem hword)).mpr ⟨position, rfl, h⟩⟩

theorem withoutFirst_dropFirstConnector (s : String) : WithoutFirst s (dropFirstConnector s) where
  absent h := by
    have hchars : ∀ position, ∀ word ∈ connectorWords, ¬ OccursAt word.toList s.toList position :=
      fun position word hword hoccurs => h _ (connectorAt_offsetOf hword hoccurs)
    rw [dropFirstConnector, dropFirstConnectorChars_of_absent hchars, String.ofList_toList]
  present word hword offset hat hfirst := by
    obtain ⟨position, rfl, hoccurs⟩ := (continuesAt_iff (ne_empty_of_mem hword)).mp hat
    have hchars : ∀ earlier < position, ∀ word ∈ connectorWords,
        ¬ OccursAt word.toList s.toList earlier := by
      intro earlier hlt word' hword' hoccurs'
      have hnil : word'.toList ≠ [] := mt String.toList_eq_nil_iff.mp (ne_empty_of_mem hword')
      exact hfirst _ (offsetOf_lt hlt (hoccurs'.lt_length hnil))
        (connectorAt_offsetOf hword' hoccurs')
    refine ⟨isValid_iff_exists_offsetOf.mpr ⟨position, rfl⟩,
      isValid_iff_exists_offsetOf.mpr ⟨_, (offsetOf_add hoccurs).symm⟩, ?_⟩
    rw [dropFirstConnector, dropFirstConnectorChars_of_first hword hoccurs hchars,
      ← offsetOf_add hoccurs, take_offsetOf, drop_offsetOf, String.ofList_append, bytes_append]

/-! ## Two searches and a cut -/

/-- The first offset at which the bytes of a word stand in a text. -/
def firstOffset? (word s : String) : Option Nat :=
  (List.range (s.utf8ByteSize + 1)).find? fun offset =>
    (bytes word).isPrefixOf ((bytes s).drop offset)

/-- The earliest of what is found, by one search for each connector, in the copy of the text in small
    letters: its offset and the number of its bytes. -/
def earliestHit? (s : String) : Option (Nat × Nat) :=
  (connectorWords.filterMap fun word =>
    (firstOffset? word (foldCase s)).map fun offset => (offset, word.utf8ByteSize)).argmin Prod.fst

/-- The text up to an offset, unless this is inside a character. -/
def textUntil? (s : String) (offset : Nat) : Option String :=
  (s.pos? ⟨offset⟩).map fun p => (s.sliceTo p).copy

/-- The text from an offset on, unless this is inside a character. -/
def textFrom? (s : String) (offset : Nat) : Option String :=
  (s.pos? ⟨offset⟩).map fun p => (s.sliceFrom p).copy

/-- The text without the bytes that are found, if it can be cut before and behind them. -/
def cutEarliestHit? (s : String) : Option String :=
  match earliestHit? s with
  | none => some s
  | some (offset, count) => do
    let before ← textUntil? s offset
    let behind ← textFrom? s (offset + count)
    return before ++ behind

theorem firstOffset?_eq_some_iff (hne : word ≠ "") :
    firstOffset? word (foldCase s) = some offset ↔
      ContinuesAt word s offset ∧ ∀ earlier < offset, ¬ ContinuesAt word s earlier := by
  simp only [firstOffset?, List.find?_range_eq_some, utf8ByteSize_foldCase,
    List.isPrefixOf_iff_prefix, ← continuesAt_iff_foldCase, List.mem_range, Bool.not_eq_true',
    ← Bool.not_eq_true]
  constructor
  · rintro ⟨h, -, hfirst⟩
    exact ⟨h, hfirst⟩
  · rintro ⟨h, hfirst⟩
    exact ⟨h, Nat.lt_succ_of_lt (h.lt_utf8ByteSize hne), hfirst⟩

theorem firstOffset?_eq_none_iff (hne : word ≠ "") :
    firstOffset? word (foldCase s) = none ↔ ∀ offset, ¬ ContinuesAt word s offset := by
  simp only [firstOffset?, List.find?_range_eq_none, utf8ByteSize_foldCase,
    List.isPrefixOf_iff_prefix, ← continuesAt_iff_foldCase, Bool.not_eq_true', ← Bool.not_eq_true]
  constructor
  · intro h offset hat
    exact h offset (Nat.lt_succ_of_lt (hat.lt_utf8ByteSize hne)) hat
  · intro h offset _
    exact h offset

/-- **The two searches.** Nothing is found only if there is no connector. -/
theorem not_connectorAt_of_earliestHit? (h : earliestHit? s = none) (offset : Nat) :
    ¬ ConnectorAt s offset := by
  rintro ⟨word, hword, hat⟩
  rw [earliestHit?, List.argmin_eq_none, List.filterMap_eq_nil_iff] at h
  have hnone := Option.map_eq_none_iff.mp (h word hword)
  exact (firstOffset?_eq_none_iff (ne_empty_of_mem hword)).mp hnone offset hat

/-- **The two searches.** What is found is the earliest connector. -/
theorem first_of_earliestHit? {count : Nat} (h : earliestHit? s = some (offset, count)) :
    ∃ word ∈ connectorWords, count = word.utf8ByteSize ∧ ContinuesAt word s offset ∧
      ∀ earlier < offset, ¬ ConnectorAt s earlier := by
  obtain ⟨word, hword, hhit⟩ := List.mem_filterMap.mp (List.argmin_mem h)
  obtain ⟨found, hfound, heq⟩ := Option.map_eq_some_iff.mp hhit
  cases heq
  have hat := (firstOffset?_eq_some_iff (ne_empty_of_mem hword)).mp hfound
  refine ⟨word, hword, rfl, hat.1, ?_⟩
  rintro earlier hlt ⟨other, hother, hat'⟩
  -- the search for the other word has found it there or before
  have hne := ne_empty_of_mem hother
  cases hfirst : firstOffset? other (foldCase s) with
  | none => exact (firstOffset?_eq_none_iff hne).mp hfirst earlier hat'
  | some first =>
    have hle : first ≤ earlier := by
      by_contra hlater
      exact ((firstOffset?_eq_some_iff hne).mp hfirst).2 earlier (Nat.lt_of_not_le hlater) hat'
    have hmem : (first, other.utf8ByteSize) ∈ connectorWords.filterMap fun word =>
        (firstOffset? word (foldCase s)).map fun offset => (offset, word.utf8ByteSize) :=
      List.mem_filterMap.mpr ⟨other, hother, by rw [hfirst]; rfl⟩
    have hmin : offset ≤ first := List.le_of_mem_argmin hmem h
    omega

/-- A text can be cut wherever no character is cut in two. -/
theorem exists_cut (h : String.Pos.Raw.IsValid s ⟨offset⟩) :
    ∃ before behind, textUntil? s offset = some before ∧ textFrom? s offset = some behind ∧
      bytes before = (bytes s).take offset ∧ bytes behind = (bytes s).drop offset := by
  have hpos : s.pos? ⟨offset⟩ = some (s.pos ⟨offset⟩ h) := by
    rw [String.pos?, String.Slice.pos?, dif_pos (by simpa using h)]
    rfl
  have hsplits := (s.pos ⟨offset⟩ h).splits
  have hsize : (bytes (s.sliceTo (s.pos ⟨offset⟩ h)).copy).length = offset := by
    rw [length_bytes]
    exact (congrArg String.Pos.Raw.byteIdx hsplits.offset_eq_rawEndPos).symm
  have hbytes := congrArg bytes hsplits.eq_append
  rw [bytes_append] at hbytes
  refine ⟨_, _, congrArg (Option.map _) hpos, congrArg (Option.map _) hpos, ?_, ?_⟩
  · rw [hbytes, List.take_left' hsize]
  · rw [hbytes, List.drop_left' hsize]

/-- **The cut** is always possible, and the earliest connector is what it takes away. -/
theorem cutEarliestHit?_eq (s : String) : cutEarliestHit? s = some (dropFirstConnector s) := by
  have hrest := withoutFirst_dropFirstConnector s
  unfold cutEarliestHit?
  cases hhit : earliestHit? s with
  | none => exact congrArg some (hrest.absent (not_connectorAt_of_earliestHit? hhit)).symm
  | some hit =>
    obtain ⟨offset, count⟩ := hit
    obtain ⟨word, hword, rfl, hat, hfirst⟩ := first_of_earliestHit? hhit
    have hremoved := hrest.present word hword offset hat hfirst
    obtain ⟨before, _, huntil, _, hbefore, _⟩ := exists_cut hremoved.starts
    obtain ⟨_, behind, _, hfrom, _, hbehind⟩ := exists_cut hremoved.ends
    have heq : before ++ behind = dropFirstConnector s := by
      apply eq_of_bytes_eq
      rw [bytes_append, hbefore, hbehind, hremoved.remains]
    simp only [huntil, hfrom, Option.bind_eq_bind, Option.bind_some]
    exact congrArg some heq

/-- **The earliest connector.** What remains of a text is the text without the bytes of its earliest
    connector, and nothing else is; the two searches in the copy, with the cut of the text itself at what
    they find, always succeed and leave the same. -/
theorem dropFirstConnector_at_offset (s : String) :
    (∀ rest, WithoutFirst s rest ↔ rest = dropFirstConnector s) ∧
      cutEarliestHit? s = some (dropFirstConnector s) := by
  refine ⟨fun rest => ?_, cutEarliestHit?_eq s⟩
  constructor
  · exact fun h => h.unique (withoutFirst_dropFirstConnector s)
  · rintro rfl
    exact withoutFirst_dropFirstConnector s

/-- A condition on a column whose name holds the letters of both connectors, behind others that take two
    bytes. -/
def wallCondition : String :=
  "\x60Größe der WAnd oder\x60 = ? OR 1"

/-- What the condition loses are the four bytes from the fifteenth on. -/
theorem dropFirstConnector_wallCondition :
    "and " ∈ connectorWords ∧ ContinuesAt "and " wallCondition 14 ∧
      (∀ earlier < 14, ¬ ConnectorAt wallCondition earlier) ∧
      Removed wallCondition 14 4 (dropFirstConnector wallCondition) ∧
      cutEarliestHit? wallCondition = some "\x60Größe der Woder\x60 = ? OR 1" := by
  obtain ⟨hrest, hcut⟩ := dropFirstConnector_at_offset wallCondition
  have hand : "and " ∈ connectorWords := by decide
  have hat : ContinuesAt "and " wallCondition 14 := by decide +kernel
  have hfirst : ∀ earlier < 14, ¬ ConnectorAt wallCondition earlier := by decide +kernel
  have htext : dropFirstConnector wallCondition = "\x60Größe der Woder\x60 = ? OR 1" := by
    decide +kernel
  exact ⟨hand, hat, hfirst, ((hrest _).mpr rfl).present _ hand 14 hat hfirst, htext ▸ hcut⟩

end FluentSql.Text
