import ClusterControl.Nodes.Echo
import ClusterControl.Proofs.Text.Utf8
import Mathlib.Data.List.TakeWhile
import Mathlib.Tactic

/-!
# What is shown of a node's output

A stream has exactly one division into lines, and the reader takes them one by one.  It prints those
that are texts.  At one that is no text it returns, although the stream goes on, so that the lines
behind it are not shown and the node writes to a stream that nobody reads.

* `Divides`, `divides_iff` — the lines of a stream.
* `written_eq` — a line is its text and its end.
* `returned_read`, `printed_finish_read` — whether the reader has returned after some bytes and what
  it has printed at the end of the stream, from the bytes alone.
* `streams_mirrored` — the theorem.
* `stream_abandoned` — a stream that is not read to its end.
-/

namespace ClusterControl
namespace Echo

variable {label : String} {bytes pending : List UInt8} {ls : List RawLine}

/-! ## Lines -/

/-- The bytes of a line with its end. -/
def RawLine.written (l : RawLine) : List UInt8 :=
  l.bytes ++ if l.ended then [lineFeed] else []

/-- A stream falls into these lines: each of them is ended by the only line feed in it, save that
the last one need not have an end if it has anything else. -/
structure Divides (ls : List RawLine) (bytes : List UInt8) : Prop where
  whole : ls.flatMap RawLine.written = bytes
  inside : ∀ l ∈ ls, lineFeed ∉ l.bytes
  ended : ∀ l ∈ ls.dropLast, l.ended = true
  begun : ∀ l ∈ ls, l.ended = false → l.bytes ≠ []

theorem rawLinesFrom_cons_of_ne {b : UInt8} (h : b ≠ lineFeed) (rest : List UInt8) :
    rawLinesFrom pending (b :: rest) = rawLinesFrom (b :: pending) rest :=
  if_neg h

theorem rawLinesFrom_lineFeed (pending rest : List UInt8) :
    rawLinesFrom pending (lineFeed :: rest) =
      ⟨pending.reverse, true⟩ :: rawLinesFrom [] rest :=
  if_pos rfl

/-- Bytes without a line feed go on with the line that has begun. -/
theorem rawLinesFrom_append (h : lineFeed ∉ bytes) (rest : List UInt8) :
    rawLinesFrom pending (bytes ++ rest) = rawLinesFrom (bytes.reverse ++ pending) rest := by
  induction bytes generalizing pending with
  | nil => rfl
  | cons b more ih =>
    obtain ⟨hb, hmore⟩ := not_or.mp (mt List.mem_cons.mpr h)
    rw [List.cons_append, rawLinesFrom_cons_of_ne (Ne.symm hb), ih hmore, List.reverse_cons,
      List.append_assoc, List.singleton_append]

/-- The lines of a stream, of which one has begun before, divide it. -/
theorem divides_rawLinesFrom (h : lineFeed ∉ pending) :
    Divides (rawLinesFrom pending bytes) (pending.reverse ++ bytes) := by
  induction bytes generalizing pending with
  | nil =>
    unfold rawLinesFrom
    cases pending with
    | nil => constructor <;> simp
    | cons b more =>
      have inside : lineFeed ∉ (b :: more).reverse := mt List.mem_reverse.mp h
      refine ⟨?_, fun l hl => ?_, fun l hl => absurd hl List.not_mem_nil, fun l hl _ => ?_⟩
      · simp [RawLine.written]
      · rw [List.mem_singleton.mp hl]
        exact inside
      · rw [List.mem_singleton.mp hl]
        simp
  | cons b rest ih =>
    by_cases hb : b = lineFeed
    · subst hb
      have others : Divides (rawLinesFrom [] rest) rest := ih List.not_mem_nil
      rw [rawLinesFrom_lineFeed]
      refine ⟨?_, ?_, ?_, ?_⟩
      · rw [List.flatMap_cons, others.whole]
        simp [RawLine.written]
      · intro l hl
        rcases List.mem_cons.mp hl with rfl | hl
        · simpa using h
        · exact others.inside l hl
      · intro l hl
        cases hrest : rawLinesFrom [] rest with
        | nil => simp [hrest] at hl
        | cons second more =>
          rw [hrest, List.dropLast_cons_cons] at hl
          rcases List.mem_cons.mp hl with rfl | hl
          · rfl
          · exact others.ended l (hrest ▸ hl)
      · intro l hl hopen
        rcases List.mem_cons.mp hl with rfl | hl
        · exact absurd hopen Bool.noConfusion
        · exact others.begun l hl hopen
    · rw [rawLinesFrom_cons_of_ne hb]
      have larger : lineFeed ∉ b :: pending := by simpa [Ne.symm hb] using h
      simpa using ih larger

/-- A stream falls into its lines in no other way. -/
theorem eq_rawLines_of_divides (h : Divides ls bytes) : ls = rawLines bytes := by
  induction ls generalizing bytes with
  | nil =>
    obtain rfl : [] = bytes := h.whole
    rfl
  | cons l rest ih =>
    have inside := h.inside l List.mem_cons_self
    have whole : l.written ++ rest.flatMap RawLine.written = bytes := h.whole
    obtain ⟨text, ended⟩ := l
    cases ended with
    | false =>
      -- nothing comes after a line that has no end
      have last : rest = [] := by
        cases rest with
        | nil => rfl
        | cons second more => exact absurd (h.ended ⟨text, false⟩ (by simp)) Bool.false_ne_true
      subst last
      have begun : text ≠ [] := h.begun ⟨text, false⟩ List.mem_cons_self rfl
      obtain rfl : text = bytes := by simpa [RawLine.written] using whole
      have step : rawLinesFrom [] text = rawLinesFrom (text.reverse ++ []) [] := by
        rw [← rawLinesFrom_append inside, List.append_nil]
      simp [rawLines, step, rawLinesFrom, begun]
    | true =>
      have others : Divides rest (rest.flatMap RawLine.written) := by
        refine ⟨rfl, fun l hl => h.inside l (List.mem_cons_of_mem _ hl), fun l hl => ?_,
          fun l hl => h.begun l (List.mem_cons_of_mem _ hl)⟩
        cases rest with
        | nil => exact absurd hl List.not_mem_nil
        | cons second more =>
          exact h.ended l (by rw [List.dropLast_cons_cons]; exact List.mem_cons_of_mem _ hl)
      subst whole
      have step : rawLinesFrom [] (text ++ lineFeed :: rest.flatMap RawLine.written) =
          ⟨(text.reverse ++ []).reverse, true⟩ :: rawLines (rest.flatMap RawLine.written) := by
        rw [rawLinesFrom_append inside, rawLinesFrom_lineFeed, rawLines]
      have here : (⟨text, true⟩ : RawLine).written ++ rest.flatMap RawLine.written =
          text ++ lineFeed :: rest.flatMap RawLine.written := by
        simp [RawLine.written]
      rw [rawLines, here, step, ← ih others]
      simp

/-- A stream has exactly one division into lines. -/
theorem divides_iff : Divides ls bytes ↔ ls = rawLines bytes := by
  constructor
  · exact eq_rawLines_of_divides
  · rintro rfl
    exact divides_rawLinesFrom List.not_mem_nil

/-- What stands behind the text of a line: a line feed, which a carriage return may precede, or
nothing if the stream ends there. -/
def RawLine.ending (l : RawLine) : List UInt8 :=
  if l.ended then
    if l.bytes.getLast? = some carriageReturn then [carriageReturn, lineFeed] else [lineFeed]
  else []

theorem written_eq (l : RawLine) : l.written = l.content ++ l.ending := by
  obtain ⟨text, ended⟩ := l
  cases ended with
  | false => simp [RawLine.written, RawLine.content, RawLine.ending]
  | true =>
    by_cases h : text.getLast? = some carriageReturn
    · obtain ⟨front, rfl⟩ := List.getLast?_eq_some_iff.mp h
      simp [RawLine.written, RawLine.content, RawLine.ending]
    · simp [RawLine.written, RawLine.content, RawLine.ending, h]

/-- What is printed are the lines up to the first one that is no text. -/
theorem map_some_texts (label : String) (ls : List RawLine) :
    ((texts ls).map (labelled label)).map some =
      (ls.map fun l => l.text?.map (labelled label)).takeWhile Option.isSome := by
  induction ls with
  | nil => rfl
  | cons l rest ih =>
    rw [texts, List.map_cons, List.takeWhile_cons]
    cases l.text? with
    | some text => exact congrArg (some (labelled label text) :: ·) ih
    | none => rfl

/-! ## The reader -/

namespace Reader

variable {printed : List String} {b : UInt8}

theorem takeByte_of_ne (h : b ≠ lineFeed) :
    takeByte label ⟨pending, printed, false⟩ b = ⟨b :: pending, printed, false⟩ :=
  if_neg h

/-- At the end of a line the reader prints it, if it is a text. -/
theorem takeByte_of_some {text : String}
    (h : (⟨pending.reverse, true⟩ : RawLine).text? = some text) :
    takeByte label ⟨pending, printed, false⟩ lineFeed =
      ⟨[], printed ++ [labelled label text], false⟩ := by
  simp [takeByte, take, h]

/-- Else it returns. -/
theorem takeByte_of_none (h : (⟨pending.reverse, true⟩ : RawLine).text? = none) :
    takeByte label ⟨pending, printed, false⟩ lineFeed = ⟨[], printed, true⟩ := by
  simp [takeByte, take, h]

theorem foldl_takeByte_of_returned {r : Reader} (h : r.returned = true) (bytes : List UInt8) :
    bytes.foldl (takeByte label) r = r := by
  induction bytes with
  | nil => rfl
  | cons b rest ih => rw [List.foldl_cons, takeByte, if_pos h, ih]

/-- In which pieces the bytes come makes no difference. -/
theorem read_eq_foldl (label : String) (r : Reader) (pieces : List (List UInt8)) :
    r.read label pieces = pieces.flatten.foldl (takeByte label) r :=
  List.foldl_flatten.symm

/-- The reader has returned if a line that has come to its end is no text. -/
theorem returned_foldl (pending : List UInt8) (printed : List String) (bytes : List UInt8) :
    (bytes.foldl (takeByte label) ⟨pending, printed, false⟩).returned =
      (rawLinesFrom pending bytes).any fun l => l.ended && l.text?.isNone := by
  induction bytes generalizing pending printed with
  | nil =>
    unfold rawLinesFrom
    split <;> simp
  | cons b rest ih =>
    rw [List.foldl_cons]
    by_cases hb : b = lineFeed
    · subst hb
      rw [rawLinesFrom_lineFeed, List.any_cons]
      cases htext : (⟨pending.reverse, true⟩ : RawLine).text? with
      | some text =>
        rw [takeByte_of_some htext, ih]
        simp
      | none =>
        rw [takeByte_of_none htext, foldl_takeByte_of_returned rfl]
        simp
    · rw [rawLinesFrom_cons_of_ne hb, takeByte_of_ne hb]
      exact ih (b :: pending) printed

/-- When the stream is at its end, the lines before the first one that is no text are printed. -/
theorem printed_finish_foldl (pending : List UInt8) (printed : List String) (bytes : List UInt8) :
    ((bytes.foldl (takeByte label) ⟨pending, printed, false⟩).finish label).printed =
      printed ++ (texts (rawLinesFrom pending bytes)).map (labelled label) := by
  induction bytes generalizing pending printed with
  | nil =>
    unfold rawLinesFrom
    by_cases hp : pending.isEmpty
    · simp [finish, hp, texts]
    · simp only [List.foldl_nil, finish, Bool.false_eq_true, if_false, hp, take, texts]
      split <;> simp
  | cons b rest ih =>
    rw [List.foldl_cons]
    by_cases hb : b = lineFeed
    · subst hb
      rw [rawLinesFrom_lineFeed, texts]
      cases htext : (⟨pending.reverse, true⟩ : RawLine).text? with
      | some text =>
        rw [takeByte_of_some htext, ih]
        simp
      | none =>
        rw [takeByte_of_none htext, foldl_takeByte_of_returned rfl]
        simp [finish]
    · rw [rawLinesFrom_cons_of_ne hb, takeByte_of_ne hb]
      exact ih (b :: pending) printed

/-- The reader of a whole stream prints what is printed of it. -/
theorem printed_finish_read (label : String) (pieces : List (List UInt8)) :
    ((({} : Reader).read label pieces).finish label).printed = lines label pieces.flatten := by
  rw [read_eq_foldl]
  exact printed_finish_foldl [] [] pieces.flatten

/-- It has returned before the end of the stream if it does not go on. -/
theorem returned_read (label : String) (pieces : List (List UInt8)) :
    (({} : Reader).read label pieces).returned = !goesOn pieces.flatten := by
  rw [read_eq_foldl, returned_foldl, goesOn, rawLines, List.not_all_eq_any_not]
  simp

end Reader

theorem goesOn_eq_false_iff :
    goesOn bytes = false ↔ ∃ l ∈ rawLines bytes, l.ended = true ∧ l.text? = none := by
  simp [goesOn]

/-! ## The theorem -/

/-- What becomes of a stream that comes in these pieces. -/
structure Mirrored (label : String) (pieces : List (List UInt8)) : Prop where
  -- it falls into its lines, each of which has a content and an end, in one way only
  divided : ∀ ls, Divides ls pieces.flatten ↔ ls = rawLines pieces.flatten
  written : ∀ l ∈ rawLines pieces.flatten, l.written = l.content ++ l.ending
  -- the content of a line is the text that these bytes are, if they are one
  text : ∀ l ∈ rawLines pieces.flatten, ∀ text, l.text? = some text ↔ Utf8.encode text = l.content
  -- the lines before the first one that is no text are printed, in order
  printed : ((({} : Reader).read label pieces).finish label).printed.map some =
    ((rawLines pieces.flatten).map fun l => l.text?.map (labelled label)).takeWhile Option.isSome
  -- so that all lines are printed if all are texts
  complete : (∀ l ∈ rawLines pieces.flatten, l.text?.isSome = true) →
    ((({} : Reader).read label pieces).finish label).printed.map some =
      (rawLines pieces.flatten).map fun l => l.text?.map (labelled label)
  -- the reader returns before the end of the stream at a line that is no text, and there only
  returns : (({} : Reader).read label pieces).returned = true ↔
    ∃ l ∈ rawLines pieces.flatten, l.ended = true ∧ l.text? = none
  -- and then it reads no more
  unread : (({} : Reader).read label pieces).returned = true → ∀ more,
    ({} : Reader).read label (pieces ++ more) = ({} : Reader).read label pieces

/-- **Streams are mirrored as far as they are texts**: whatever a node writes and in which pieces it
comes, each line is printed, with the label and without its end, up to the first line that is no
text; and the stream is read to its end unless a line before the end is no text. -/
theorem streams_mirrored (label : String) (pieces : List (List UInt8)) : Mirrored label pieces := by
  have printed : ((({} : Reader).read label pieces).finish label).printed.map some =
      ((rawLines pieces.flatten).map fun l => l.text?.map (labelled label)).takeWhile
        Option.isSome := by
    rw [Reader.printed_finish_read]
    exact map_some_texts label (rawLines pieces.flatten)
  refine ⟨fun ls => divides_iff, fun l _ => written_eq l, fun l _ text => Utf8.decode?_eq_some_iff,
    printed, fun all => ?_, ?_, fun returned more => ?_⟩
  · rw [printed]
    refine List.takeWhile_eq_self_iff.mpr fun text htext => ?_
    obtain ⟨l, hl, rfl⟩ := List.mem_map.mp htext
    simpa using all l hl
  · rw [Reader.returned_read, Bool.not_eq_true', goesOn_eq_false_iff]
  · rw [Reader.read_eq_foldl] at returned
    rw [Reader.read_eq_foldl, Reader.read_eq_foldl, List.flatten_append, List.foldl_append,
      Reader.foldl_takeByte_of_returned returned]

/-- **A stream that is not read to its end**: at a line of one byte that begins no character the
reader returns, and the line behind it is not printed. -/
theorem stream_abandoned :
    (rawLines [0xFF, 10, 111, 107, 10]).length = 2 ∧
    (({} : Reader).read "[node1]" [[0xFF, 10]]).returned = true ∧
    ((({} : Reader).read "[node1]" [[0xFF, 10], [111, 107, 10]]).finish "[node1]").printed =
      [] := by
  decide

end Echo
end ClusterControl
