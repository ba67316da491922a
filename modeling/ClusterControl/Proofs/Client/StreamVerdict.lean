import ClusterControl.Client.Termination
import Mathlib.Data.List.Infix

/-!
# The verdict on the end of a stream

A connection that was given up by its caller may say so in a message of its own wording: a fixed
beginning, anything, and a fixed end.  The wording is recognised by the beginning, the end and the
number of bytes of the message.  This module proves that these three say exactly that the message
can be taken apart in this way, whatever characters it is made of, and with it what the verdict on
every end of a stream is.

* `enclosed_of_fits` — a text that is long enough for both its ends has them side by side.
* `mem_of_overlap` — in a text that is too short for that, every character belongs to one of them.
* `isCancelMessage_iff` — which messages say that the caller gave up.
* `classify_exact` — which ends are the caller's doing, which are clean, and which are failures.
-/

namespace ClusterControl
namespace Termination

/-- The caller gave up, as far as a status can tell. -/
def GaveUp (status : Status) : Prop :=
  status.code = .canceled ∨ status.code = .deadlineExceeded ∨
    status.code = .unavailable ∧ (status.message = "client disconnected" ∨
      ∃ middle : String, status.message = "stream error: " ++ middle ++ "; CANCEL")

/-! ## Texts with a beginning and an end -/

/-- A text that is long enough for its beginning and its end has them side by side, with something
in between. -/
theorem enclosed_of_fits {head tail cs : List Char} (hhead : head <+: cs) (htail : tail <:+ cs)
    (hlength : head.length + tail.length ≤ cs.length) : ∃ middle, cs = head ++ middle ++ tail := by
  obtain ⟨rest, rfl⟩ := hhead
  have fits : tail.length ≤ rest.length := by
    rw [List.length_append] at hlength
    omega
  obtain ⟨middle, rfl⟩ := List.suffix_of_suffix_length_le htail (List.suffix_append head rest) fits
  exact ⟨middle, (List.append_assoc head middle tail).symm⟩

/-- If a text is too short for its beginning and its end, every character belongs to one of them. -/
theorem mem_of_overlap {head tail cs : List Char} (hhead : head <+: cs) (htail : tail <:+ cs)
    (hlength : cs.length < head.length + tail.length) {c : Char} (hc : c ∈ cs) :
    c ∈ head ∨ c ∈ tail := by
  obtain ⟨rest, rfl⟩ := hhead
  have short : rest.length ≤ tail.length := by
    rw [List.length_append] at hlength
    omega
  have within := List.suffix_of_suffix_length_le (List.suffix_append head rest) htail short
  rcases List.mem_append.mp hc with hc | hc
  · exact Or.inl hc
  · exact Or.inr (within.subset hc)

/-- A text of characters of one byte each has as many bytes as characters. -/
theorem utf8ByteSize_of_single {cs : List Char} (h : ∀ c ∈ cs, c.utf8Size = 1) :
    (String.ofList cs).utf8ByteSize = cs.length := by
  induction cs with
  | nil => rfl
  | cons c cs ih =>
    have hcs := ih fun d hd => h d (List.mem_cons_of_mem c hd)
    have hc : (String.ofList [c]).utf8ByteSize = 1 := by
      rw [← String.singleton_eq_ofList, String.utf8ByteSize_singleton, h c List.mem_cons_self]
    have split : String.ofList (c :: cs) = String.ofList [c] ++ String.ofList cs := by
      rw [← String.ofList_append, List.singleton_append]
    rw [split, String.utf8ByteSize_append, hc, hcs, List.length_cons, Nat.add_comm]

/-! ## Messages -/

/-- The characters of both ends of a message of a cancelled stream take one byte each. -/
theorem utf8Size_mark {c : Char} (h : c ∈ streamErrorHead.toList ∨ c ∈ cancelEnd.toList) :
    c.utf8Size = 1 := by
  have marks : (streamErrorHead.toList ++ cancelEnd.toList).all (·.utf8Size == 1) = true := by rfl
  exact eq_of_beq (List.all_eq_true.mp marks c (List.mem_append.mpr h))

/-- A message that has both ends of a message of a cancelled stream, and at least as many bytes as
they have together, has them side by side.  Counting characters would come to the same: where the
ends overlap, the message has no characters but theirs. -/
theorem enclosed_of_marked {message : String}
    (hhead : streamErrorHead.toList <+: message.toList)
    (htail : cancelEnd.toList <:+ message.toList)
    (hsize : streamErrorHead.utf8ByteSize + cancelEnd.utf8ByteSize ≤ message.utf8ByteSize) :
    ∃ middle, message = streamErrorHead ++ middle ++ cancelEnd := by
  have fits : streamErrorHead.toList.length + cancelEnd.toList.length ≤ message.toList.length := by
    by_contra hshort
    have single : ∀ c ∈ message.toList, c.utf8Size = 1 := fun c hc =>
      utf8Size_mark (mem_of_overlap hhead htail (Nat.lt_of_not_le hshort) hc)
    have bytes := utf8ByteSize_of_single single
    rw [String.ofList_toList] at bytes
    have marks : streamErrorHead.utf8ByteSize + cancelEnd.utf8ByteSize =
        streamErrorHead.toList.length + cancelEnd.toList.length := by decide
    omega
  obtain ⟨middle, heq⟩ := enclosed_of_fits hhead htail fits
  refine ⟨String.ofList middle, ?_⟩
  apply String.toList_injective
  rw [heq, String.toList_append, String.toList_append, String.toList_ofList]

/-- A message says that the caller gave up if and only if it is that of a connection whose caller
left, or what it says of a failed stream ends in the word for a cancelled one. -/
theorem isCancelMessage_iff (message : String) :
    isCancelMessage message = true ↔ message = "client disconnected" ∨
      ∃ middle : String, message = "stream error: " ++ middle ++ "; CANCEL" := by
  unfold isCancelMessage
  simp only [Bool.or_eq_true, Bool.and_eq_true, decide_eq_true_eq, List.isPrefixOf_iff_prefix,
    List.isSuffixOf_iff_suffix]
  refine or_congr Iff.rfl ⟨fun h => enclosed_of_marked h.1.2 h.2 h.1.1, ?_⟩
  rintro ⟨middle, rfl⟩
  refine ⟨⟨?_, ?_⟩, ?_⟩
  · show streamErrorHead.utf8ByteSize + cancelEnd.utf8ByteSize ≤
      (streamErrorHead ++ middle ++ cancelEnd).utf8ByteSize
    rw [String.utf8ByteSize_append, String.utf8ByteSize_append]
    omega
  · rw [String.toList_append, String.toList_append, List.append_assoc]
    exact List.prefix_append _ _
  · rw [String.toList_append]
    exact List.suffix_append _ _

/-! ## The verdict -/

/-- The verdict on a failed stream whose caller did not give up by itself. -/
theorem classify_failed (status : Status) :
    (GaveUp status → classify false (.failed status) = .callerCancelled) ∧
      (¬ GaveUp status → classify false (.failed status) = .transportFailure status) := by
  obtain ⟨code, message⟩ := status
  have wording := isCancelMessage_iff message
  cases code with
  | unavailable =>
    simp only [GaveUp, classify, ← wording]
    cases isCancelMessage message <;> simp
  | _ => simp [GaveUp, classify]

/-- The end of a stream is the caller's doing if and only if the caller's own context was done, or
the status that the stream failed with says so by its code, or it is that of an unreachable server
with a message that says so.  It is clean if and only if the server closed the stream first.  In
every other case it is a failure, and the status is passed on as it is. -/
theorem classify_exact (contextDone : Bool) (met : StreamEnd) :
    (classify contextDone met = .callerCancelled ↔
      contextDone = true ∨ ∃ status, met = .failed status ∧ GaveUp status) ∧
    (classify contextDone met = .cleanEof ↔ contextDone = false ∧ met = .closed) ∧
    ∀ status, classify contextDone met = .transportFailure status ↔
      contextDone = false ∧ met = .failed status ∧ ¬ GaveUp status := by
  cases contextDone with
  | true => simp [classify]
  | false =>
    cases met with
    | closed => simp [classify]
    | failed status =>
      obtain ⟨gaveUp, broke⟩ := classify_failed status
      by_cases h : GaveUp status
      · simp [gaveUp h, h]
      · simp [broke h, h]

end Termination
end ClusterControl
