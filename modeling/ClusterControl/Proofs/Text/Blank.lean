import ClusterControl.Text.Blank
import Mathlib.Data.List.TakeWhile

/-!
# Trimmed texts

What is left of a text when the blank characters at its ends are taken off: all of it but blanks,
beginning and ending with other characters.

* `Trimmed` — one list of characters is what is left of another one.
* `trimmed_trimChars` — it is what trimming leaves.
-/

namespace ClusterControl

/-- The list of characters is this word between blanks, and no blank stands at either end of the
word. -/
structure Trimmed (cs word : List Char) : Prop where
  around : ∃ before after, cs = before ++ (word ++ after) ∧ (∀ c ∈ before, isBlank c = true) ∧
    ∀ c ∈ after, isBlank c = true
  first : ∀ c, word.head? = some c → isBlank c = false
  last : ∀ c, word.getLast? = some c → isBlank c = false

theorem head?_dropWhile_isBlank {cs : List Char} {c : Char}
    (h : (cs.dropWhile isBlank).head? = some c) : isBlank c = false := by
  have hhead := List.head?_dropWhile_not isBlank cs
  rw [h] at hhead
  exact hhead

theorem trimmed_trimChars (cs : List Char) : Trimmed cs (trimChars cs) := by
  have hfront := List.takeWhile_append_dropWhile (p := isBlank) (l := cs)
  have hback : cs.dropWhile isBlank =
      trimChars cs ++ ((cs.dropWhile isBlank).reverse.takeWhile isBlank).reverse := by
    rw [trimChars, ← List.reverse_append, List.takeWhile_append_dropWhile, List.reverse_reverse]
  constructor
  · refine ⟨cs.takeWhile isBlank, ((cs.dropWhile isBlank).reverse.takeWhile isBlank).reverse,
      ?_, ?_, ?_⟩
    · rw [← hback, hfront]
    · intro c hc
      exact List.mem_takeWhile_imp hc
    · intro c hc
      exact List.mem_takeWhile_imp (List.mem_reverse.mp hc)
  · intro c hc
    have hhead : (cs.dropWhile isBlank).head? = some c := by
      rw [hback, List.head?_append, hc]
      rfl
    exact head?_dropWhile_isBlank hhead
  · intro c hc
    rw [trimChars, List.getLast?_reverse] at hc
    exact head?_dropWhile_isBlank hc

end ClusterControl
