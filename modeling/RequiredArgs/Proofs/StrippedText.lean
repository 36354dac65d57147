/-
# Text without what stands around it

`Text.stripWhile` takes the characters of a class off both ends of a text, first from the front and then
from the back. `Text.Strips` says the same without an order: what is left stands in the text, only
characters of the class stand around it, and it neither starts nor ends with one. There is one text that
is left in this way, and it is the one that is computed (`Text.strips_stripWhile`, `Text.Strips.eq`).

Import paths are read through two such classes, white space and quotation marks.
-/

import Mathlib.Data.List.DropRight
import RequiredArgs.Text.Blank

namespace RequiredArgs
namespace Text

/-- `out` is what is left of `cs` without the characters in `p` around it. -/
structure Strips (p : Char → Bool) (cs out : List Char) : Prop where
  around : ∃ front back, cs = front ++ out ++ back ∧ (∀ c ∈ front, p c = true) ∧ ∀ c ∈ back, p c = true
  first : ∀ c, out.head? = some c → p c = false
  last : ∀ c, out.getLast? = some c → p c = false

variable {p : Char → Bool} {cs out : List Char}

/-- The head that lies in `p` is dropped, up to a character that does not. -/
theorem dropWhile_front {front rest : List Char} (hfront : ∀ c ∈ front, p c = true)
    (hrest : ∀ c, rest.head? = some c → p c = false) : (front ++ rest).dropWhile p = rest := by
  rw [List.dropWhile_append_of_pos hfront]
  cases rest with
  | nil => rfl
  | cons c rest => exact List.dropWhile_cons_of_neg (by simp [hrest c rfl])

/-- **What is computed is what is left**: each pass stops at a character that is not in `p`, and the two
passes put back around the result give the text. -/
theorem strips_stripWhile (p : Char → Bool) (cs : List Char) : Strips p cs (stripWhile p cs) := by
  have hmid : stripWhile p cs = (cs.dropWhile p).rdropWhile p := rfl
  have hparts : stripWhile p cs ++ (cs.dropWhile p).rtakeWhile p = cs.dropWhile p := by
    rw [hmid, List.rdropWhile_append_rtakeWhile]
  refine ⟨⟨cs.takeWhile p, (cs.dropWhile p).rtakeWhile p, ?_, ?_, ?_⟩, ?_, ?_⟩
  · rw [List.append_assoc, hparts, List.takeWhile_append_dropWhile]
  · exact fun c hc => List.mem_takeWhile_imp hc
  · exact fun c hc => List.mem_rtakeWhile_imp hc
  · intro c hc
    have hhead : (cs.dropWhile p).head? = some c := by
      rw [← hparts, List.head?_append, hc, Option.some_or]
    have hnot := List.head?_dropWhile_not p cs
    rwa [hhead] at hnot
  · intro c hc
    have hhead : ((cs.dropWhile p).reverse.dropWhile p).head? = some c := by
      rwa [stripWhile, dropTailWhile, List.getLast?_reverse] at hc
    have hnot := List.head?_dropWhile_not p (cs.dropWhile p).reverse
    rwa [hhead] at hnot

/-- **There is only one way to strip a text.** -/
theorem Strips.eq (h : Strips p cs out) : stripWhile p cs = out := by
  obtain ⟨front, back, rfl, hfront, hback⟩ := h.around
  cases out with
  | nil =>
    -- nothing is left, so all characters lie in `p` and the first pass drops them
    have hall : ∀ c ∈ front ++ [] ++ back, p c = true := by
      simpa [or_imp, forall_and] using ⟨hfront, hback⟩
    rw [stripWhile, List.dropWhile_eq_nil_iff.2 hall]
    rfl
  | cons c out =>
    have hdrop : (front ++ (c :: out ++ back)).dropWhile p = c :: out ++ back :=
      dropWhile_front hfront fun d hd => h.first d hd
    have htail : (back.reverse ++ (c :: out).reverse).dropWhile p = (c :: out).reverse := by
      refine dropWhile_front (by simpa using hback) fun d hd => h.last d ?_
      rwa [List.head?_reverse] at hd
    rw [stripWhile, List.append_assoc, hdrop, dropTailWhile, List.reverse_append, htail,
      List.reverse_reverse]

/-- A text that holds no character of the class is left of itself with any such characters around it. -/
theorem strips_around (hout : ∀ c ∈ out, p c = false) {front back : List Char}
    (hfront : ∀ c ∈ front, p c = true) (hback : ∀ c ∈ back, p c = true) :
    Strips p (front ++ out ++ back) out where
  around := ⟨front, back, rfl, hfront, hback⟩
  first c hc := hout c (List.mem_of_head? hc)
  last c hc := hout c (List.mem_of_getLast? hc)

/-- A text that holds no character of the class is left as it is. -/
theorem stripWhile_eq_self (hcs : ∀ c ∈ cs, p c = false) : stripWhile p cs = cs := by
  have hstrips := strips_around hcs (List.forall_mem_nil _) (List.forall_mem_nil _)
  rw [List.nil_append, List.append_nil] at hstrips
  exact hstrips.eq

end Text
end RequiredArgs
