/-!
# Cutting texts

A text is cut at a mark into the parts before, between and after the marks. There is always one
part more than there are marks. A line ends at a line feed, or at a carriage return with a line feed
behind it.
-/

set_option autoImplicit false

namespace Lockstep

/-- The parts of a text between the marks. -/
def cutAt (mark : Char) : List Char → List (List Char)
  | [] => [[]]
  | character :: rest =>
    if character = mark then [] :: cutAt mark rest
    else
      match cutAt mark rest with
      | part :: parts => (character :: part) :: parts
      | [] => [[character]]

/-- The first line of a text in which every line has an end. -/
def firstLine (text : String) : String :=
  let line := text.toList.takeWhile (· ≠ '\n')
  String.ofList (if line.getLast? = some '\r' then line.dropLast else line)

theorem length_cutAt (mark : Char) (text : List Char) :
    (cutAt mark text).length = text.count mark + 1 := by
  induction text with
  | nil => rfl
  | cons character rest inductionHypothesis =>
    by_cases here : character = mark
    · simp [cutAt, here, inductionHypothesis]
    · -- There always is a part for the character to go to.
      obtain ⟨part, parts, cut⟩ : ∃ part parts, cutAt mark rest = part :: parts :=
        List.exists_cons_of_ne_nil fun none => by simp [none] at inductionHypothesis
      rw [cut] at inductionHypothesis
      simpa [cutAt, here, cut] using inductionHypothesis

end Lockstep
