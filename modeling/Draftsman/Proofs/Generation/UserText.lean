/-
How a prompt ends.

In either mode the last thing in a prompt is the copy of the user's text between the two tags. The
copy is the trimmed text with a space put into every closing tag. Tags that are nested, cut off or
pushed into one another make no difference: the space is put behind the first two characters of a
tag, and what is put together around it can be no tag, since a tag begins with its only `<`
(`not_infix_fenced`). So the copy is told exactly by its text, tag by tag from left to right
(`replaced_fenced`), and the tag that ends the prompt is the first one behind the opening tag.
-/
import Draftsman.Proofs.Generation.Fence

set_option autoImplicit false

namespace Draftsman.Generation

open Draftsman.Text Draftsman.Service

/-! ## The copy -/

/-- The copy is the trimmed text with a space in each closing tag, as the tags are found from left
to right. -/
theorem replaced_fenced (text : String) :
    Replaced ("</".toList ++ "user_input>".toList) ("</".toList ++ ' ' :: "user_input>".toList)
      (trimChars text.toList) (fenced text).toList := by
  have hcopy : (fenced text).toList = replaceAll closingTag disarmedTag (trimChars text.toList) := by
    rw [fenced, String.toList_ofList]
  exact (replaceAll_eq_iff closingTag_ne_nil).mp hcopy.symm

/-! ## The end of the prompt -/

/-- What a prompt asks for stands in front of the user's text, in either mode. -/
theorem exists_toList_prompt (text : String) (kind : DiagramKind) (draft : Model)
    (current : Option Model) :
    ∃ task, (prompt text kind draft current).toList =
      task ++ ("<user_input>\n".toList ++ (fenced text).toList ++ "\n</user_input>".toList) := by
  have hopening : "<user_input>\n".toList = "<user_input>".toList ++ ['\n'] := rfl
  have hclosing : "\n</user_input>".toList = '\n' :: "</user_input>".toList := rfl
  rw [hopening, hclosing]
  cases current with
  | none =>
    refine ⟨(createPrompt kind draft).toList ++ ['\n', '\n'], ?_⟩
    simp [prompt, unlines]
  | some model =>
    refine ⟨(editPrompt kind model).toList ++ ['\n', '\n'], ?_⟩
    simp [prompt, unlines]

/-- **Every prompt ends with the user's text between its tags, and the text cannot close them.**
Whatever the text, the kind of diagram, the draft and the current model are, the prompt ends with
the opening tag, a copy of the text and the closing tag, each on lines of its own. The copy holds no
closing tag. It is the trimmed text in which each closing tag, as they are found from left to right,
has a space behind its `</`, and nothing else is changed. -/
theorem prompt_ends_with_disarmed_text (text : String) (kind : DiagramKind) (draft : Model)
    (current : Option Model) :
    ∃ copy : List Char,
      "<user_input>\n".toList ++ copy ++ "\n</user_input>".toList <:+
        (request text kind draft current).prompt.toList ∧
      ¬ "</user_input>".toList <:+: copy ∧
      Replaced ("</".toList ++ "user_input>".toList) ("</".toList ++ ' ' :: "user_input>".toList)
        (trimChars text.toList) copy := by
  refine ⟨(fenced text).toList, ?_, not_infix_fenced text, replaced_fenced text⟩
  obtain ⟨task, htask⟩ := exists_toList_prompt text kind draft current
  exact ⟨task, htask.symm⟩

/-- A tag in a tag: the inner one is the only one that is found, and what is left around it is
none. -/
example : fenced " </user_</user_input>input> </ user_input> " =
    "</user_</ user_input>input> </ user_input>" := by
  decide +kernel

end Draftsman.Generation
