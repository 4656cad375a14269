/-
What the commands print can be given back to them.

The document of an outcome holds the model under a key, and the text of a draft is a model
itself; either is found again, parses, and is read in spite of its sorted members. Models
are canonical whenever they are written: a candidate and a model from a file were read
before, and a draft is well formed. So the file that is printed stands for the same model,
and drawing it gives the same diagram (`documents_read_back`).
-/
import Draftsman.CommandLine.Run
import Draftsman.Proofs.Diagram.MemberOrder
import Draftsman.Proofs.Generation.Fallback

set_option autoImplicit false

namespace Draftsman.CommandLine

open Draftsman.Json Draftsman.Json.Grammar Draftsman.Generation Draftsman.Service

/-! ## Documents are plain -/

theorem plain_fallbackJson {n : Nat} (fallback : Option Fallback) :
    Plain (n + 1) (fallbackJson fallback) := by
  cases fallback with
  | none => exact .null
  | some reason => exact .object (by simp) (by simp [Plain.string])

theorem plain_outcomeJson {n : Nat} (o : Outcome) : Plain (n + 5) (outcomeJson o) :=
  .object (by simp) (by simp [Plain.string, plain_fallbackJson, Model.plain_toJson])

/-! ## Finding the model in a document -/

theorem modelPart_of_object {value : Json} {members : List (String × Json)}
    (h : value.get? "model" = some (.object members)) : modelPart value = .object members := by
  rw [modelPart, h]

theorem modelPart_of_none {value : Json} (h : value.get? "model" = none) :
    modelPart value = value := by
  rw [modelPart, h]

/-- No encoding of a model has a member that would be taken for the model. -/
theorem get?_toJson_model (m : Model) : m.toJson.get? "model" = none := by
  cases m <;> rfl

theorem exists_toJson_eq_object (m : Model) : ∃ members, m.toJson = .object members := by
  cases m <;> exact ⟨_, rfl⟩

theorem readModel_eq_ok {kind : DiagramKind} {text : String} {value : Json} {m : Model}
    (hparse : parse text = .ok value) (hread : Model.ofJson kind (modelPart value) = .ok m) :
    readModel kind text = .ok m := by
  rw [readModel, hparse]
  dsimp only
  rw [hread]

/-- Whatever is loaded is canonical. -/
theorem canonical_readModel {kind : DiagramKind} {text : String} {m : Model}
    (h : readModel kind text = .ok m) : m.Canonical := by
  unfold readModel at h
  split at h
  · exact absurd h (by simp)
  · split at h
    · exact absurd h (by simp)
    · rename_i hread
      exact Except.ok.inj h ▸ Model.canonical_ofJson hread

/-! ## Reading back -/

section Texts

variable {w : List Char} (hw : IsSpaces w)
include hw

/-- The text of a canonical model stands for it. -/
theorem readModel_text {m : Model} (h : m.Canonical) :
    readModel m.kind (m.text ++ String.ofList w) = .ok m := by
  have hplain : Plain maxDepth m.toJson := m.plain_toJson (n := 123)
  refine readModel_eq_ok (parse_pretty hplain hw) ?_
  rw [modelPart_of_none (by rw [get?_sorted hplain, get?_toJson_model, Option.map_none])]
  exact h.ofJson_sorted_toJson

/-- **The document of an outcome stands for its model**, if the model is canonical. The members
were sorted once when the document was made, and are sorted again when it is read. -/
theorem readModel_document {o : Outcome} (h : o.model.Canonical) :
    readModel o.kind (document o ++ String.ofList w) = .ok o.model := by
  have hplain : Plain maxDepth (outcomeJson o) := plain_outcomeJson (n := 122) o
  have hmodel : Plain 4 o.model.toJson := o.model.plain_toJson
  have hget : (outcomeJson o).sorted.sorted.get? "model" = some o.model.toJson.sorted.sorted := by
    rw [get?_sorted hplain.sorted, get?_sorted hplain]
    rfl
  refine readModel_eq_ok (parse_pretty hplain.sorted hw) ?_
  -- the model is found because it is an object, and it stays one when its members are sorted
  obtain ⟨members, hmembers⟩ := exists_toJson_eq_object o.model
  rw [hmembers] at hget
  rw [modelPart_of_object hget, ← sorted_object, ← sorted_object, ← hmembers,
    Model.ofJson_sorted hmodel.sorted]
  exact h.ofJson_sorted_toJson

end Texts

/-! ## Commands -/

section Commands

variable {m : Type → Type} [Monad m] [LawfulMonad m] {host : Host m}
  {path text : String} {kind : DiagramKind} {model : Model}

theorem readFile_eq (hfile : host.fileText path = pure (some text)) :
    readFile host path = (pure text : Run m String) := by
  refine ExceptT.ext ?_
  simp [readFile, hfile]

theorem loadModel_eq (hfile : host.fileText path = pure (some text))
    (hread : readModel kind text = .ok model) :
    loadModel host path kind = (pure model : Run m Model) := by
  rw [loadModel, readFile_eq hfile, pure_bind, hread]

/-- Drawing a file prints the diagram of the model in it. -/
theorem runRender_eq {type : String} (htype : DiagramKind.parse? type = some kind)
    (hfile : host.fileText path = pure (some text)) (hread : readModel kind text = .ok model) :
    runRender host type path = ExceptT.lift (host.print (Markup.render model ++ "\n")) := by
  rw [runRender, readKind, htype]
  simp only [pure_bind, loadModel_eq hfile hread]
  rfl

theorem runExtract_eq {input : Input} (hinput : readInput host input = (pure text : Run m String)) :
    runExtract host input =
      ExceptT.lift (host.print ((Model.classes (Extraction.extract text)).text ++ "\n")) := by
  rw [runExtract, hinput, pure_bind]
  rfl

end Commands

/-- A model that was loaded from some file, as a model of some kind. -/
def Loaded (m : Model) : Prop := ∃ kind text, readModel kind text = .ok m

theorem Loaded.canonical {m : Model} (h : Loaded m) : m.Canonical := by
  obtain ⟨kind, text, hread⟩ := h
  exact canonical_readModel hread

/-- **What is printed stands for what it was printed of.** The document of any generation is
read back as the model of its outcome, and drawing the file prints the diagram of the
outcome. The text that is printed of a draft is read back as the draft. -/
theorem documents_read_back {m : Type → Type} [Monad m] [LawfulMonad m] (host : Host m)
    (hasService : Bool) (tuning : Tuning) (text : String) (kind : DiagramKind)
    (current : Option Model) (hcurrent : ∀ loaded ∈ current, Loaded loaded)
    (ask : Request → Id Reaction) (space : List Char) (hspace : IsSpaces space) :
    let o := Id.run ((generate hasService tuning ⟨text, kind, current⟩).run ask)
    let file := document o ++ String.ofList space
    let printed := (Model.classes (Extraction.extract text)).text ++ "\n"
    readModel kind file = .ok o.model ∧
    (∀ type path, DiagramKind.parse? type = some kind →
      host.fileText path = pure (some file) →
        loadModel host path kind = pure o.model ∧
          runRender host type path = ExceptT.lift (host.print (o.diagram ++ "\n"))) ∧
    readModel .classes printed = .ok (.classes (Extraction.extract text)) ∧
    (∀ input, readInput host input = pure text →
      runExtract host input = ExceptT.lift (host.print printed)) := by
  intro o file printed
  have hcanonical : o.model.Canonical :=
    canonical_run hasService tuning _ ask fun loaded hloaded => (hcurrent loaded hloaded).canonical
  have hkind : o.kind = kind := kind_run hasService tuning _ ask
  have hread : readModel kind file = .ok o.model := hkind ▸ readModel_document hspace hcanonical
  have hnewline : IsSpaces ['\n'] := fun c hc => by rw [List.mem_singleton.mp hc]; rfl
  have hdraft : (Model.classes (Extraction.extract text)).Canonical :=
    (Extraction.wellFormed_extract text).canonical
  have hprinted : readModel .classes printed = .ok (.classes (Extraction.extract text)) :=
    readModel_text (m := .classes (Extraction.extract text)) hnewline hdraft
  refine ⟨hread, fun type path htype hfile => ⟨?_, ?_⟩, hprinted, fun input hinput => ?_⟩
  · exact loadModel_eq hfile hread
  · exact runRender_eq htype hfile hread
  · exact runExtract_eq hinput

/-- A host with one file, which keeps what is printed. -/
def oneFile (file : String) : Host (StateM (List String)) where
  fileText _ := return some file
  readAll := return ""
  readLine := return none
  print line := modify fun printed => printed ++ [line]
  report _ := return ()
  warn _ _ := return ()
  send _ := return .timedOut

/-- A model from a file, kept since there is no service, and the text of a draft. -/
theorem documents_read_back_of_seed :
    let seed : Model := .classes ⟨[⟨"Dog", [], ["bark()"]⟩], []⟩
    let o : Outcome := ⟨seed, .seed, some .unavailable⟩
    let printed := (Model.classes (Extraction.extract "A Dog barks.")).text ++ "\n"
    readModel .classes "\x7b\"classes\": [\x7b\"name\": \"Dog\", \"methods\": \"bark()\"\x7d]\x7d"
      = .ok seed ∧
    readModel .classes (document o ++ "\n") = .ok seed ∧
    runRender (oneFile (document o ++ "\n")) "class" "dog.json" =
      ExceptT.lift ((oneFile (document o ++ "\n")).print (o.diagram ++ "\n")) ∧
    runExtract (oneFile (document o ++ "\n")) (.words ["A", "Dog", "barks."]) =
      ExceptT.lift ((oneFile (document o ++ "\n")).print printed) := by
  intro seed o printed
  have hload : readModel .classes
      "\x7b\"classes\": [\x7b\"name\": \"Dog\", \"methods\": \"bark()\"\x7d]\x7d" = .ok seed := by
    decide +kernel
  have hnewline : IsSpaces ['\n'] := fun c hc => by rw [List.mem_singleton.mp hc]; rfl
  have h := documents_read_back (oneFile (document o ++ "\n")) false ⟨0, .nan, 0⟩ "A Dog barks."
    .classes (some seed) (fun m hm => ⟨_, _, Option.mem_some_iff.mp hm ▸ hload⟩)
    (fun _ => ⟨0, .error .emptyCompletion⟩) ['\n'] hnewline
  refine ⟨hload, h.1, (h.2.1 "class" "dog.json" (by decide) rfl).2, h.2.2.2 _ ?_⟩
  rfl

end Draftsman.CommandLine
