/-
What the source of a class diagram says, read back.

The source of a class diagram is not meant for reading it back, yet nothing in it can be taken
for something else. A class begins with a word that no relation begins with in the same way,
its members are indented and its end is not, and in the line of a relation the two ends are
tokens, which show where they end, around one of eight arrows, none of which begins another.
So two diagrams have the same source exactly if they have the same classes, member by member,
and the same relations (`render_classes_eq_iff`), whatever quotes, braces, arrows and colons
the names and labels hold. One thing is not in the source: the label of an inheritance
(`inheritance_label_is_not_drawn`).
-/
import Draftsman.Proofs.Markup.Lines

set_option autoImplicit false

namespace Draftsman.Markup

open Draftsman.Text

theorem body_eq_of_render_eq {m m' : Model} (h : render m = render m') : body m = body m' := by
  have hlines := congrArg (fun source => source.toList.splitOn '\n') h
  dsimp only [render] at hlines
  rw [splitOn_frame fun line hline => unbroken_of_mem_body hline,
    splitOn_frame fun line hline => unbroken_of_mem_body hline] at hlines
  exact List.append_cancel_right (List.cons.inj hlines).2

/-! ## Relations -/

/-- No arrow begins another, so a line shows which one it holds. -/
theorem arrow_append_inj {a b : Arrow} (ha : a ∈ arrows) (hb : b ∈ arrows) {r r' : List Char}
    (h : a.text ++ r = b.text ++ r') : a = b ∧ r = r' := by
  have hall : ∀ a ∈ arrows, ∀ b ∈ arrows, a.text <+: b.text → a = b := by decide
  obtain ⟨htext, hrest⟩ := append_inj_of_prefix
    (fun hprefix => congrArg Arrow.text (hall a ha b hb hprefix))
    (fun hprefix => congrArg Arrow.text (hall b hb a ha hprefix)) h
  exact ⟨hall a ha b hb (htext ▸ List.prefix_rfl), hrest⟩

theorem exists_text_eq_cons {a : Arrow} (ha : a ∈ arrows) : ∃ cs, a.text = ' ' :: cs := by
  have hall : ∀ a ∈ arrows, a.text.head? = some ' ' := by decide
  exact List.head?_eq_some_iff.mp (hall a ha)

section Line

variable {s t s' t' label label' : List Char} {a b : Arrow} (hs : IsToken s) (ht : IsToken t)
  (hs' : IsToken s') (ht' : IsToken t') (ha : a ∈ arrows) (hb : b ∈ arrows)
  (hlabel : Parted label) (hlabel' : Parted label')

include ha in
theorem parted_text_append (r : List Char) : Parted (a.text ++ r) := by
  obtain ⟨cs, hcs⟩ := exists_text_eq_cons ha
  rw [hcs]
  exact parted_cons rfl

include hs ht hs' ht' ha hb hlabel hlabel' in
/-- **The line of a relation shows its two ends, its arrow and its label**, the label only if the
arrow is not that of an inheritance. -/
theorem relationLine_inj (h : relationLine s t a label = relationLine s' t' b label') :
    s = s' ∧ t = t' ∧ a = b ∧ (a ≠ .inheritance → label = label') := by
  rw [relationLine_eq, relationLine_eq] at h
  split_ifs at h with hinheritance hinheritance' hinheritance'
  · -- two inheritances, with their ends exchanged
    obtain ⟨htarget, hrest⟩ :=
      ht.append_inj ht' (parted_text_append ha s) (parted_text_append hb s') h
    obtain ⟨harrow, hsource⟩ := arrow_append_inj ha hb hrest
    exact ⟨hsource, htarget, harrow, fun hne => absurd hinheritance hne⟩
  · obtain ⟨-, hrest⟩ := ht.append_inj hs' (parted_text_append ha _) (parted_text_append hb _) h
    have harrow := (arrow_append_inj ha hb hrest).1
    exact absurd (harrow ▸ hinheritance) hinheritance'
  · obtain ⟨-, hrest⟩ := hs.append_inj ht' (parted_text_append ha _) (parted_text_append hb _) h
    have harrow := (arrow_append_inj ha hb hrest).1
    exact absurd (harrow ▸ hinheritance') hinheritance
  · obtain ⟨hsource, hrest⟩ :=
      hs.append_inj hs' (parted_text_append ha _) (parted_text_append hb _) h
    obtain ⟨harrow, hend⟩ := arrow_append_inj ha hb hrest
    obtain ⟨htarget, hclause⟩ := ht.append_inj ht' hlabel hlabel' hend
    exact ⟨hsource, htarget, harrow, fun _ => hclause⟩

end Line

theorem parted_labelClause (label : String) : Parted (labelClause label) := by
  rw [labelClause]
  split
  · exact parted_nil
  · exact parted_cons rfl

/-- What is drawn of a relationship: the tokens of its two ends, the arrow, and the label clause
unless it is an inheritance. -/
structure SameRelation (r r' : Relationship) : Prop where
  source : written r.source = written r'.source
  target : written r.target = written r'.target
  arrow : arrow r.kind = arrow r'.kind
  label : r.kind ≠ .inheritance → labelClause r.label = labelClause r'.label

theorem arrow_eq_inheritance_iff {kind : RelationshipKind} :
    arrow kind = .inheritance ↔ kind = .inheritance := by
  cases kind <;> simp [arrow, RelationshipKind.cardinalities?]

theorem line_relationshipStatement_eq_iff {r r' : Relationship} :
    (relationshipStatement r).line = (relationshipStatement r').line ↔ SameRelation r r' := by
  constructor
  · intro h
    obtain ⟨hsource, htarget, harrow, hlabel⟩ := relationLine_inj (isToken_written r.source)
      (isToken_written r.target) (isToken_written r'.source) (isToken_written r'.target)
      (arrow_mem_arrows r.kind) (arrow_mem_arrows r'.kind) (parted_labelClause r.label)
      (parted_labelClause r'.label) h
    exact ⟨hsource, htarget, harrow, fun hkind => hlabel (mt arrow_eq_inheritance_iff.mp hkind)⟩
  · rintro ⟨hsource, htarget, harrow, hlabel⟩
    show relationLine _ _ _ _ = relationLine _ _ _ _
    rw [relationLine_eq, relationLine_eq, hsource, htarget, harrow]
    split_ifs with hinheritance
    · rfl
    · rw [hlabel (mt arrow_eq_inheritance_iff.mpr (harrow ▸ hinheritance))]

/-! ## Classes -/

/-- The lines between the name of a class and its end: its attributes and, below a line of their
own, its methods. -/
def memberLines (c : ClassEntry) : List (List Char) :=
  c.attributes.map (fun a => "  ".toList ++ memberText a)
    ++ (if c.methods = [] then []
      else "  --".toList :: c.methods.map fun m => "  ".toList ++ methodText m)

/-- What is drawn of a class: the token of its name and the lines of its members. -/
structure SameClass (c c' : ClassEntry) : Prop where
  name : written c.name = written c'.name
  members : memberLines c = memberLines c'

/-- The line that begins a class. -/
def openingLine (name : String) : List Char := "class ".toList ++ written name ++ [' ', '\x7b']

theorem lines_classStatements (c : ClassEntry) :
    (classStatements c).map ClassStatement.line =
      openingLine c.name :: (memberLines c ++ [['\x7d']]) := by
  have hmembers : ∀ (items : List String) (text : String → List Char),
      (items.map fun i => ClassStatement.member (text i)).map ClassStatement.line =
        items.map fun i => "  ".toList ++ text i := fun items text => List.map_map
  rw [classStatements, memberLines, List.map_cons, List.map_append, List.map_append, hmembers]
  refine congrArg (openingLine c.name :: · ) (congrArg (_ ++ · ++ [['\x7d']]) ?_)
  cases c.methods with
  | nil => rfl
  | cons m ms =>
    show ClassStatement.separator.line :: _ = _
    exact congrArg ("  --".toList :: ·) (hmembers (m :: ms) methodText)

theorem indented_of_mem_memberLines {c : ClassEntry} {line : List Char}
    (h : line ∈ memberLines c) : (line.head? == some ' ') = true := by
  rw [memberLines, List.mem_append] at h
  rcases h with h | h
  · obtain ⟨a, -, rfl⟩ := List.mem_map.mp h
    rfl
  · split_ifs at h
    · exact absurd h List.not_mem_nil
    · rcases List.mem_cons.mp h with rfl | h
      · rfl
      · obtain ⟨m, -, rfl⟩ := List.mem_map.mp h
        rfl

theorem openingLine_eq_iff {name name' : String} :
    openingLine name = openingLine name' ↔ written name = written name' :=
  ⟨fun h => List.append_cancel_left (List.append_cancel_right h),
    congrArg fun token => "class ".toList ++ token ++ [' ', '\x7b']⟩

theorem openingLine_eq_append (name : String) :
    openingLine name = "class".toList ++ (' ' :: (written name ++ [' ', '\x7b'])) := by
  have hword : "class ".toList = "class".toList ++ [' '] := by decide
  show "class ".toList ++ written name ++ [' ', '\x7b'] = _
  rw [hword, List.append_assoc, List.append_assoc, List.singleton_append]

/-- An arrow is no token before a brace: most begin like no token at all, and those that do
go on otherwise. -/
theorem text_append_ne {a : Arrow} (ha : a ∈ arrows) {token rest : List Char}
    (htoken : IsToken token) : a.text ++ rest ≠ ' ' :: (token ++ [' ', '\x7b']) := by
  have hsymbol : ∀ {c : Char} {cs : List Char}, c ≠ '"' → isIdentifierPart c = false →
      ' ' :: c :: cs ≠ ' ' :: (token ++ [' ', '\x7b']) := by
    intro c cs hquote hpart h
    obtain ⟨d, ds, rfl, hd⟩ := htoken.exists_cons
    have hcd : c = d := (List.cons.inj (List.cons.inj h).2).1
    rcases hd with rfl | hd
    · exact hquote hcd
    · rw [hcd, hd] at hpart
      exact absurd hpart (by decide)
  have hbegun : ∀ begun cs : List Char, IsToken begun → Parted cs → cs ≠ [' ', '\x7b'] →
      ' ' :: (begun ++ cs) ≠ ' ' :: (token ++ [' ', '\x7b']) := by
    intro begun cs hbegun hparted hne h
    exact hne (hbegun.append_inj htoken hparted (parted_cons rfl) (List.cons.inj h).2).2
  have hcounted : ∀ near far : String, '"' ∉ near.toList →
      Arrow.text (.counted near far) ++ rest ≠ ' ' :: (token ++ [' ', '\x7b']) := by
    intro near far hnear
    -- the number at the near end is a token, and a second arrow follows it
    have hsplit : Arrow.text (.counted near far) ++ rest = ' ' :: (('"' :: (near.toList ++ ['"']))
        ++ (' ' :: '-' :: ("-> \"".toList ++ (far.toList ++ ("\" ".toList ++ rest))))) := by
      rw [Arrow.text_counted]
      show [' ', '"'] ++ near.toList ++ ('"' :: ' ' :: '-' :: "-> \"".toList) ++ far.toList
        ++ "\" ".toList ++ rest = _
      simp only [List.append_assoc, List.cons_append, List.nil_append]
    rw [hsplit]
    refine hbegun _ _ (.quoted hnear) (parted_cons rfl) fun heq => ?_
    exact absurd (List.cons.inj (List.cons.inj heq).2).1 (by decide)
  simp only [arrows, List.mem_cons, List.not_mem_nil, or_false] at ha
  rcases ha with rfl | rfl | rfl | rfl | rfl | rfl | rfl | rfl
  · exact hsymbol (by decide) rfl
  · exact hsymbol (by decide) rfl
  · -- the arrow of an aggregation begins with the letter `o`
    refine hbegun ['o'] ('-' :: '-' :: ' ' :: rest) (.bare rfl) (parted_cons rfl) fun heq => ?_
    exact absurd (List.cons.inj heq).1 (by decide)
  · exact hcounted "1" "1" (by decide)
  · exact hcounted "1" "*" (by decide)
  · exact hcounted "*" "1" (by decide)
  · exact hcounted "*" "*" (by decide)
  · exact hsymbol (by decide) rfl

/-- **A relation is not taken for the beginning of a class**, though it may begin with the same
word: what follows the word is an arrow in the one and a name in the other. -/
theorem line_relationshipStatement_ne_openingLine (r : Relationship) (name : String) :
    (relationshipStatement r).line ≠ openingLine name := by
  have hfirst : ∀ {first rest : List Char}, IsToken first →
      first ++ ((arrow r.kind).text ++ rest) ≠ openingLine name := by
    intro first rest htoken h
    have ha := arrow_mem_arrows r.kind
    rw [openingLine_eq_append] at h
    have hrest := (htoken.append_inj (.bare rfl) (parted_text_append ha rest) (parted_cons rfl) h).2
    exact text_append_ne ha (isToken_written name) hrest
  show relationLine _ _ _ _ ≠ _
  rw [relationLine_eq]
  split_ifs
  · exact hfirst (isToken_written r.target)
  · exact hfirst (isToken_written r.source)

/-! ## Diagrams -/

/-- The lines of a class diagram. -/
def classLines (classes : List ClassEntry) (relationships : List Relationship) :
    List (List Char) :=
  classes.flatMap (fun c => openingLine c.name :: (memberLines c ++ [['\x7d']]))
    ++ relationships.map fun r => (relationshipStatement r).line

theorem body_classes (m : ClassModel) :
    body (.classes m) = classLines m.classes m.relationships := by
  rw [body, classDiagram, List.map_append, List.map_flatMap, List.map_map, classLines]
  simp only [lines_classStatements]
  rfl

theorem exists_classLines_cons (c : ClassEntry) (cs : List ClassEntry) (rs : List Relationship) :
    classLines (c :: cs) rs =
      openingLine c.name :: (memberLines c ++ (['\x7d'] :: classLines cs rs)) := by
  simp only [classLines, List.flatMap_cons, List.cons_append, List.append_assoc, List.nil_append]

theorem classLines_nil_eq_iff {rs rs' : List Relationship} :
    classLines [] rs = classLines [] rs' ↔ List.Forall₂ SameRelation rs rs' := by
  rw [classLines, classLines, List.flatMap_nil, List.nil_append, List.nil_append,
    ← List.forall₂_eq_eq_eq, List.forall₂_map_left_iff, List.forall₂_map_right_iff]
  simp only [line_relationshipStatement_eq_iff]

theorem classLines_nil_ne_cons {c : ClassEntry} {cs : List ClassEntry}
    {rs rs' : List Relationship} : classLines [] rs ≠ classLines (c :: cs) rs' := by
  intro h
  rw [exists_classLines_cons] at h
  cases rs with
  | nil => exact absurd h (List.cons_ne_nil _ _).symm
  | cons r rs => exact line_relationshipStatement_ne_openingLine r c.name (List.cons.inj h).1

/-- **The lines of a class diagram show its classes and its relations.** The induction is on the
classes of the one diagram; a class is cut off at the first line that is not indented. -/
theorem classLines_eq_iff {cs cs' : List ClassEntry} {rs rs' : List Relationship} :
    classLines cs rs = classLines cs' rs' ↔
      List.Forall₂ SameClass cs cs' ∧ List.Forall₂ SameRelation rs rs' := by
  induction cs generalizing cs' with
  | nil =>
    cases cs' with
    | nil => simp only [classLines_nil_eq_iff, List.Forall₂.nil, true_and]
    | cons c' cs' =>
      refine iff_of_false classLines_nil_ne_cons fun h => ?_
      exact absurd h.1 (by simp)
  | cons c cs ih =>
    cases cs' with
    | nil =>
      refine iff_of_false (Ne.symm classLines_nil_ne_cons) fun h => ?_
      exact absurd h.1 (by simp)
    | cons c' cs' =>
      rw [List.forall₂_cons, and_assoc, ← ih, exists_classLines_cons, exists_classLines_cons,
        List.cons.injEq]
      constructor
      · rintro ⟨hopening, hlines⟩
        have hend : ∀ {lines : List (List Char)}, ∀ line ∈ (['\x7d'] :: lines).head?,
            (line.head? == some ' ') = false := fun line hline => Option.mem_some.mp hline ▸ rfl
        obtain ⟨hmembers, hrest⟩ := append_inj_of_cut (fun _ => indented_of_mem_memberLines)
          (fun _ => indented_of_mem_memberLines) hend hend hlines
        exact ⟨⟨openingLine_eq_iff.mp hopening, hmembers⟩, (List.cons.inj hrest).2⟩
      · rintro ⟨⟨hname, hmembers⟩, hrest⟩
        exact ⟨openingLine_eq_iff.mpr hname, by rw [hmembers, hrest]⟩

/-- **What a class diagram shows.** Two class diagrams have the same source exactly if they have
the same number of classes, of which those in the same place have names with the same token and
the same member lines, and the same number of relationships, of which those in the same place
have ends with the same tokens, the same arrow, and the same label clause unless they are
inheritances. -/
theorem render_classes_eq_iff (m m' : ClassModel) :
    render (.classes m) = render (.classes m') ↔
      List.Forall₂ (fun c c' => written c.name = written c'.name ∧ memberLines c = memberLines c')
        m.classes m'.classes ∧
      List.Forall₂ (fun r r' => written r.source = written r'.source ∧
          written r.target = written r'.target ∧ arrow r.kind = arrow r'.kind ∧
          (r.kind ≠ .inheritance → labelClause r.label = labelClause r'.label))
        m.relationships m'.relationships := by
  have hsource : render (.classes m) = render (.classes m') ↔
      body (.classes m) = body (.classes m') := ⟨body_eq_of_render_eq, congrArg frame⟩
  rw [hsource, body_classes, body_classes, classLines_eq_iff]
  refine and_congr ⟨fun h => h.imp fun c c' hc => ?_, fun h => h.imp fun c c' hc => ?_⟩
    ⟨fun h => h.imp fun r r' hr => ?_, fun h => h.imp fun r r' hr => ?_⟩
  · exact ⟨hc.name, hc.members⟩
  · exact ⟨hc.1, hc.2⟩
  · exact ⟨hr.source, hr.target, hr.arrow, hr.label⟩
  · exact ⟨hr.1, hr.2.1, hr.2.2.1, hr.2.2.2⟩

/-- An inheritance with a label and one without: the sources are the same, the label clauses are
not. -/
theorem inheritance_label_is_not_drawn :
    let labelled : ClassModel := ⟨[], [⟨"Manager", "Employee", .inheritance, "is"⟩]⟩
    let plain : ClassModel := ⟨[], [⟨"Manager", "Employee", .inheritance, ""⟩]⟩
    render (.classes labelled) = render (.classes plain) ∧
      labelled.relationships.map (fun r => labelClause r.label) ≠
        plain.relationships.map fun r => labelClause r.label := by
  decide +kernel

end Draftsman.Markup
