/-
Merging one class diagram into another.

The classes of the second diagram are put in one after the other, each with its attributes
and methods, and the relationships of the two are joined and relationships that were there
before are dropped. Names, attributes, methods and relationships grow by the same rule, which
appends what is new by its key (`addAll`), and the rule is associative. A diagram whose names
are distinct is seen as its list of names and one class for each name (`ClassModel.entry`),
and a merge joins the two classes of every name (`entry_merge`). So a merge keeps what was there
where it was (`extends_merge`), and a diagram that is merged into itself stays as it is
(`merge_self`).
-/
import Draftsman.Proofs.Diagram.Growth
import Mathlib.Data.List.Forall2

set_option autoImplicit false

namespace Draftsman

/-! ## Lists that grow by what is new -/

section AddAll

variable {α κ : Type*} [DecidableEq κ] (key : α → κ)

/-- The list with an item at its end, unless one with the same key is there already. -/
def addNew (items : List α) (a : α) : List α :=
  if key a ∈ items.map key then items else items ++ [a]

/-- The list with more items at its end, as far as their keys are new. -/
def addAll (items more : List α) : List α := more.foldl (addNew key) items

variable {key}

@[simp] theorem addAll_nil (items : List α) : addAll key items [] = items := rfl

theorem addAll_cons (items : List α) (a : α) (more : List α) :
    addAll key items (a :: more) = addAll key (addNew key items a) more := rfl

theorem addAll_append (items more rest : List α) :
    addAll key items (more ++ rest) = addAll key (addAll key items more) rest :=
  List.foldl_append

theorem addNew_of_mem {items : List α} {a : α} (h : key a ∈ items.map key) :
    addNew key items a = items := if_pos h

theorem prefix_addNew (items : List α) (a : α) : items <+: addNew key items a := by
  unfold addNew
  split_ifs
  · exact List.prefix_rfl
  · exact List.prefix_append items [a]

theorem prefix_addAll (items more : List α) : items <+: addAll key items more :=
  List.foldlRecOn (motive := fun grown => items <+: grown) more (addNew key) List.prefix_rfl
    fun grown h a _ => h.trans (prefix_addNew grown a)

theorem mem_map_addNew {items : List α} {a : α} {k : κ} :
    k ∈ (addNew key items a).map key ↔ k ∈ items.map key ∨ k = key a := by
  unfold addNew
  split_ifs with hmem
  · constructor
    · exact .inl
    · rintro (h | rfl)
      · exact h
      · exact hmem
  · rw [List.map_append, List.mem_append, List.map_singleton, List.mem_singleton]

theorem mem_map_addAll {items more : List α} {k : κ} :
    k ∈ (addAll key items more).map key ↔ k ∈ items.map key ∨ k ∈ more.map key := by
  induction more generalizing items with
  | nil => simp
  | cons a more ih => rw [addAll_cons, ih, mem_map_addNew, List.map_cons, List.mem_cons, or_assoc]

/-- What is there already is not added. -/
theorem addAll_eq_self {items more : List α} (h : ∀ a ∈ more, key a ∈ items.map key) :
    addAll key items more = items := by
  induction more with
  | nil => rfl
  | cons a more ih =>
    rw [addAll_cons, addNew_of_mem (h a List.mem_cons_self)]
    exact ih fun b hb => h b (List.mem_cons_of_mem a hb)

theorem nodup_map_addAll {items more : List α} (h : (items.map key).Nodup) :
    ((addAll key items more).map key).Nodup := by
  refine List.foldlRecOn (motive := fun grown => (grown.map key).Nodup) more (addNew key) h
    fun grown hgrown a _ => ?_
  unfold addNew
  split_ifs with hmem
  · exact hgrown
  · rw [List.map_append, List.map_singleton]
    exact List.nodup_append.mpr ⟨hgrown, List.nodup_singleton _, by
      rintro k hk _ hl rfl
      exact hmem (List.mem_singleton.mp hl ▸ hk)⟩

theorem addAll_addNew (items more : List α) (a : α) :
    addAll key items (addNew key more a) = addNew key (addAll key items more) a := by
  by_cases hmem : key a ∈ more.map key
  · rw [addNew_of_mem hmem, addNew_of_mem (mem_map_addAll.mpr (.inr hmem))]
  · rw [addNew, if_neg hmem, addAll_append, addAll_cons, addAll_nil]

/-- **Growth is associative**: it makes no difference whether repeats are dropped before. -/
theorem addAll_assoc (items more rest : List α) :
    addAll key (addAll key items more) rest = addAll key items (addAll key more rest) := by
  induction rest generalizing more with
  | nil => rfl
  | cons a rest ih => rw [addAll_cons, addAll_cons, ← addAll_addNew, ih]

/-- Items grow as their images do, if the keys of the images tell the same items apart. -/
theorem addAll_map_of_key_iff {β ι : Type*} [DecidableEq ι] {key' : β → ι} {f : α → β}
    {items more : List α}
    (h : ∀ a ∈ items ++ more, ∀ b ∈ items ++ more, key' (f a) = key' (f b) ↔ key a = key b) :
    addAll key' (items.map f) (more.map f) = (addAll key items more).map f := by
  induction more generalizing items with
  | nil => rfl
  | cons a more ih =>
    have hmem : key' (f a) ∈ (items.map f).map key' ↔ key a ∈ items.map key := by
      simp only [List.mem_map, exists_exists_and_eq_and]
      refine exists_congr fun b => and_congr_right fun hb => ?_
      exact h b (List.mem_append_left _ hb) a (List.mem_append_right _ List.mem_cons_self)
    have hnew : addNew key' (items.map f) (f a) = (addNew key items a).map f := by
      unfold addNew
      by_cases hknown : key a ∈ items.map key
      · rw [if_pos hknown, if_pos (hmem.mpr hknown)]
      · rw [if_neg hknown, if_neg (mt hmem.mp hknown), List.map_append, List.map_singleton]
    have hsubset : addNew key items a ++ more ⊆ items ++ a :: more := by
      unfold addNew
      split_ifs
      · exact ((List.sublist_cons_self a more).append_left items).subset
      · rw [List.append_assoc]
        exact List.Subset.refl _
    rw [List.map_cons, addAll_cons, addAll_cons, hnew]
    exact ih fun b hb c hc => h b (hsubset hb) c (hsubset hc)

/-- Items with distinct keys are all new to the empty list. -/
theorem addAll_nil_left {items : List α} (h : (items.map key).Nodup) :
    addAll key [] items = items := by
  induction items using List.reverseRecOn with
  | nil => rfl
  | append_singleton items a ih =>
    rw [List.map_append, List.map_singleton] at h
    obtain ⟨hitems, -, hdisjoint⟩ := List.nodup_append.mp h
    rw [addAll_append, ih hitems, addAll_cons, addAll_nil, addNew, if_neg]
    exact fun hmem => hdisjoint _ hmem _ (List.mem_singleton_self _) rfl

/-- To drop later repeats of a list is to build it up from nothing. -/
theorem eraseDupsBy_eq_addAll (items : List α) :
    items.eraseDupsBy (fun a b => key a = key b) = addAll key [] items := by
  -- the items that were kept so far are given from the last one
  have hloop : ∀ more seen : List α, List.eraseDupsBy.loop (fun a b => key a = key b) more seen =
      addAll key seen.reverse more := by
    intro more
    induction more with
    | nil => exact fun seen => rfl
    | cons a more ih =>
      intro seen
      have hany : seen.any (fun b => key a = key b) = decide (key a ∈ seen.reverse.map key) := by
        rw [Bool.eq_iff_iff, List.any_eq_true, decide_eq_true_iff, List.mem_map]
        simp only [List.mem_reverse, decide_eq_true_iff, @eq_comm _ (key a)]
      rw [List.eraseDupsBy.loop, addAll_cons, addNew, hany]
      by_cases hmem : key a ∈ seen.reverse.map key
      · rw [decide_eq_true hmem, if_pos hmem]
        exact ih seen
      · rw [decide_eq_false hmem, if_neg hmem, ← List.reverse_cons]
        exact ih (a :: seen)
  exact hloop items []

end AddAll

theorem appendNew_eq_addNew (item : String) (items : List String) :
    appendNew item items = addNew id items item := by
  unfold appendNew addNew
  simp

/-! ## A diagram by its names -/

namespace ClassEntry

/-- A class with the attributes and methods of another one besides its own. -/
def join (c d : ClassEntry) : ClassEntry :=
  ⟨c.name, addAll id c.attributes d.attributes, addAll id c.methods d.methods⟩

theorem join_assoc (c d e : ClassEntry) : (c.join d).join e = c.join (d.join e) := by
  unfold join
  rw [addAll_assoc, addAll_assoc]

@[simp] theorem join_named (c : ClassEntry) (name : String) : c.join (named name) = c := rfl

theorem join_self (c : ClassEntry) : c.join c = c := by
  have hself (items : List String) : addAll id items items = items :=
    addAll_eq_self fun a ha => List.mem_map_of_mem ha
  rw [join, hself, hself]

/-- A class that says at least what another one of its name says, in the same places. -/
structure Extends (c d : ClassEntry) : Prop where
  name : d.name = c.name
  attributes : c.attributes <+: d.attributes
  methods : c.methods <+: d.methods

theorem extends_join (c d : ClassEntry) : c.Extends (c.join d) :=
  ⟨rfl, prefix_addAll _ _, prefix_addAll _ _⟩

end ClassEntry

/-- The first class of the given name in a list, and if there is none a class of which only
the name is known. -/
def entryIn (classes : List ClassEntry) (name : String) : ClassEntry :=
  (classes.find? fun c => c.name == name).getD (.named name)

theorem entryIn_cons (c : ClassEntry) (classes : List ClassEntry) (name : String) :
    entryIn (c :: classes) name = if c.name = name then c else entryIn classes name := by
  rw [entryIn, List.find?_cons]
  by_cases hname : c.name = name
  · rw [if_pos hname, beq_iff_eq.mpr hname]
    rfl
  · rw [if_neg hname, beq_eq_false_iff_ne.mpr hname]
    rfl

theorem entryIn_of_not_mem {classes : List ClassEntry} {name : String}
    (h : name ∉ classes.map ClassEntry.name) : entryIn classes name = .named name := by
  induction classes with
  | nil => rfl
  | cons c classes ih =>
    rw [List.map_cons, List.mem_cons, not_or] at h
    rw [entryIn_cons, if_neg (Ne.symm h.1), ih h.2]

/-- Classes with distinct names are known by their names. -/
theorem eq_map_entryIn {classes : List ClassEntry} (h : (classes.map ClassEntry.name).Nodup) :
    (classes.map ClassEntry.name).map (entryIn classes) = classes := by
  induction classes with
  | nil => rfl
  | cons c classes ih =>
    rw [List.map_cons, List.nodup_cons] at h
    rw [List.map_cons, List.map_cons, entryIn_cons, if_pos rfl]
    refine congrArg (c :: ·) ((List.map_congr_left fun name hname => ?_).trans (ih h.2))
    rw [entryIn_cons, if_neg]
    exact fun heq => h.1 (heq ▸ hname)

theorem entryIn_updateIn {change : ClassEntry → ClassEntry}
    (hname : ∀ c, (change c).name = c.name) (name other : String) (classes : List ClassEntry) :
    entryIn (ClassModel.updateIn name change classes) other =
      if name = other then change (entryIn classes other) else entryIn classes other := by
  induction classes with
  | nil =>
    rw [ClassModel.updateIn, entryIn_cons, hname, show (ClassEntry.named name).name = name from rfl]
    split_ifs with h
    · rw [h]
      rfl
    · rfl
  | cons c classes ih =>
    -- the class in front is the one that is changed, the one that is looked up, both or neither
    rw [ClassModel.updateIn]
    split_ifs with hc h h
    · rw [beq_iff_eq] at hc
      rw [entryIn_cons, entryIn_cons, hname, if_pos (hc.trans h), if_pos (hc.trans h)]
    · rw [beq_iff_eq] at hc
      rw [entryIn_cons, entryIn_cons, hname, hc, if_neg h, if_neg h]
    · rw [beq_iff_eq] at hc
      rw [entryIn_cons, entryIn_cons, if_neg fun heq => hc (heq.trans h.symm),
        if_neg fun heq => hc (heq.trans h.symm), ih, if_pos h]
    · rw [entryIn_cons, entryIn_cons, ih, if_neg h]

namespace ClassModel

/-- The class of the given name in a diagram. -/
def entry (m : ClassModel) (name : String) : ClassEntry := entryIn m.classes name

theorem entry_update {change : ClassEntry → ClassEntry} (hname : ∀ c, (change c).name = c.name)
    (m : ClassModel) (name other : String) :
    (m.update name change).entry other =
      if name = other then change (m.entry other) else m.entry other :=
  entryIn_updateIn hname name other m.classes

/-- Diagrams with distinct names are the same if they list the same names, have the same class
for every name and the same relationships. -/
theorem ext_of_entry {m n : ClassModel} (hnodup : m.names.Nodup) (hnames : m.names = n.names)
    (hentry : ∀ name, m.entry name = n.entry name)
    (hrelationships : m.relationships = n.relationships) :
    m = n := by
  have hm : m.names.map m.entry = m.classes := eq_map_entryIn hnodup
  have hn : n.names.map n.entry = n.classes := by
    rw [hnames] at hnodup
    exact eq_map_entryIn hnodup
  have hclasses : m.classes = n.classes := by
    rw [← hm, ← hn, hnames]
    exact List.map_congr_left fun name _ => hentry name
  cases m
  cases n
  exact congrArg₂ ClassModel.mk hclasses hrelationships

/-! ## Merging -/

/-- The diagram with one more class: it is put in under its name, and then its attributes and
methods are added to the class of that name one by one. -/
def mergeClass (m : ClassModel) (c : ClassEntry) : ClassModel :=
  c.methods.foldl (fun m item => m.addMethod c.name item)
    (c.attributes.foldl (fun m item => m.addAttribute c.name item) (m.ensure c.name))

/-- The diagram with all that another one says besides: its classes one after the other, and
its relationships behind those that are there, without later repeats. -/
def merge (m n : ClassModel) : ClassModel :=
  { classes := (n.classes.foldl mergeClass m).classes
    relationships :=
      (m.relationships ++ n.relationships).eraseDupsBy fun r q => r.key = q.key }

/-! ### One class -/

section Items

variable (change : String → ClassEntry → ClassEntry)
  (hname : ∀ item c, (change item c).name = c.name)
include hname

/-- Changes of a class that is there put in no name. -/
theorem names_foldl_update {m : ClassModel} {name : String} (hmem : name ∈ m.names)
    (items : List String) :
    (items.foldl (fun m item => m.update name (change item)) m).names = m.names := by
  induction items generalizing m with
  | nil => rfl
  | cons item items ih =>
    have hstep : (m.update name (change item)).names = m.names := by
      rw [names_update (hname item), appendNew_eq_addNew, addNew_of_mem (by simpa using hmem)]
    rw [List.foldl_cons, ih (by rw [hstep]; exact hmem), hstep]

/-- Changes that each add one item to a class add all the items to it. -/
theorem entry_foldl_update (part : List String → ClassEntry)
    (hnil : ∀ c : ClassEntry, c.join (part []) = c)
    (hcons : ∀ c item items, (change item c).join (part items) = c.join (part (item :: items)))
    (m : ClassModel) (name other : String) (items : List String) :
    (items.foldl (fun m item => m.update name (change item)) m).entry other =
      if name = other then (m.entry other).join (part items) else m.entry other := by
  induction items generalizing m with
  | nil => rw [hnil, ite_self, List.foldl_nil]
  | cons item items ih =>
    rw [List.foldl_cons, ih, entry_update (hname item)]
    split_ifs
    · exact hcons (m.entry other) item items
    · rfl

end Items

theorem names_ensure (m : ClassModel) (name : String) :
    (m.ensure name).names = addNew id m.names name := by
  have hid : ∀ c : ClassEntry, (id c).name = c.name := fun _ => rfl
  rw [ensure, names_update hid, appendNew_eq_addNew]

theorem entry_ensure (m : ClassModel) (name other : String) :
    (m.ensure name).entry other = m.entry other := by
  have hid : ∀ c : ClassEntry, (id c).name = c.name := fun _ => rfl
  rw [ensure, entry_update hid]
  exact ite_self _

theorem entry_addAttribute (m : ClassModel) (name item other : String) :
    (m.addAttribute name item).entry other =
      if name = other then (m.entry other).addAttribute item else m.entry other := by
  have hname : ∀ c : ClassEntry, (c.addAttribute item).name = c.name := fun _ => rfl
  exact entry_update hname m name other

theorem entry_addMethod (m : ClassModel) (name item other : String) :
    (m.addMethod name item).entry other =
      if name = other then (m.entry other).addMethod item else m.entry other := by
  have hname : ∀ c : ClassEntry, (c.addMethod item).name = c.name := fun _ => rfl
  exact entry_update hname m name other

theorem addAttribute_join (c : ClassEntry) (item other : String) (items : List String) :
    (c.addAttribute item).join ⟨other, items, []⟩ = c.join ⟨other, item :: items, []⟩ := by
  rw [ClassEntry.addAttribute, appendNew_eq_addNew]
  rfl

theorem addMethod_join (c : ClassEntry) (item other : String) (items : List String) :
    (c.addMethod item).join ⟨other, [], items⟩ = c.join ⟨other, [], item :: items⟩ := by
  rw [ClassEntry.addMethod, appendNew_eq_addNew]
  rfl

theorem names_mergeClass (m : ClassModel) (c : ClassEntry) :
    (m.mergeClass c).names = addNew id m.names c.name := by
  have hmem : c.name ∈ (m.ensure c.name).names := by
    rw [ensure, names_update fun c => (rfl : (id c).name = c.name), mem_appendNew]
    exact .inr rfl
  have hattributes :
      (c.attributes.foldl (fun m item => m.addAttribute c.name item) (m.ensure c.name)).names =
        (m.ensure c.name).names :=
    names_foldl_update (fun item c => c.addAttribute item) (fun _ _ => rfl) hmem c.attributes
  have hmethods := names_foldl_update (fun item c => c.addMethod item) (fun _ _ => rfl)
    (hattributes ▸ hmem) c.methods
  exact hmethods.trans (hattributes.trans (names_ensure m c.name))

theorem entry_mergeClass (m : ClassModel) (c : ClassEntry) (name : String) :
    (m.mergeClass c).entry name =
      if c.name = name then (m.entry name).join c else m.entry name := by
  have hattributes : ∀ m : ClassModel,
      (c.attributes.foldl (fun m item => m.addAttribute c.name item) m).entry name =
        if c.name = name then (m.entry name).join ⟨name, c.attributes, []⟩ else m.entry name :=
    fun m => entry_foldl_update (fun item c => c.addAttribute item) (fun _ _ => rfl)
      (fun items => ⟨name, items, []⟩) (fun _ => rfl)
      (fun c item items => addAttribute_join c item name items) m c.name name c.attributes
  have hmethods : ∀ m : ClassModel,
      (c.methods.foldl (fun m item => m.addMethod c.name item) m).entry name =
        if c.name = name then (m.entry name).join ⟨name, [], c.methods⟩ else m.entry name :=
    fun m => entry_foldl_update (fun item c => c.addMethod item) (fun _ _ => rfl)
      (fun items => ⟨name, [], items⟩) (fun _ => rfl)
      (fun c item items => addMethod_join c item name items) m c.name name c.methods
  rw [mergeClass, hmethods, hattributes, entry_ensure]
  split_ifs
  · rfl
  · rfl

/-! ### All classes -/

theorem names_foldl_mergeClass (m : ClassModel) (classes : List ClassEntry) :
    (classes.foldl mergeClass m).names =
      addAll id m.names (classes.map ClassEntry.name) := by
  induction classes generalizing m with
  | nil => rfl
  | cons c classes ih => rw [List.foldl_cons, ih, names_mergeClass, List.map_cons, addAll_cons]

theorem entry_foldl_mergeClass {classes : List ClassEntry}
    (h : (classes.map ClassEntry.name).Nodup) (m : ClassModel) (name : String) :
    (classes.foldl mergeClass m).entry name = (m.entry name).join (entryIn classes name) := by
  induction classes generalizing m with
  | nil => rfl
  | cons c classes ih =>
    rw [List.map_cons, List.nodup_cons] at h
    rw [List.foldl_cons, ih h.2, entry_mergeClass, entryIn_cons]
    split_ifs with hname
    · -- no later class has this name
      rw [entryIn_of_not_mem (hname ▸ h.1), ClassEntry.join_named]
    · rfl

theorem names_merge (m n : ClassModel) : (m.merge n).names = addAll id m.names n.names :=
  names_foldl_mergeClass m n.classes

/-- **A merge joins the two classes of every name.** -/
theorem entry_merge (m : ClassModel) {n : ClassModel} (h : n.names.Nodup) (name : String) :
    (m.merge n).entry name = (m.entry name).join (n.entry name) :=
  entry_foldl_mergeClass h m name

theorem relationships_merge {m : ClassModel} (h : (m.relationships.map Relationship.key).Nodup)
    (n : ClassModel) :
    (m.merge n).relationships = addAll Relationship.key m.relationships n.relationships := by
  show (m.relationships ++ n.relationships).eraseDupsBy _ = _
  rw [eraseDupsBy_eq_addAll, addAll_append, addAll_nil_left h]

theorem nodup_names_merge {m : ClassModel} (h : m.names.Nodup) (n : ClassModel) :
    (m.merge n).names.Nodup := by
  have hkeys : ((addAll id m.names n.names).map id).Nodup :=
    nodup_map_addAll (by rwa [List.map_id])
  rwa [List.map_id, ← names_merge] at hkeys

/-! ### What a merge keeps -/

/-- A diagram that says at least what another one says, in the same places. -/
structure Extends (m m' : ClassModel) : Prop where
  classes : ∃ grown added, m'.classes = grown ++ added ∧
    List.Forall₂ ClassEntry.Extends m.classes grown
  relationships : m.relationships <+: m'.relationships

/-- **A merge keeps what was there where it was.** -/
theorem extends_merge {m n : ClassModel} (hm : m.names.Nodup) (hn : n.names.Nodup)
    (hkeys : (m.relationships.map Relationship.key).Nodup) : m.Extends (m.merge n) := by
  refine ⟨?_, ?_⟩
  · obtain ⟨added, hadded⟩ : m.names <+: (m.merge n).names := by
      rw [names_merge]
      exact prefix_addAll m.names n.names
    have hbefore : m.names.map m.entry = m.classes := eq_map_entryIn hm
    have hafter : (m.merge n).names.map (m.merge n).entry = (m.merge n).classes :=
      eq_map_entryIn (nodup_names_merge hm n)
    refine ⟨m.names.map (m.merge n).entry, added.map (m.merge n).entry, ?_, ?_⟩
    · rw [← hafter, ← hadded, List.map_append]
    · rw [← hbefore, List.forall₂_map_left_iff, List.forall₂_map_right_iff, List.forall₂_same]
      intro name _
      rw [entry_merge m hn]
      exact ClassEntry.extends_join _ _
  · rw [relationships_merge hkeys]
    exact prefix_addAll _ _

/-- **A diagram that is merged into itself stays as it is.** -/
theorem merge_self {m : ClassModel} (hm : m.names.Nodup)
    (hkeys : (m.relationships.map Relationship.key).Nodup) : m.merge m = m := by
  refine ext_of_entry (nodup_names_merge hm m) ?_ (fun name => ?_) ?_
  · rw [names_merge]
    exact addAll_eq_self fun a ha => List.mem_map_of_mem ha
  · rw [entry_merge m hm, ClassEntry.join_self]
  · rw [relationships_merge hkeys]
    exact addAll_eq_self fun r hr => List.mem_map_of_mem hr

end ClassModel

end Draftsman
