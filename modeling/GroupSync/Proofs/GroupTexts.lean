import GroupSync.Proofs.GroupPayloads
import GroupSync.Proofs.OpenRecords
import GroupSync.Proofs.WrittenRecords

/-!
# Texts of group definitions

What is left out when a group is written is supplied when it is read, so a list of groups is read
back from its text, with absent and empty descriptions told apart.  The profiles of a group are a
set: in which order and how often they stand in a text does not show in what is written again.
-/

namespace GroupSync

open Document Fallible

theorem NameSet.ofList_toList (names : NameSet) : NameSet.ofList names.toList = names :=
  eq_of_mem_iff fun _ => mem_ofList

namespace Group

/-- The text of a list of groups. -/
def renderList (groups : List Group) : String :=
  Json.render (.ofList (groups.map toNode))

/-- What is written again for a text of groups. -/
def rewrite (text : String) : Decoded String :=
  (readList text).map renderList

/-- Two trees list the same profiles of a group, in any order and any of them more than once, and
differ in nothing else. -/
inductive Relists : Node → Node → Prop
  | same (node : Node) : Relists node node
  | member {names others : List String} (sameNames : ∀ name, name ∈ names ↔ name ∈ others)
      (before after : List (Node × Node)) :
      Relists (.object (before ++ (.string "productProfileIds", .ofStrings names) :: after) none)
        (.object (before ++ (.string "productProfileIds", .ofStrings others) :: after) none)
  | item {names others : List String} (sameNames : ∀ name, name ∈ names ↔ name ∈ others)
      (id description : Node) :
      Relists (.list [id, description, .ofStrings names] none)
        (.list [id, description, .ofStrings others] none)

/-! ### Single groups -/

def keys : List String :=
  ["id", "description", "productProfileIds"]

/-- The members that are written of a group. -/
def members (group : Group) : Gathered :=
  ("id", .string group.id) ::
    ((group.description.map fun text => ("description", Node.string text)).toList ++
      (if group.profiles.isEmpty then []
        else [("productProfileIds", .ofStrings group.profiles.toList)]))

variable (group : Group)

theorem keys_members_sublist : (group.members.map Prod.fst).Sublist keys := by
  obtain ⟨id, description, profiles⟩ := group
  cases description <;> cases none : profiles.isEmpty <;> simp [members, keys, none]

theorem find?_members_description :
    group.members.find? "description" = group.description.map .string := by
  obtain ⟨id, description, profiles⟩ := group
  cases description <;> cases none : profiles.isEmpty <;> simp [members, Gathered.find?, none]

theorem find?_members_profiles :
    group.members.find? "productProfileIds" =
      if group.profiles.isEmpty then none else some (.ofStrings group.profiles.toList) := by
  obtain ⟨id, description, profiles⟩ := group
  cases description <;> cases none : profiles.isEmpty <;> simp [members, Gathered.find?, none]

theorem stated_description :
    Stated Node.IsOptional none group.description (group.members.find? "description") := by
  rw [find?_members_description]
  cases group.description with
  | none => exact .leftOut
  | some text => exact .written rfl

theorem stated_profiles :
    Stated Node.IsTexts [] group.profiles.toList
      (group.members.find? "productProfileIds") := by
  rw [find?_members_profiles]
  split
  · rename_i empty
    rw [List.isEmpty_iff.mp empty]
    exact .leftOut
  · exact .written rfl

theorem ofNode_toNode : ofNode group.toNode = .ok group := by
  have distinct : keys.Nodup := by decide
  have holds : group.toNode.HoldsUnder keys group.members.find? :=
    holdsUnder_ofMembers distinct ((keys_members_sublist group).nodup distinct)
      (keys_members_sublist group).subset
  have id : group.members.find? "id" = some (.string group.id) := rfl
  have permits : ∀ key ∈ keys, shape.Permits group.members.find? key := by
    simp only [keys, List.forall_mem_cons]
    exact ⟨permits_of_eq_some id (Node.IsText.asString_eq rfl) rfl,
      group.stated_description.permits Node.IsOptional.asOptionalString_eq rfl,
      group.stated_profiles.permits Node.IsTexts.asListOf_eq rfl, nofun⟩
  obtain ⟨gathered, made, found⟩ := exists_gather_of_holdsUnder distinct permits holds
  simp only [ofNode, made, ok_bind, Gathered.required, found, id, Node.asString,
    group.stated_description.getD_eq Node.IsOptional.asOptionalString_eq (found _),
    group.stated_profiles.getD_eq Node.IsTexts.asListOf_eq (found _), NameSet.ofList_toList]
  rfl

theorem isPlain_toNode : group.toNode.IsPlain := by
  refine .object group.members ?_
  obtain ⟨id, description, profiles⟩ := group
  simp only [members, List.forall_mem_cons, List.forall_mem_append]
  refine ⟨.string id, ?_, ?_⟩
  · cases description with
    | none => exact nofun
    | some text => simpa using .string text
  · split
    · exact nofun
    · simpa using Node.isPlain_ofStrings profiles.toList

/-! ### Profiles listed otherwise -/

theorem Relists.symm {node other : Node} (relists : Relists node other) : Relists other node := by
  cases relists with
  | same => exact .same node
  | member sameNames before after => exact .member (fun name => (sameNames name).symm) before after
  | item sameNames id description => exact .item (fun name => (sameNames name).symm) id description

section Listing

variable {group} {names others : List String} (sameNames : ∀ name, name ∈ names ↔ name ∈ others)

theorem kept_profiles (names : List String) (before after : List (Node × Node)) :
    shape.kept (before ++ (.string "productProfileIds", .ofStrings names) :: after) =
      shape.kept before ++ ("productProfileIds", .ofStrings names) :: shape.kept after := by
  rw [RecordShape.kept, List.filterMap_append]
  rfl

def assemble (gathered : Gathered) : Decoded Group := do
  let id ← gathered.required "id" Node.asString
  let description ← gathered.getD "description" Node.asOptionalString none
  let profiles ← gathered.getD "productProfileIds" (Node.asListOf Node.asString) []
  return ⟨id, description, .ofList profiles⟩

theorem ofNode_eq (node : Node) : ofNode node = shape.gather node >>= assemble :=
  rfl

theorem gather_item (id description : Node) (names : List String) :
    shape.gather (.list [id, description, .ofStrings names] none) =
      (Node.asString id >>= fun _ => Node.asOptionalString description >>= fun _ =>
        .ok [("id", id), ("description", description),
          ("productProfileIds", .ofStrings names)]) := by
  have taken : (Field.withDefault "productProfileIds" (Node.asListOf Node.asString)).check
      (.ofStrings names) = .ok () := congrArg (Except.map _) (Node.asListOf_ofStrings names)
  simp only [RecordShape.gather, shape, RecordShape.gatherItems, taken]
  simp only [Field.mandatory, Field.withDefault]
  cases id.asString <;> cases description.asOptionalString <;> rfl

include sameNames

theorem assemble_eq {first second : Gathered}
    (beside : ∀ name, name ≠ "productProfileIds" → first.find? name = second.find? name)
    (profiles : first.find? "productProfileIds" = some (.ofStrings names))
    (otherProfiles : second.find? "productProfileIds" = some (.ofStrings others)) :
    assemble first = assemble second := by
  simp only [assemble, Gathered.required, Gathered.getD, beside "id" (by decide),
    beside "description" (by decide), profiles, otherProfiles, Node.asListOf_ofStrings, ok_bind,
    NameSet.ofList_eq_iff.mpr sameNames]

theorem ofNode_member {before after : List (Node × Node)}
    (made : ofNode (.object
      (before ++ (.string "productProfileIds", .ofStrings names) :: after) none) = .ok group) :
    ofNode (.object
      (before ++ (.string "productProfileIds", .ofStrings others) :: after) none) = .ok group := by
  rw [ofNode_eq, RecordShape.gather_bind_eq_ok_iff] at made ⊢
  obtain ⟨⟨passes, distinct⟩, assembled⟩ := made
  rw [List.forall_mem_append, List.forall_mem_cons] at passes
  rw [kept_profiles] at distinct assembled
  have otherDistinct : ((shape.kept before ++
      ("productProfileIds", Node.ofStrings others) :: shape.kept after).map Prod.fst).Nodup := by
    simpa using distinct
  constructor
  · refine ⟨?_, by rwa [kept_profiles]⟩
    rw [List.forall_mem_append, List.forall_mem_cons]
    refine ⟨passes.1, ⟨_, rfl, ?_⟩, passes.2.2⟩
    exact congrArg (Except.map _) (Node.asListOf_ofStrings others)
  · rw [← assembled, kept_profiles]
    refine (assemble_eq sameNames (fun name different => ?_)
      (Gathered.find?_append_cons_self distinct)
      (Gathered.find?_append_cons_self otherDistinct)).symm
    rw [Gathered.find?_append_cons_of_ne different, Gathered.find?_append_cons_of_ne different]

theorem ofNode_item (id description : Node) :
    ofNode (.list [id, description, .ofStrings names] none) =
      ofNode (.list [id, description, .ofStrings others] none) := by
  have assembled : assemble [("id", id), ("description", description),
        ("productProfileIds", .ofStrings names)] =
      assemble [("id", id), ("description", description),
        ("productProfileIds", .ofStrings others)] := by
    refine assemble_eq sameNames (fun name different => ?_) rfl rfl
    have beside (profiles : Node) : Gathered.find?
        ([("id", id), ("description", description)] ++ [("productProfileIds", profiles)]) name =
          Gathered.find? ([("id", id), ("description", description)] ++ []) name :=
      Gathered.find?_append_cons_of_ne different
    exact (beside _).trans (beside _).symm
  rw [ofNode_eq, ofNode_eq, gather_item, gather_item]
  cases id.asString with
  | error refusal => rfl
  | ok text =>
      cases description.asOptionalString with
      | error refusal => rfl
      | ok told => exact assembled

end Listing

theorem ofNode_of_relists {node other : Node} (relists : Relists node other) {group : Group}
    (made : ofNode node = .ok group) : ofNode other = .ok group := by
  cases relists with
  | same => exact made
  | member sameNames before after => exact ofNode_member sameNames made
  | item sameNames id description => exact ofNode_item sameNames id description ▸ made

/-! ### Lists of groups -/

theorem isPlain_groups (groups : List Group) : (Node.ofList (groups.map toNode)).IsPlain := by
  refine .list _ fun item listed => ?_
  obtain ⟨group, -, rfl⟩ := List.mem_map.mp listed
  exact isPlain_toNode group

theorem readList_renderList (groups : List Group) : readList (renderList groups) = .ok groups := by
  rw [readList, renderList,
    Json.decode_of_spells listOfNode (Json.spells_render (isPlain_groups groups)), listOfNode,
    Node.asListOf_eq_ok_iff]
  refine ⟨_, rfl, List.forall₂_map_left_iff.mpr ?_⟩
  exact List.forall₂_same.mpr fun group _ => ofNode_toNode group

theorem forall₂_ofNode_of_relists {items others : List Node} {groups : List Group}
    (relists : List.Forall₂ Relists items others)
    (made : List.Forall₂ (fun item group => ofNode item = .ok group) items groups) :
    List.Forall₂ (fun item group => ofNode item = .ok group) others groups := by
  induction relists generalizing groups with
  | nil => exact made
  | cons first _ induction =>
      obtain ⟨group, groups, one, later, rfl⟩ := List.forall₂_cons_left_iff.mp made
      exact .cons (ofNode_of_relists first one) (induction later)

theorem readList_of_relists {text other : String} {items others : List Node} {groups : List Group}
    (spells : Json.Spells text (.ofList items)) (otherSpells : Json.Spells other (.ofList others))
    (relists : List.Forall₂ Relists items others) (made : readList text = .ok groups) :
    readList other = .ok groups := by
  rw [readList, Json.decode_of_spells listOfNode spells, listOfNode,
    Node.asListOf_eq_ok_iff] at made
  rw [readList, Json.decode_of_spells listOfNode otherSpells, listOfNode, Node.asListOf_eq_ok_iff]
  obtain ⟨_, ⟨⟩, each⟩ := made
  exact ⟨others, rfl, forall₂_ofNode_of_relists relists each⟩

theorem rewrite_eq_ok_iff {text written : String} :
    rewrite text = .ok written ↔
      ∃ groups, readList text = .ok groups ∧ renderList groups = written := by
  rw [rewrite]
  cases readList text <;> simp [Except.map]

/-- Every list of groups is read back from its text.  What is written again for a text says the
groups of the text, and it is the same for all texts that list the same profiles. -/
theorem rewrite_keepsGroups :
    (∀ groups : List Group, readList (renderList groups) = .ok groups) ∧
    (∀ (text : String) (groups : List Group), readList text = .ok groups →
      ∃ written, rewrite text = .ok written ∧ readList written = .ok groups) ∧
    (∀ (text other : String) (items others : List Node), Json.Spells text (.ofList items) →
      Json.Spells other (.ofList others) → List.Forall₂ Relists items others →
        ∀ written, rewrite text = .ok written ↔ rewrite other = .ok written) := by
  refine ⟨readList_renderList, fun text groups made => ?_,
    fun text other items others spells otherSpells relists written => ?_⟩
  · exact ⟨_, rewrite_eq_ok_iff.mpr ⟨groups, made, rfl⟩, readList_renderList groups⟩
  · have relistsBack : List.Forall₂ Relists others items :=
      (relists.imp fun _ _ one => one.symm).flip
    rw [rewrite_eq_ok_iff, rewrite_eq_ok_iff]
    constructor
    · rintro ⟨groups, made, rfl⟩
      exact ⟨groups, readList_of_relists spells otherSpells relists made, rfl⟩
    · rintro ⟨groups, made, rfl⟩
      exact ⟨groups, readList_of_relists otherSpells spells relistsBack made, rfl⟩

/-- A group with an empty description, and one whose profiles are listed twice in another order. -/
theorem rewrite_keepsGroups_twice :
    let groups : List Group := [⟨"g", some "", .empty⟩, ⟨"h", none, .ofList ["a", "b"]⟩]
    let items (names : List String) : List Node :=
      [.ofMembers [("id", .string "g"), ("description", .string "")],
        .ofMembers [("id", .string "h"), ("productProfileIds", .ofStrings names)]]
    let text := "[\x7b\"id\":\"g\",\"description\":\"\"\x7d," ++
      "\x7b\"id\":\"h\",\"productProfileIds\":[\"b\",\"a\",\"b\"]\x7d]"
    let written := "[\x7b\"id\":\"g\",\"description\":\"\"\x7d," ++
      "\x7b\"id\":\"h\",\"productProfileIds\":[\"a\",\"b\"]\x7d]"
    renderList groups = written ∧ readList written = .ok groups ∧
      (∃ again, rewrite written = .ok again ∧ readList again = .ok groups) ∧
      Json.Spells text (.ofList (items ["b", "a", "b"])) ∧
      Json.Spells written (.ofList (items ["a", "b"])) ∧
      List.Forall₂ Relists (items ["a", "b"]) (items ["b", "a", "b"]) ∧
      rewrite text = .ok written := by
  intro groups items text written
  have rendered : renderList groups = written := by decide +kernel
  have read : readList written = .ok groups := rendered ▸ rewrite_keepsGroups.1 groups
  have plain (names : List String) : (Node.ofList (items names)).IsPlain := by
    refine .list _ ?_
    simp only [items, List.forall_mem_cons]
    refine ⟨.object _ ?_, .object _ ?_, nofun⟩
    · simpa using ⟨.string "g", .string ""⟩
    · simpa using ⟨.string "h", Node.isPlain_ofStrings names⟩
  have spells : Json.Spells text (.ofList (items ["b", "a", "b"])) := by
    have same : Json.render (.ofList (items ["b", "a", "b"])) = text := by decide +kernel
    exact same ▸ Json.spells_render (plain _)
  have writtenSpells : Json.Spells written (.ofList (items ["a", "b"])) := by
    have same : Json.render (.ofList (items ["a", "b"])) = written := by decide +kernel
    exact same ▸ Json.spells_render (plain _)
  have relists : List.Forall₂ Relists (items ["a", "b"]) (items ["b", "a", "b"]) :=
    .cons (.same _) (.cons
      (.member (fun name => by simp; tauto) [(.string "id", .string "h")] []) .nil)
  have again : rewrite written = .ok written := rewrite_eq_ok_iff.mpr ⟨groups, read, rendered⟩
  exact ⟨rendered, read, rewrite_keepsGroups.2.1 written groups read, spells, writtenSpells,
    relists,
    (rewrite_keepsGroups.2.2 written text _ _ writtenSpells spells relists written).mp again⟩

end Group

end GroupSync
