import GroupSync.Command
import GroupSync.Proofs.ByteOrder
import GroupSync.Proofs.JsonRoundTrip
import Mathlib.Data.List.Forall2

/-!
# What a payload says

The payload of a batch is read back as one object for each command, and from these objects every
command is known up to empty descriptions.  What an object must hold is stated member by member,
without regard to the order of its members.
-/

namespace GroupSync

open Document

namespace Document.Node

/-- An object without a flaw that has the given members, in whatever order. -/
def HasMembers (node : Node) (members : List (String × Node)) : Prop :=
  ∃ written : List (String × Node), written.Perm members ∧ node = .ofMembers written

/-- A list without a flaw that holds the given names, each of them once, in the order of their
bytes. -/
def ListsNames (node : Node) (names : List String) : Prop :=
  ∃ texts : List String, node = .ofStrings texts ∧
    texts.Pairwise (fun first second =>
      Text.utf8Bytes first.toList < Text.utf8Bytes second.toList) ∧
    ∀ text, text ∈ texts ↔ text ∈ names

theorem listsNames_ofStrings (names : NameSet) :
    (ofStrings names.toList).ListsNames names.toList :=
  ⟨names.toList, rfl, names.pairwise_utf8Bytes, fun _ => Iff.rfl⟩

@[simp]
theorem ofList_inj {items others : List Node} : ofList items = ofList others ↔ items = others := by
  simp [ofList]

@[simp]
theorem ofMembers_inj {members others : List (String × Node)} :
    ofMembers members = ofMembers others ↔ members = others := by
  have injective : Function.Injective
      fun member : String × Node => ((.string member.1, member.2) : Node × Node) := by
    rintro ⟨key, value⟩ ⟨other, otherValue⟩ same
    simpa using same
  rw [ofMembers, ofMembers, object.injEq, List.map_inj_right fun _ _ same => injective same]
  simp

@[simp]
theorem ofStrings_inj {texts others : List String} :
    ofStrings texts = ofStrings others ↔ texts = others := by
  have injective : ∀ first second : String, string first = string second → first = second :=
    fun _ _ same => string.inj same
  rw [ofStrings, ofStrings, ofList_inj, List.map_inj_right injective]

theorem isPlain_ofStrings (texts : List String) : (ofStrings texts).IsPlain := by
  refine .list _ fun item member => ?_
  obtain ⟨text, -, rfl⟩ := List.mem_map.mp member
  exact .string text

end Document.Node

namespace Step

/-- The description that is told to the directory: an empty one is none. -/
def told (description : Option String) : Option String :=
  description.filter fun text => !text.isEmpty

/-- The step without an empty description. -/
def tidy : Step → Step
  | createGroup policy description => createGroup policy (told description)
  | addMembership users profiles => addMembership users profiles

/-- The member of a given key that lists a set of names; an empty set has none. -/
def listing (key : String) (names : NameSet) (node : Node) : List (String × Node) :=
  if names.toList = [] then [] else [(key, node)]

/-- A tree spells a step: it is an object with a single key, which names the type of the step, and
the value under it holds what the step says and nothing else. -/
def IsSpelledBy : Step → Node → Prop
  | createGroup .ignoreIfExists description, node =>
      ∃ body, node = .ofMembers [("createUserGroup", body)] ∧
        body.HasMembers (("option", .string "ignoreIfAlreadyExists") ::
          (told description).toList.map fun text => ("description", .string text))
  | addMembership users profiles, node =>
      ∃ body userList profileList, node = .ofMembers [("add", body)] ∧
        userList.ListsNames users.toList ∧ profileList.ListsNames profiles.toList ∧
        body.HasMembers
          (listing "user" users userList ++ listing "productConfiguration" profiles profileList)

theorem descriptionMember_eq (description : Option String) :
    descriptionMember description =
      (told description).toList.map fun text => ("description", .string text) := by
  cases description with
  | none => rfl
  | some text => cases empty : text.isEmpty <;> simp [descriptionMember, told, Option.filter, empty]

theorem setMember_eq_listing (key : String) (names : NameSet) :
    setMember key names = listing key names (.ofStrings names.toList) := by
  simp [setMember, listing, NameSet.isEmpty]

theorem isSpelledBy_toNode (step : Step) : step.IsSpelledBy step.toNode := by
  cases step with
  | createGroup policy description =>
      cases policy
      refine ⟨_, rfl, _, ?_, rfl⟩
      rw [descriptionMember_eq]
      exact List.perm_append_singleton _ _
  | addMembership users profiles =>
      refine ⟨_, _, _, rfl, Node.listsNames_ofStrings users, Node.listsNames_ofStrings profiles, _,
        ?_, rfl⟩
      rw [setMember_eq_listing, setMember_eq_listing]
      exact List.perm_append_comm

theorem isPlain_setMember {key : String} {names : NameSet} :
    ∀ member ∈ setMember key names, member.2.IsPlain := by
  intro member written
  rw [setMember] at written
  split at written
  · cases written
  · obtain rfl := List.mem_singleton.mp written
    exact Node.isPlain_ofStrings _

theorem isPlain_toNode (step : Step) : step.toNode.IsPlain := by
  have plainBody : step.body.IsPlain := by
    cases step with
    | createGroup policy description =>
        refine .object _ fun member written => ?_
        rw [descriptionMember_eq] at written
        rcases List.mem_append.mp written with told | option
        · obtain ⟨text, -, rfl⟩ := List.mem_map.mp told
          exact .string text
        · obtain rfl := List.mem_singleton.mp option
          exact .string _
    | addMembership users profiles =>
        refine .object _ fun member written => ?_
        rcases List.mem_append.mp written with listed | listed
        · exact isPlain_setMember member listed
        · exact isPlain_setMember member listed
  refine .object _ fun member written => ?_
  obtain rfl := List.mem_singleton.mp written
  exact plainBody

theorem descriptionMember_inj {description other : Option String} :
    descriptionMember description = descriptionMember other ↔ told description = told other := by
  have injective : ∀ first second : String,
      ("description", Node.string first) = ("description", .string second) → first = second := by
    simp
  rw [descriptionMember_eq, descriptionMember_eq, List.map_inj_right injective]
  cases told description <;> cases told other <;> simp

theorem setMember_inj {key : String} {names others : NameSet} :
    setMember key names = setMember key others ↔ names = others := by
  rw [← NameSet.toList_inj, setMember, setMember, NameSet.isEmpty, NameSet.isEmpty]
  cases names.toList with
  | nil => cases others.toList <;> simp
  | cons name rest => cases others.toList <;> simp

theorem filter_setMember_append {key otherKey : String} (distinct : otherKey ≠ key)
    (names others : NameSet) :
    (setMember key names ++ setMember otherKey others).filter (·.1 == key) =
      setMember key names := by
  have kept : (setMember key names).filter (·.1 == key) = setMember key names := by
    rw [setMember]
    split <;> simp
  have dropped : (setMember otherKey others).filter (·.1 == key) = [] := by
    rw [setMember]
    split <;> simp [distinct]
  rw [List.filter_append, kept, dropped, List.append_nil]

/-- Two sets under two keys are known from the members that they contribute. -/
theorem setMember_append_inj {key otherKey : String} (distinct : otherKey ≠ key)
    {names others moreNames moreOthers : NameSet} :
    setMember key names ++ setMember otherKey others =
        setMember key moreNames ++ setMember otherKey moreOthers ↔
      names = moreNames ∧ others = moreOthers := by
  constructor
  · intro same
    have first := congrArg (List.filter (·.1 == key)) same
    rw [filter_setMember_append distinct, filter_setMember_append distinct, setMember_inj] at first
    subst first
    exact ⟨rfl, setMember_inj.mp (List.append_cancel_left same)⟩
  · rintro ⟨rfl, rfl⟩
    rfl

/-- Steps have the same tree exactly if they differ in nothing but an empty description. -/
theorem toNode_inj {step other : Step} : step.toNode = other.toNode ↔ step.tidy = other.tidy := by
  cases step with
  | createGroup policy description =>
      cases other with
      | createGroup otherPolicy otherDescription =>
          cases policy
          cases otherPolicy
          simp [toNode, body, typeName, tidy, descriptionMember_inj]
      | addMembership users profiles => simp [toNode, typeName, tidy]
  | addMembership users profiles =>
      cases other with
      | createGroup policy description => simp [toNode, typeName, tidy]
      | addMembership otherUsers otherProfiles =>
          have keys : "user" ≠ "productConfiguration" := by decide
          simp [toNode, body, typeName, tidy, setMember_append_inj keys, and_comm]

end Step

namespace Command

/-- The command without empty descriptions. -/
def tidy (command : Command) : Command :=
  { command with steps := command.steps.map Step.tidy }

/-- A tree spells a command: it is an object that holds the group and, in order, the trees of the
steps. -/
def IsSpelledBy (command : Command) (node : Node) : Prop :=
  ∃ steps, List.Forall₂ Step.IsSpelledBy command.steps steps ∧
    node.HasMembers [("usergroup", .string command.groupId), ("do", .ofList steps)]

theorem isSpelledBy_toNode (command : Command) : command.IsSpelledBy command.toNode := by
  refine ⟨command.steps.map Step.toNode, ?_, _, .swap _ _ _, rfl⟩
  rw [List.forall₂_map_right_iff]
  exact List.forall₂_same.mpr fun step _ => step.isSpelledBy_toNode

theorem isPlain_toNode (command : Command) : command.toNode.IsPlain := by
  have plainSteps : (Node.ofList (command.steps.map Step.toNode)).IsPlain := by
    refine .list _ fun item member => ?_
    obtain ⟨step, -, rfl⟩ := List.mem_map.mp member
    exact step.isPlain_toNode
  refine .object _ fun member written => ?_
  simp only [List.mem_cons, List.not_mem_nil, or_false] at written
  rcases written with rfl | rfl
  · exact plainSteps
  · exact .string _

/-- Commands have the same tree exactly if they differ in nothing but empty descriptions. -/
theorem toNode_inj {command other : Command} :
    command.toNode = other.toNode ↔ command.tidy = other.tidy := by
  obtain ⟨groupId, steps⟩ := command
  obtain ⟨otherId, otherSteps⟩ := other
  have stepwise : steps.map Step.toNode = otherSteps.map Step.toNode ↔
      steps.map Step.tidy = otherSteps.map Step.tidy := by
    simp only [← List.forall₂_eq_eq_eq, List.forall₂_map_left_iff, List.forall₂_map_right_iff,
      Step.toNode_inj]
  simp [toNode, tidy, stepwise, and_comm]

end Command

namespace Batch

/-- The batch without empty descriptions. -/
def tidy (batch : Batch) : Batch :=
  ⟨batch.commands.map Command.tidy⟩

theorem isPlain_toNode (batch : Batch) : batch.toNode.IsPlain := by
  refine .list _ fun item member => ?_
  obtain ⟨command, -, rfl⟩ := List.mem_map.mp member
  exact command.isPlain_toNode

/-- The payload of a batch is read as the tree of the batch. -/
theorem read_payload (batch : Batch) :
    Json.read batch.payload.toList = (batch.toNode, some []) := by
  rw [payload, Json.render, String.toList_ofList]
  exact Json.read_chars batch.isPlain_toNode

theorem payload_inj {batch other : Batch} :
    batch.payload = other.payload ↔ batch.tidy = other.tidy := by
  obtain ⟨commands⟩ := batch
  obtain ⟨others⟩ := other
  rw [payload, payload, Json.render_inj (isPlain_toNode _) (isPlain_toNode _)]
  simp only [toNode, tidy, mk.injEq, Node.ofList_inj, ← List.forall₂_eq_eq_eq,
    List.forall₂_map_left_iff, List.forall₂_map_right_iff, Command.toNode_inj]

/-- The payload of a batch is a text that is read to its end as a list of one tree for each command,
in order, that spells the command.  Two batches have the same payload exactly if they differ in
nothing but empty descriptions. -/
theorem payload_spells (batch : Batch) :
    (∃ items, Json.read batch.payload.toList = (.ofList items, some []) ∧
      List.Forall₂ Command.IsSpelledBy batch.commands items) ∧
    ∀ other : Batch, batch.payload = other.payload ↔ batch.tidy = other.tidy := by
  refine ⟨⟨batch.commands.map Command.toNode, batch.read_payload, ?_⟩, fun other => payload_inj⟩
  rw [List.forall₂_map_right_iff]
  exact List.forall₂_same.mpr fun command _ => command.isSpelledBy_toNode

example : payload ⟨[⟨"say \"hi\"", [.create (some ""), .addProfiles (.ofList ["b", "a", "b"])]⟩]⟩ =
    "[\x7b\"do\":[\x7b\"createUserGroup\":\x7b\"option\":\"ignoreIfAlreadyExists\"\x7d\x7d," ++
      "\x7b\"add\":\x7b\"productConfiguration\":[\"a\",\"b\"]\x7d\x7d]," ++
      "\"usergroup\":\"say \\\"hi\\\"\"\x7d]" := by
  decide +kernel

end Batch

end GroupSync
