import GroupSync.Proofs.BatchCutting
import GroupSync.Proofs.Payload
import Mathlib.Data.List.Sort

/-!
# What the payloads of groups say

The payloads that are sent for a list of groups say one thing for each group, in the order of the
groups, whatever the borders between the batches are.  Nothing but the identifiers, the non-empty
descriptions and the set of configured profiles can be told from them.
-/

namespace GroupSync

open Document

namespace NameSet

theorem eq_of_mem_iff {names others : NameSet}
    (same : ∀ name, name ∈ names.toList ↔ name ∈ others.toList) : names = others :=
  toList_inj.mp (names.ascending.eq_of_mem_iff others.ascending same)

/-- Two lists make the same set exactly if they have the same members; order and repetition do not
count. -/
theorem ofList_eq_iff {names others : List String} :
    ofList names = ofList others ↔ ∀ name, name ∈ names ↔ name ∈ others := by
  constructor
  · intro same name
    rw [← mem_ofList, same, mem_ofList]
  · intro same
    refine eq_of_mem_iff fun name => ?_
    rw [mem_ofList, mem_ofList, same]

theorem toList_ofList_eq_nil {names : List String} : (ofList names).toList = [] ↔ names = [] := by
  simp only [List.eq_nil_iff_forall_not_mem, mem_ofList]

end NameSet

namespace Group

/-- A tree spells a group under configured profiles: it is an object that holds the group and its
steps.  The first step creates the group; if there are profiles, a second one adds it to them, and
to nothing else. -/
def IsSpelledBy (profiles : List String) (group : Group) (node : Node) : Prop :=
  ∃ creation additions,
    node.HasMembers [("usergroup", .string group.id), ("do", .ofList (creation :: additions))] ∧
      (Step.create group.description).IsSpelledBy creation ∧
      additions.length = (if profiles = [] then 0 else 1) ∧
      ∀ addition ∈ additions, ∃ listed, listed.ListsNames profiles ∧
        addition = .ofMembers [("add", .ofMembers [("productConfiguration", listed)])]

/-- Groups that are told to the directory in the same way: profiles of their own do not count. -/
def SoundsLike (group other : Group) : Prop :=
  group.id = other.id ∧ Step.told group.description = Step.told other.description

end Group

namespace Command

theorem isSpelledBy_toNode_ofGroup (profiles : List String) (group : Group) :
    group.IsSpelledBy profiles (ofGroup (.ofList profiles) group).toNode := by
  have listed : (Node.ofStrings (NameSet.ofList profiles).toList).ListsNames profiles :=
    ⟨_, rfl, NameSet.pairwise_utf8Bytes _, fun _ => NameSet.mem_ofList⟩
  have empty : (NameSet.ofList profiles).isEmpty = true ↔ profiles = [] := by
    rw [NameSet.isEmpty, List.isEmpty_iff, NameSet.toList_ofList_eq_nil]
  refine ⟨_, _, ⟨_, .swap _ _ _, rfl⟩, Step.isSpelledBy_toNode _, ?_⟩
  by_cases none : profiles = []
  · rw [if_pos (empty.mpr none), if_pos none]
    exact ⟨rfl, fun addition member => absurd member List.not_mem_nil⟩
  · rw [if_neg (mt empty.mp none), if_neg none]
    refine ⟨rfl, fun addition member => ⟨_, listed, ?_⟩⟩
    obtain rfl := List.mem_singleton.mp member
    have present : Step.setMember "productConfiguration" (.ofList profiles) =
        [("productConfiguration", .ofStrings (NameSet.ofList profiles).toList)] :=
      if_neg (mt empty.mp none)
    rw [Step.addProfiles, Step.toNode, Step.body, present]
    rfl

theorem tidy_ofGroup (profiles : NameSet) (group : Group) :
    (ofGroup profiles group).tidy =
      ⟨group.id, .createGroup default (Step.told group.description) ::
        if profiles.isEmpty then [] else [.addProfiles profiles]⟩ := by
  cases empty : profiles.isEmpty <;>
    simp [ofGroup, tidy, Step.tidy, Step.create, Step.addProfiles, empty]

/-- Which commands of groups are the same, up to empty descriptions. -/
theorem tidy_ofGroup_inj {profiles others : NameSet} {group other : Group} :
    (ofGroup profiles group).tidy = (ofGroup others other).tidy ↔
      profiles = others ∧ group.SoundsLike other := by
  have additions : (if profiles.isEmpty then [] else [Step.addProfiles profiles]) =
      (if others.isEmpty then [] else [Step.addProfiles others]) ↔ profiles = others := by
    rw [← NameSet.toList_inj, NameSet.isEmpty, NameSet.isEmpty]
    cases names : profiles.toList <;> cases otherNames : others.toList <;>
      simp [Step.addProfiles, ← NameSet.toList_inj, names, otherNames]
  rw [tidy_ofGroup, tidy_ofGroup, mk.injEq, List.cons.injEq, additions, Group.SoundsLike]
  simp only [Step.createGroup.injEq, true_and]
  rw [← and_assoc, and_comm]

end Command

namespace Batch

/-- Whether descriptions are empty does not matter for where the commands are cut. -/
theorem map_tidy_split (size : Nat) (commands : List Command) :
    (split size commands).map tidy = split size (commands.map Command.tidy) := by
  refine split_induction size (motive := fun commands batches =>
    batches.map tidy = split size (commands.map Command.tidy)) rfl ?_ commands
  intro commands present induction
  have mapped : commands.map Command.tidy ≠ [] := by simpa using present
  rw [List.map_cons, induction, split_eq_take_cons_drop size mapped, tidy, List.map_take,
    List.map_drop]

theorem split_inj {size : Nat} {commands others : List Command} :
    split size commands = split size others ↔ commands = others := by
  refine ⟨fun same => ?_, fun same => same ▸ rfl⟩
  rw [← flatMap_commands_split size commands, same, flatMap_commands_split]

theorem map_payload_inj {batches others : List Batch} :
    batches.map payload = others.map payload ↔ batches.map tidy = others.map tidy := by
  simp only [← List.forall₂_eq_eq_eq, List.forall₂_map_left_iff, List.forall₂_map_right_iff,
    payload_inj]

/-- The payloads of a list of groups are read as lists that, joined, hold one tree for each group,
in order, that spells the group.  Two lists of groups have the same payloads exactly if the groups
sound alike one by one and, unless there are none, the configured profiles have the same members. -/
theorem payloads_ofGroups (profiles : List String) (groups : List Group) :
    (∃ parts : List (List Node),
      List.Forall₂ (fun batch items => Json.read batch.payload.toList = (.ofList items, some []))
        (ofGroups (.ofList profiles) groups) parts ∧
      List.Forall₂ (Group.IsSpelledBy profiles) groups parts.flatten) ∧
    ∀ (others : List String) (otherGroups : List Group),
      (ofGroups (.ofList profiles) groups).map payload =
          (ofGroups (.ofList others) otherGroups).map payload ↔
        List.Forall₂ Group.SoundsLike groups otherGroups ∧
          (groups ≠ [] → ∀ name, name ∈ profiles ↔ name ∈ others) := by
  constructor
  · refine ⟨(ofGroups (.ofList profiles) groups).map fun batch => batch.commands.map Command.toNode,
      ?_, ?_⟩
    · rw [List.forall₂_map_right_iff]
      exact List.forall₂_same.mpr fun batch _ => batch.read_payload
    · rw [← List.flatMap_def, ← List.map_flatMap, ofGroups, flatMap_commands_split,
        Command.ofGroups, List.forall₂_map_right_iff, List.forall₂_map_right_iff]
      exact List.forall₂_same.mpr fun group _ => Command.isSpelledBy_toNode_ofGroup profiles group
  · intro others otherGroups
    have profilesMatter : (∀ group ∈ groups, NameSet.ofList profiles = .ofList others) ↔
        (groups ≠ [] → ∀ name, name ∈ profiles ↔ name ∈ others) := by
      rw [← NameSet.ofList_eq_iff]
      constructor
      · intro same present
        obtain ⟨group, member⟩ := List.exists_mem_of_ne_nil groups present
        exact same group member
      · exact fun same group member => same (List.ne_nil_of_mem member)
    rw [map_payload_inj, ofGroups, ofGroups, map_tidy_split, map_tidy_split, split_inj,
      Command.ofGroups, Command.ofGroups, List.map_map, List.map_map, ← List.forall₂_eq_eq_eq,
      List.forall₂_map_left_iff, List.forall₂_map_right_iff]
    simp only [Function.comp_apply, Command.tidy_ofGroup_inj]
    rw [List.forall₂_and_left, profilesMatter, and_comm]

end Batch

end GroupSync
