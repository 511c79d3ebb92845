import GroupSync.Proofs.FailFast
import GroupSync.Proofs.Payload
import Mathlib.Data.Finset.Dedup
import Mathlib.Data.Finset.Lattice.Basic

/-!
# Running again

A run that breaks off leaves the steps behind that were executed before.  This file says what the
directory comes to if the run is repeated from the start: the directory of one uninterrupted run.

A directory satisfies an instruction if there is nothing left to do for it.  What is satisfied
changes nothing when it is executed once more, and stays satisfied whatever else is executed.  Since
every command creates its group before anything is added to it, all that a run has executed is
satisfied.
-/

namespace GroupSync

/-- A step for the group of an id, as a directory receives it. -/
structure Instruction where
  groupId : String
  step : Step
deriving DecidableEq

def Command.instructions (command : Command) : List Instruction :=
  command.steps.map (Instruction.mk command.groupId)

def Batch.instructions (batch : Batch) : List Instruction :=
  batch.commands.flatMap Command.instructions

namespace Instruction

/-- The instructions of a whole run, batch by batch. -/
def ofGroups (profiles : NameSet) (groups : List Group) : List Instruction :=
  (Batch.ofGroups profiles groups).flatMap Batch.instructions

/-- Cutting commands into batches does not change what is executed. -/
theorem ofGroups_eq_flatMap (profiles : NameSet) (groups : List Group) :
    ofGroups profiles groups =
      groups.flatMap fun group => (Command.ofGroup profiles group).instructions := by
  have uncut : ofGroups profiles groups =
      ((Batch.ofGroups profiles groups).flatMap Batch.commands).flatMap Command.instructions :=
    List.flatMap_assoc.symm
  rw [uncut, Batch.ofGroups, Batch.flatMap_commands_split, Command.ofGroups, List.flatMap_map]

def IsCreation (instruction : Instruction) : Prop :=
  ∃ policy description, instruction.step = .createGroup policy description

/-- Up to every instruction, and including it, there is one that creates its group. -/
def Founded (instructions : List Instruction) : Prop :=
  ∀ front last back, instructions = front ++ last :: back →
    ∃ creation ∈ front ++ [last], creation.groupId = last.groupId ∧ creation.IsCreation

variable {instructions others : List Instruction}

theorem founded_nil : Founded [] := by
  intro front last back split
  simp at split

theorem Founded.leading (founded : Founded others) (leading : instructions <+: others) :
    Founded instructions := by
  rintro front last back rfl
  obtain ⟨rest, rfl⟩ := leading
  exact founded front last (back ++ rest) (by simp)

theorem Founded.append (founded : Founded instructions) (further : Founded others) :
    Founded (instructions ++ others) := by
  intro front last back split
  rcases List.append_eq_append_iff.mp split with ⟨part, rfl, rest⟩ | ⟨part, whole, rest⟩
  · obtain ⟨creation, member, creates⟩ := further part last back rest
    exact ⟨creation, by simp_all, creates⟩
  · cases part with
    | nil =>
        obtain ⟨creation, member, creates⟩ := further [] last back rest.symm
        exact ⟨creation, List.mem_append_right front member, creates⟩
    | cons first part =>
        obtain ⟨rfl, -⟩ := List.cons_eq_cons.mp rest
        exact founded front last part whole

theorem founded_map_createGroup (groupId : String) (policy : ConflictPolicy)
    (description : Option String) (steps : List Step) :
    Founded ((Step.createGroup policy description :: steps).map (Instruction.mk groupId)) := by
  intro front last back split
  have own : last.groupId = groupId := by
    have member : last ∈ (Step.createGroup policy description :: steps).map (mk groupId) := by
      simp [split]
    obtain ⟨step, -, rfl⟩ := List.mem_map.mp member
    rfl
  refine ⟨⟨groupId, .createGroup policy description⟩, ?_, own.symm, policy, description, rfl⟩
  cases front <;> simp_all

theorem founded_ofGroups (profiles : NameSet) (groups : List Group) :
    Founded (ofGroups profiles groups) := by
  rw [ofGroups_eq_flatMap]
  induction groups with
  | nil => exact founded_nil
  | cons group groups induction =>
      rw [List.flatMap_cons]
      exact (founded_map_createGroup _ _ _ _).append induction

end Instruction

/-- What a directory knows of a group. -/
structure DirectoryEntry where
  description : Option String
  profiles : Finset String
deriving DecidableEq

/-- The groups of a directory by their ids. -/
abbrev Directory := String → Option DirectoryEntry

namespace Directory

open Instruction

/-- Execute an instruction.  A group is created as it is described, unless it exists; profiles are
added to those that the group has, and where there is no group there is nothing to add to. -/
def execute (directory : Directory) (instruction : Instruction) : Directory :=
  match instruction.step, directory instruction.groupId with
  | .createGroup .ignoreIfExists _, some _ => directory
  | .createGroup .ignoreIfExists description, none =>
      Function.update directory instruction.groupId (some ⟨Step.told description, ∅⟩)
  | .addMembership _ profiles, some entry =>
      Function.update directory instruction.groupId
        (some { entry with profiles := entry.profiles ∪ profiles.toList.toFinset })
  | .addMembership _ _, none => directory

def executeAll (directory : Directory) (instructions : List Instruction) : Directory :=
  instructions.foldl execute directory

/-- There is nothing left to do for an instruction. -/
def Satisfies (directory : Directory) (instruction : Instruction) : Prop :=
  ∃ entry, directory instruction.groupId = some entry ∧
    match instruction.step with
    | .createGroup _ _ => True
    | .addMembership _ profiles => profiles.toList.toFinset ⊆ entry.profiles

variable {directory : Directory} {instruction other : Instruction}
  {instructions : List Instruction} {groupId : String} {entry : DirectoryEntry}

theorem executeAll_append (directory : Directory) (first second : List Instruction) :
    directory.executeAll (first ++ second) = (directory.executeAll first).executeAll second :=
  List.foldl_append

theorem execute_apply_of_ne (other : groupId ≠ instruction.groupId) :
    directory.execute instruction groupId = directory groupId := by
  rcases instruction with ⟨id, ⟨policy, description⟩ | ⟨users, profiles⟩⟩
  · cases policy
    cases present : directory id with
    | none => simp only [execute, present, Function.update_of_ne other]
    | some entry => simp only [execute, present]
  · cases present : directory id with
    | none => simp only [execute, present]
    | some entry => simp only [execute, present, Function.update_of_ne other]

theorem execute_apply_of_present (present : directory instruction.groupId = some entry) :
    directory.execute instruction instruction.groupId =
      match instruction.step with
      | .createGroup _ _ => some entry
      | .addMembership _ profiles =>
          some { entry with profiles := entry.profiles ∪ profiles.toList.toFinset } := by
  rcases instruction with ⟨id, ⟨policy, description⟩ | ⟨users, profiles⟩⟩
  · cases policy
    simp only [execute, present]
  · simp only [execute, present, Function.update_self]

/-- Wherever there is a group, there is one after any instruction, with the same description and
no profile less. -/
theorem exists_execute_eq_some (instruction : Instruction)
    (present : directory groupId = some entry) :
    ∃ later, directory.execute instruction groupId = some later ∧
      later.description = entry.description ∧ entry.profiles ⊆ later.profiles := by
  by_cases same : groupId = instruction.groupId
  · subst same
    rw [execute_apply_of_present present]
    cases instruction.step with
    | createGroup policy description => exact ⟨entry, rfl, rfl, Finset.Subset.refl _⟩
    | addMembership users profiles => exact ⟨_, rfl, rfl, Finset.subset_union_left⟩
  · exact ⟨entry, by rw [execute_apply_of_ne same, present], rfl, Finset.Subset.refl _⟩

theorem execute_eq_self (satisfied : directory.Satisfies instruction) :
    directory.execute instruction = directory := by
  obtain ⟨groupId, step⟩ := instruction
  obtain ⟨entry, present, done⟩ := satisfied
  cases step with
  | createGroup policy description =>
      cases policy
      simp only [execute, present]
  | addMembership users profiles =>
      have same : entry.profiles ∪ profiles.toList.toFinset = entry.profiles :=
        Finset.union_eq_left.mpr done
      simp only [execute, present, same]
      rw [← present, Function.update_eq_self]

theorem Satisfies.execute (satisfied : directory.Satisfies instruction) (other : Instruction) :
    (directory.execute other).Satisfies instruction := by
  obtain ⟨entry, present, done⟩ := satisfied
  obtain ⟨later, kept, -, more⟩ := exists_execute_eq_some other present
  refine ⟨later, kept, ?_⟩
  cases step : instruction.step with
  | createGroup policy description => trivial
  | addMembership users profiles =>
      rw [step] at done
      exact Finset.Subset.trans done more

theorem satisfies_execute_of_present (present : directory instruction.groupId = some entry) :
    (directory.execute instruction).Satisfies instruction := by
  rw [Satisfies, execute_apply_of_present present]
  cases instruction.step with
  | createGroup policy description => exact ⟨_, rfl, trivial⟩
  | addMembership users profiles => exact ⟨_, rfl, Finset.subset_union_right⟩

theorem satisfies_execute_of_isCreation (creates : instruction.IsCreation) :
    (directory.execute instruction).Satisfies instruction := by
  cases present : directory instruction.groupId with
  | some entry => exact satisfies_execute_of_present present
  | none =>
      obtain ⟨⟨⟩, description, created⟩ := creates
      refine ⟨⟨Step.told description, ∅⟩, ?_, by rw [created]; trivial⟩
      simp only [execute, created, present, Function.update_self]

theorem executeAll_eq_self (satisfied : ∀ instruction ∈ instructions,
    directory.Satisfies instruction) : directory.executeAll instructions = directory := by
  induction instructions with
  | nil => rfl
  | cons first rest induction =>
      have settled : directory.execute first = directory :=
        execute_eq_self (satisfied first List.mem_cons_self)
      rw [executeAll, List.foldl_cons, settled]
      exact induction fun later member => satisfied later (List.mem_cons_of_mem _ member)

/-- Once instructions that create their groups are executed, all of them are satisfied. -/
theorem satisfies_executeAll (directory : Directory) (founded : Founded instructions) :
    ∀ instruction ∈ instructions, (directory.executeAll instructions).Satisfies instruction := by
  induction instructions using List.reverseRecOn with
  | nil => simp
  | append_singleton front last induction =>
      have earlier := induction (founded.leading (List.prefix_append _ _))
      intro instruction member
      rw [executeAll_append]
      rcases List.mem_append.mp member with before | now
      · exact (earlier instruction before).execute last
      · -- The group of the last instruction was created before, or is created by it.
        obtain rfl := List.mem_singleton.mp now
        obtain ⟨creation, created, sameGroup, creates⟩ := founded front instruction [] rfl
        rcases List.mem_append.mp created with before | now
        · obtain ⟨entry, present, -⟩ := earlier creation before
          exact satisfies_execute_of_present (sameGroup ▸ present)
        · obtain rfl := List.mem_singleton.mp now
          exact satisfies_execute_of_isCreation creates

theorem executeAll_executeAll (founded : Founded instructions) :
    (directory.executeAll instructions).executeAll instructions =
      directory.executeAll instructions :=
  executeAll_eq_self (satisfies_executeAll directory founded)

theorem executeAll_of_prefix {executed : List Instruction} (founded : Founded instructions)
    (leading : executed <+: instructions) :
    (directory.executeAll executed).executeAll instructions =
      directory.executeAll instructions := by
  obtain ⟨rest, rfl⟩ := leading
  rw [executeAll_append, executeAll_append,
    executeAll_executeAll (founded.leading (List.prefix_append _ _))]

end Directory

def Call.instructions : Call → List Instruction
  | .acquire => []
  | .send batch _ => batch.instructions

namespace Rehearsal

open Scenario Summary Synchronization

variable {token : Token} {total number : Nat}

/-- What a run sends, whatever the world outside does, are the first of its instructions. -/
theorem instructions_isPrefix (scenario : Scenario) (profiles : NameSet) (groups : List Group) :
    (rehearse scenario profiles groups).2.calls.flatMap Call.instructions <+:
      Instruction.ofGroups profiles groups := by
  cases granted : scenario.token with
  | error error =>
      rw [rehearse_of_denied granted]
      exact List.nil_prefix
  | ok token =>
      obtain ⟨count, -, calls⟩ := exists_calls_rehearse profiles groups granted
      rw [calls, List.flatMap_cons, List.flatMap_map]
      exact (List.take_prefix count _).flatMap Batch.instructions

end Rehearsal

namespace Directory

open Instruction

theorem mem_ofGroups {profiles : NameSet} {groups : List Group} {group : Group} {step : Step}
    (listed : group ∈ groups) (commanded : step ∈ (Command.ofGroup profiles group).steps) :
    ⟨group.id, step⟩ ∈ ofGroups profiles groups := by
  rw [ofGroups_eq_flatMap]
  exact List.mem_flatMap_of_mem listed (List.mem_map_of_mem commanded)

/-- After a run every group of the list exists and is in all the configured profiles. -/
theorem exists_executeAll_ofGroups_eq_some {profiles : NameSet} {groups : List Group}
    {group : Group} (directory : Directory) (listed : group ∈ groups) :
    ∃ entry, directory.executeAll (ofGroups profiles groups) group.id = some entry ∧
      profiles.toList.toFinset ⊆ entry.profiles := by
  have satisfied := satisfies_executeAll directory (founded_ofGroups profiles groups)
  by_cases none : profiles.isEmpty = true
  · obtain ⟨entry, present, -⟩ :=
      satisfied ⟨group.id, .create group.description⟩ (mem_ofGroups listed List.mem_cons_self)
    have empty : profiles.toList = [] := by simpa [NameSet.isEmpty] using none
    exact ⟨entry, present, by simp [empty]⟩
  · have adds : Step.addProfiles profiles ∈ (Command.ofGroup profiles group).steps := by
      simp [Command.ofGroup, none]
    exact satisfied ⟨group.id, .addProfiles profiles⟩ (mem_ofGroups listed adds)

/-- A run leaves every group of the list there, in all the configured profiles.  Whatever part of
it was executed before it broke off, at whatever step, repeating it leaves the directory of one
uninterrupted run; that covers what is sent by any run that ends early.  Repeating a complete run
changes nothing. -/
theorem executeAll_rerun (profiles : NameSet) (groups : List Group) (directory : Directory) :
    let run := ofGroups profiles groups
    (∀ group ∈ groups, ∃ entry, directory.executeAll run group.id = some entry ∧
      profiles.toList.toFinset ⊆ entry.profiles) ∧
    (∀ count, (directory.executeAll (run.take count)).executeAll run =
      directory.executeAll run) ∧
    (∀ scenario count,
      let sent := (rehearse scenario profiles groups).2.calls.flatMap Call.instructions
      (directory.executeAll (sent.take count)).executeAll run = directory.executeAll run) ∧
    (directory.executeAll run).executeAll run = directory.executeAll run := by
  intro run
  have founded : Founded run := founded_ofGroups profiles groups
  refine ⟨fun group => exists_executeAll_ofGroups_eq_some directory, ?_, ?_,
    executeAll_executeAll founded⟩
  · intro count
    exact executeAll_of_prefix founded (List.take_prefix count run)
  · intro scenario count sent
    have leading : sent <+: run := Rehearsal.instructions_isPrefix scenario profiles groups
    exact executeAll_of_prefix founded ((List.take_prefix count sent).trans leading)

/-- Two descriptions for one id: the first of them stays, although the run broke off after its
first step and was repeated. -/
theorem executeAll_rerun_same_id :
    let profiles := NameSet.ofList ["Users"]
    let first : Group := ⟨"authors", some "first", .empty⟩
    let second : Group := ⟨"authors", some "second", .empty⟩
    let run := ofGroups profiles [first, second]
    let directory : Directory := fun _ => none
    first ∈ [first, second] ∧
      (∃ entry, directory.executeAll run "authors" = some entry ∧
        profiles.toList.toFinset ⊆ entry.profiles) ∧
      (directory.executeAll (run.take 1)).executeAll run = directory.executeAll run ∧
      directory.executeAll run "authors" = some ⟨some "first", {"Users"}⟩ := by
  intro profiles first second run directory
  have safe := executeAll_rerun profiles [first, second] directory
  have listed : first ∈ [first, second] := List.mem_cons_self
  exact ⟨listed, safe.1 first listed, safe.2.1 1, by decide⟩

/-- Were a group created only after something is added to it, repeating would make a difference. -/
example :
    let late : List Instruction :=
      [⟨"authors", .addProfiles (.ofList ["Users"])⟩, ⟨"authors", .create none⟩]
    let once := executeAll (fun _ => none) late
    once.executeAll late "authors" ≠ once "authors" := by
  decide

end Directory

end GroupSync
