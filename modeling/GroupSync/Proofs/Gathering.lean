import GroupSync.Document.Decoder
import GroupSync.Proofs.Fallible
import Mathlib.Data.List.Nodup

/-!
# Gathering the members of an object

Members are gathered one after another, and what one of them adds depends on the keys gathered so
far only.  An object is accepted exactly if each of its members is, taken by itself, and no known
key occurs twice; what is gathered are then the members under known keys.
-/

namespace GroupSync

open Fallible

namespace Document.RecordShape

/-- What a member adds to gathered members with the given keys. -/
def added (shape : RecordShape) (keys : List String) (member : Node × Node) : Decoded Gathered := do
  let name ← keyName member.1
  match shape.field? name with
  | none =>
      skip member.2
      return []
  | some field =>
      if name ∈ keys then .error (.duplicateField name)
      else
        field.check member.2
        return [(name, member.2)]

theorem gatherMembers_cons (shape : RecordShape) (member : Node × Node)
    (members : List (Node × Node)) (gathered : Gathered) :
    shape.gatherMembers (member :: members) gathered =
      (shape.added (gathered.map Prod.fst) member >>= fun more =>
        shape.gatherMembers members (gathered ++ more)) := by
  obtain ⟨label, item⟩ := member
  have twice_iff (name : String) :
      (gathered.any fun member => member.1 == name) = true ↔ name ∈ gathered.map Prod.fst := by
    simp
  simp only [gatherMembers, added, twice_iff]
  cases keyName label with
  | error refusal => rfl
  | ok name =>
      simp only [bind, Except.bind]
      cases shape.field? name with
      | none => cases skip item <;> simp [pure, Except.pure]
      | some field =>
          dsimp only
          split
          · rfl
          · cases field.check item <;> simp [pure, Except.pure]

theorem gatherMembers_append (shape : RecordShape) (before after : List (Node × Node))
    (gathered : Gathered) :
    shape.gatherMembers (before ++ after) gathered =
      shape.gatherMembers before gathered >>= shape.gatherMembers after := by
  induction before generalizing gathered with
  | nil => rfl
  | cons member before induction =>
      rw [List.cons_append, gatherMembers_cons, gatherMembers_cons]
      cases shape.added (gathered.map Prod.fst) member with
      | error refusal => rfl
      | ok more => exact induction (gathered ++ more)

variable {shape : RecordShape} {members others : List (Node × Node)}

/-- A member is accepted by itself: its key is a text, and its value can be passed over or is what
the field of that name asks for. -/
def Passes (shape : RecordShape) (member : Node × Node) : Prop :=
  ∃ name, member.1 = .string name ∧
    match shape.field? name with
    | none => member.2.skipFault? = none
    | some field => field.check member.2 = .ok ()

/-- What is kept of a member. -/
def kept? (shape : RecordShape) (member : Node × Node) : Option (String × Node) :=
  match member.1 with
  | .string name => if (shape.field? name).isSome then some (name, member.2) else none
  | _ => none

def kept (shape : RecordShape) (members : List (Node × Node)) : Gathered :=
  members.filterMap shape.kept?

/-- The members of an object are accepted. -/
structure Accepts (shape : RecordShape) (members : List (Node × Node)) : Prop where
  passes : ∀ member ∈ members, shape.Passes member
  distinct : ((shape.kept members).map Prod.fst).Nodup

theorem skip_eq_ok_iff {value : Node} : skip value = .ok () ↔ value.skipFault? = none := by
  rw [skip]
  cases value.skipFault? <;> simp

theorem keyName_eq_ok_iff {key : Node} {name : String} :
    keyName key = .ok name ↔ key = .string name := by
  cases key <;> simp [keyName]

theorem kept_cons (member : Node × Node) :
    shape.kept (member :: members) = (shape.kept? member).toList ++ shape.kept members := by
  rw [kept, kept, List.filterMap_cons]
  cases shape.kept? member <;> rfl

theorem added_eq_ok_iff {keys : List String} {member : Node × Node} {more : Gathered} :
    shape.added keys member = .ok more ↔
      shape.Passes member ∧ more = (shape.kept? member).toList ∧
        ∀ entry ∈ more, entry.1 ∉ keys := by
  obtain ⟨key, value⟩ := member
  simp only [added, bind_eq_ok_iff, keyName_eq_ok_iff, Passes]
  constructor
  · rintro ⟨name, rfl, made⟩
    refine ⟨⟨name, rfl, ?_⟩, ?_⟩
    · cases known : shape.field? name with
      | none =>
          simp only [known] at made
          obtain ⟨_, passed, -⟩ := bind_eq_ok_iff.mp made
          exact skip_eq_ok_iff.mp passed
      | some field =>
          simp only [known] at made
          split at made
          · cases made
          · obtain ⟨_, checked, -⟩ := bind_eq_ok_iff.mp made
            exact checked
    · cases known : shape.field? name with
      | none =>
          simp only [known] at made
          obtain ⟨-, -, ⟨⟩⟩ := bind_eq_ok_iff.mp made
          simp [kept?, known]
      | some field =>
          simp only [known] at made
          split at made
          · cases made
          · rename_i fresh
            obtain ⟨-, -, ⟨⟩⟩ := bind_eq_ok_iff.mp made
            simp [kept?, known, fresh]
  · rintro ⟨⟨name, rfl, passed⟩, rfl, fresh⟩
    refine ⟨name, rfl, ?_⟩
    cases known : shape.field? name with
    | none =>
        simp only [known] at passed
        simp [kept?, known, skip, passed, bind, Except.bind, pure, Except.pure]
    | some field =>
        simp only [known] at passed
        have new : name ∉ keys := fresh (name, value) (by simp [kept?, known])
        simp [kept?, known, new, passed, bind, Except.bind, pure, Except.pure]

theorem gatherMembers_eq_ok_iff {gathered final : Gathered}
    (distinct : (gathered.map Prod.fst).Nodup) :
    shape.gatherMembers members gathered = .ok final ↔
      (∀ member ∈ members, shape.Passes member) ∧
        ((gathered ++ shape.kept members).map Prod.fst).Nodup ∧
          final = gathered ++ shape.kept members := by
  induction members generalizing gathered with
  | nil => simp [gatherMembers, kept, distinct, eq_comm]
  | cons member members induction =>
      rw [gatherMembers_cons, bind_eq_ok_iff, kept_cons, ← List.append_assoc,
        List.forall_mem_cons]
      constructor
      · rintro ⟨more, made, later⟩
        obtain ⟨passes, rfl, fresh⟩ := added_eq_ok_iff.mp made
        have still : ((gathered ++ (shape.kept? member).toList).map Prod.fst).Nodup := by
          cases held : shape.kept? member with
          | none => simpa [held] using distinct
          | some entry =>
              have new : entry.1 ∉ gathered.map Prod.fst := fresh entry (by simp [held])
              rw [Option.toList_some, List.map_append, List.map_singleton, List.nodup_append_comm]
              exact List.nodup_cons.mpr ⟨new, distinct⟩
        obtain ⟨others, apart, ended⟩ := (induction still).mp later
        exact ⟨⟨passes, others⟩, apart, ended⟩
      · rintro ⟨⟨passes, others⟩, apart, ended⟩
        have still : ((gathered ++ (shape.kept? member).toList).map Prod.fst).Nodup := by
          rw [List.map_append] at apart
          exact (List.nodup_append'.mp apart).1
        refine ⟨_, added_eq_ok_iff.mpr ⟨passes, rfl, ?_⟩, (induction still).mpr
          ⟨others, apart, ended⟩⟩
        intro entry held
        rw [List.map_append] at still
        exact fun listed => (List.nodup_append'.mp still).2.2 listed (List.mem_map_of_mem held)

/-- An object is gathered exactly if its members are accepted. -/
theorem gather_object_eq_ok_iff {gathered : Gathered} :
    shape.gather (.object members none) = .ok gathered ↔
      shape.Accepts members ∧ gathered = shape.kept members := by
  have empty : (([] : Gathered).map Prod.fst).Nodup := List.nodup_nil
  rw [gather, bind_eq_ok_iff]
  constructor
  · rintro ⟨collected, made, ⟨⟩⟩
    obtain ⟨passes, distinct, same⟩ := (gatherMembers_eq_ok_iff empty).mp made
    exact ⟨⟨passes, distinct⟩, same⟩
  · rintro ⟨⟨passes, distinct⟩, rfl⟩
    exact ⟨_, (gatherMembers_eq_ok_iff empty).mpr ⟨passes, distinct, rfl⟩, rfl⟩

end Document.RecordShape

namespace Document.Gathered

variable {gathered : Gathered} {key name : String} {value : Node}

theorem find?_cons_self (name : String) (value : Node) (gathered : Gathered) :
    find? ((name, value) :: gathered) name = some value := by
  simp [find?]

theorem find?_cons_of_ne (different : name ≠ key) (value : Node) (gathered : Gathered) :
    find? ((key, value) :: gathered) name = gathered.find? name := by
  simp [find?, different.symm]

theorem find?_append (front back : Gathered) (name : String) :
    find? (front ++ back) name = (front.find? name).or (back.find? name) := by
  simp [find?, List.find?_append, Option.map_or]

theorem find?_append_cons_of_ne (different : name ≠ key) {front back : Gathered} :
    find? (front ++ (key, value) :: back) name = find? (front ++ back) name := by
  rw [find?_append, find?_append, find?_cons_of_ne different]

theorem find?_eq_none_iff : gathered.find? name = none ↔ name ∉ gathered.map Prod.fst := by
  rw [find?, Option.map_eq_none_iff, List.find?_eq_none]
  simp only [beq_iff_eq, List.mem_map, not_exists, not_and]

/-- Among distinct keys, a key finds the value that stands with it. -/
theorem find?_eq_some_iff (distinct : (gathered.map Prod.fst).Nodup) :
    gathered.find? name = some value ↔ (name, value) ∈ gathered := by
  induction gathered with
  | nil => simp [find?]
  | cons entry gathered induction =>
      obtain ⟨key, node⟩ := entry
      rw [List.map_cons, List.nodup_cons] at distinct
      by_cases same : name = key
      · subst same
        have absent : (name, value) ∉ gathered :=
          fun listed => distinct.1 (List.mem_map.mpr ⟨_, listed, rfl⟩)
        simp [find?_cons_self, absent, eq_comm]
      · rw [find?_cons_of_ne same, induction distinct.2]
        simp [same]

theorem find?_append_cons_self {front back : Gathered}
    (distinct : ((front ++ (name, value) :: back).map Prod.fst).Nodup) :
    find? (front ++ (name, value) :: back) name = some value :=
  (find?_eq_some_iff distinct).mpr (List.mem_append_right front List.mem_cons_self)

end Document.Gathered

end GroupSync
