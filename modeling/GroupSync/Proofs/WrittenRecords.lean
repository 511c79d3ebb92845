import GroupSync.Proofs.Gathering
import GroupSync.Proofs.Payload
import GroupSync.Proofs.WholeTexts

/-!
# Records written member by member

Whoever writes a record decides for each of its keys what to write under it, may leave a key out
whose value is the standard one, and puts the members into any order.  What was decided is found
again under the keys, as long as every field takes what is written for it.
-/

namespace GroupSync

open Fallible

namespace Document

/-! ### Forms of values -/

namespace Node

def IsText (text : String) (node : Node) : Prop :=
  node = .string text

def IsTexts (texts : List String) (node : Node) : Prop :=
  node = .ofStrings texts

def IsFlag (value : Bool) (node : Node) : Prop :=
  node = .boolean value

/-- A number that fits 64 bits without a sign is written as its numeral. -/
def IsWord (number : Nat) (node : Node) : Prop :=
  number < 2 ^ 64 ∧ node = .integer number

/-- A text that may be absent is written as the text or as null. -/
def IsOptional (text : Option String) (node : Node) : Prop :=
  node = text.elim .null .string

/-- Values are written one after another, each in its own form. -/
def IsListOf {α : Type} (form : α → Node → Prop) (values : List α) (node : Node) : Prop :=
  ∃ items, node = .ofList items ∧ List.Forall₂ form values items

theorem IsText.asString_eq {text : String} {node : Node} (formed : IsText text node) :
    node.asString = .ok text := by
  obtain rfl := formed
  rfl

theorem IsTexts.asListOf_eq {texts : List String} {node : Node} (formed : IsTexts texts node) :
    node.asListOf asString = .ok texts := by
  obtain rfl := formed
  exact asListOf_eq_ok_iff.mpr
    ⟨_, rfl, List.forall₂_map_left_iff.mpr (List.forall₂_same.mpr fun _ _ => rfl)⟩

theorem IsFlag.asBoolean_eq {value : Bool} {node : Node} (formed : IsFlag value node) :
    node.asBoolean = .ok value := by
  obtain rfl := formed
  rfl

theorem IsWord.asUInt64_eq {number : Nat} {node : Node} (formed : IsWord number node) :
    node.asUInt64 = .ok number := by
  obtain ⟨fits, rfl⟩ := formed
  have between : (0 : Int) ≤ number ∧ (number : Int) ≤ 0xFFFFFFFFFFFFFFFF := by omega
  rw [asUInt64, asIntegerBetween, if_pos between]
  rfl

theorem IsOptional.asOptionalString_eq {text : Option String} {node : Node}
    (formed : IsOptional text node) : node.asOptionalString = .ok text := by
  obtain rfl := formed
  cases text <;> rfl

theorem IsListOf.asListOf_eq {α : Type} {form : α → Node → Prop} {ask : Node → Decoded α}
    {values : List α} {node : Node}
    (reads : ∀ {value node}, form value node → ask node = .ok value)
    (formed : IsListOf form values node) : node.asListOf ask = .ok values := by
  obtain ⟨items, rfl, each⟩ := formed
  exact asListOf_eq_ok_iff.mpr ⟨items, rfl, (each.imp fun _ _ one => reads one).flip⟩

theorem asListOf_ofStrings (texts : List String) :
    (ofStrings texts).asListOf asString = .ok texts :=
  IsTexts.asListOf_eq rfl

end Node

/-! ### What a record holds under its keys -/

/-- An object in which each of the given keys occurs with what is held under it, or does not occur,
and in which no other key occurs. -/
structure Node.HoldsUnder (node : Node) (keys : List String) (held : String → Option Node) :
    Prop where
  members : node.HasMembers (keys.filterMap fun key => (held key).map (Prod.mk key))
  nothingElse : ∀ key, key ∉ keys → held key = none

/-- What is written under a key for a value: a form of the value, or nothing for the standard
value. -/
inductive Stated {α β : Type} (form : α → β → Prop) (standard : α) : α → Option β → Prop
  | written {value : α} {written : β} (formed : form value written) :
      Stated form standard value (some written)
  | leftOut : Stated form standard standard none

/-- The field of a key takes what is held under the key. -/
def RecordShape.Permits (shape : RecordShape) (held : String → Option Node) (key : String) : Prop :=
  ∃ field, shape.field? key = some field ∧ ∀ value ∈ held key, field.check value = .ok ()

section Holding

variable {shape : RecordShape} {keys : List String} {held : String → Option Node} {node : Node}

theorem mem_members_iff {key : String} {value : Node} :
    (key, value) ∈ keys.filterMap (fun key => (held key).map (Prod.mk key)) ↔
      key ∈ keys ∧ held key = some value := by
  simp only [List.mem_filterMap, Option.map_eq_some_iff, Prod.mk.injEq]
  constructor
  · rintro ⟨_, listed, _, given, rfl, rfl⟩
    exact ⟨listed, given⟩
  · rintro ⟨listed, given⟩
    exact ⟨key, listed, value, given, rfl, rfl⟩

theorem nodup_keys_members (distinct : keys.Nodup) (held : String → Option Node) :
    ((keys.filterMap fun key => (held key).map (Prod.mk key)).map Prod.fst).Nodup := by
  have listed : ((keys.filterMap fun key => (held key).map (Prod.mk key)).map Prod.fst).Sublist
      keys := by
    induction keys with
    | nil => exact .slnil
    | cons key keys induction =>
        have later := induction (List.nodup_cons.mp distinct).2
        cases given : held key with
        | none => simpa [List.filterMap_cons, given] using later.cons key
        | some value => simpa [List.filterMap_cons, given] using later.cons_cons key
  exact listed.nodup distinct

/-- An object holds its members under any keys that their keys are among. -/
theorem holdsUnder_of_hasMembers {members : Gathered} (distinct : keys.Nodup)
    (apart : (members.map Prod.fst).Nodup) (within : members.map Prod.fst ⊆ keys)
    (has : node.HasMembers members) : node.HoldsUnder keys members.find? where
  members := by
    obtain ⟨written, permuted, rfl⟩ := has
    refine ⟨written, permuted.trans ?_, rfl⟩
    rw [List.perm_ext_iff_of_nodup apart.of_map (nodup_keys_members distinct members.find?).of_map]
    rintro ⟨key, value⟩
    rw [mem_members_iff, Gathered.find?_eq_some_iff apart, and_iff_right_of_imp]
    exact fun listed => within (List.mem_map_of_mem listed)
  nothingElse _ foreign :=
    Gathered.find?_eq_none_iff.mpr fun listed => foreign (within listed)

theorem holdsUnder_ofMembers {members : Gathered} (distinct : keys.Nodup)
    (apart : (members.map Prod.fst).Nodup) (within : members.map Prod.fst ⊆ keys) :
    (Node.ofMembers members).HoldsUnder keys members.find? :=
  holdsUnder_of_hasMembers distinct apart within ⟨members, .refl _, rfl⟩

theorem kept_ofMembers {written : Gathered}
    (known : ∀ member ∈ written, (shape.field? member.1).isSome = true) :
    shape.kept (written.map fun member => (.string member.1, member.2)) = written := by
  induction written with
  | nil => rfl
  | cons member written induction =>
      rw [List.forall_mem_cons] at known
      rw [List.map_cons, RecordShape.kept_cons, induction known.2]
      simp [RecordShape.kept?, known.1]

/-- What a record holds under its keys is gathered and found again. -/
theorem exists_gather_of_holdsUnder (distinct : keys.Nodup)
    (permits : ∀ key ∈ keys, shape.Permits held key) (holds : node.HoldsUnder keys held) :
    ∃ gathered, shape.gather node = .ok gathered ∧ ∀ key, gathered.find? key = held key := by
  obtain ⟨⟨written, permuted, rfl⟩, nothingElse⟩ := holds
  have written_iff {key : String} {value : Node} :
      (key, value) ∈ written ↔ key ∈ keys ∧ held key = some value := by
    rw [permuted.mem_iff, mem_members_iff]
  have apart : (written.map Prod.fst).Nodup :=
    (permuted.map Prod.fst).nodup_iff.mpr (nodup_keys_members distinct held)
  have kept : shape.kept (written.map fun member => (.string member.1, member.2)) = written := by
    refine kept_ofMembers fun member listed => ?_
    obtain ⟨field, known, -⟩ := permits member.1 (written_iff.mp listed).1
    simp [known]
  have accepts : shape.Accepts (written.map fun member => (.string member.1, member.2)) := by
    refine ⟨fun entry listed => ?_, by rwa [kept]⟩
    obtain ⟨member, given, rfl⟩ := List.mem_map.mp listed
    obtain ⟨inside, held⟩ := written_iff.mp given
    obtain ⟨field, known, takes⟩ := permits member.1 inside
    refine ⟨member.1, rfl, ?_⟩
    rw [known]
    exact takes member.2 held
  refine ⟨written, RecordShape.gather_object_eq_ok_iff.mpr ⟨accepts, kept.symm⟩, fun key => ?_⟩
  ext value
  rw [Gathered.find?_eq_some_iff apart, written_iff, and_iff_right_of_imp]
  intro given
  by_contra outside
  rw [nothingElse key outside] at given
  cases given

end Holding

/-! ### Values that a record gives -/

namespace RecordShape

variable {shape : RecordShape} {name : String} {node value : Node} {gathered : Gathered}

end RecordShape

section Stating

variable {α : Type} {form : α → Node → Prop} {ask : Node → Decoded α} {standard value : α}
  {held : String → Option Node} {shape : RecordShape} {key : String}

theorem permits_of_eq_some {node : Node} (given : held key = some node)
    (asked : ask node = .ok value) {optional : Bool}
    (known : shape.field? key = some ⟨key, optional, fun node => (ask node).map fun _ => ()⟩) :
    shape.Permits held key := by
  refine ⟨_, known, fun other member => ?_⟩
  obtain rfl := Option.some.inj (given.symm.trans member)
  simp [asked, Except.map]

theorem Stated.permits (stated : Stated form standard value (held key))
    (reads : ∀ {node}, form value node → ask node = .ok value) {optional : Bool}
    (known : shape.field? key = some ⟨key, optional, fun node => (ask node).map fun _ => ()⟩) :
    shape.Permits held key := by
  refine ⟨_, known, fun node given => ?_⟩
  rw [Option.mem_def] at given
  rw [given] at stated
  cases stated with
  | written formed => simp [reads formed, Except.map]

theorem Stated.getD_eq {gathered : Gathered} {given : Option Node}
    (stated : Stated form standard value given)
    (reads : ∀ {node}, form value node → ask node = .ok value)
    (found : gathered.find? key = given) : gathered.getD key ask standard = .ok value := by
  rw [Gathered.getD, found]
  cases stated with
  | written formed => exact reads formed
  | leftOut => rfl

end Stating

end Document

end GroupSync
