import GroupSync.Proofs.Gathering
import GroupSync.Proofs.JsonGrammar
import Mathlib.Logic.Relation

/-!
# Records that are open to other members

The members of a record may stand in any order, members under other keys may stand among them, and a
member that is left out stands for its standard value.  Trees that differ in nothing else are alike,
at any depth to which a schema follows the decoding.  Alike trees are decoded as the same value, or
none of them is decoded; and no tree is decoded in which a record has one of its keys twice.

A decoder gathers the members of a record and assembles the record from them.  Both steps are shown
to conform to the schema if the decoders of the fields do, so a decoder of nested records is treated
from the inside to the outside.
-/

namespace GroupSync

open Fallible

namespace Document

/-- A field of a record with the schema of its value. -/
structure Form (σ : Type) where
  name : String
  schema : σ
  /-- What the field stands for if it is left out; nothing if it must be there. -/
  standard : Option Node

/-- How far records are nested in a value that is asked for. -/
inductive Schema where
  | leaf
  | listOf (item : Schema)
  | record (forms : List (Form Schema))

namespace Schema

/-- A tree is altered in one place, in a way that decoding has to ignore. -/
inductive Altered : Schema → Node → Node → Prop
  | permute {members others : List (Node × Node)} (permuted : members.Perm others)
      (forms : List (Form Schema)) :
      Altered (.record forms) (.object members none) (.object others none)
  /-- A member with any value stands under a foreign key. -/
  | foreign {forms : List (Form Schema)} {name : String} (unknown : name ∉ forms.map Form.name)
      {value : Node} {text : List Char} (written : Json.Writes value text)
      (members : List (Node × Node)) :
      Altered (.record forms) (.object members none)
        (.object ((.string name, value) :: members) none)
  /-- A member spells out what it stands for when it is left out. -/
  | standard {forms : List (Form Schema)} {form : Form Schema} (known : form ∈ forms)
      {value : Node} (stands : form.standard = some value) {members : List (Node × Node)}
      (absent : ∀ member ∈ members, member.1 ≠ .string form.name) :
      Altered (.record forms) (.object members none)
        (.object ((.string form.name, value) :: members) none)
  | member {forms : List (Form Schema)} {form : Form Schema} (known : form ∈ forms)
      {first second : Node} (altered : Altered form.schema first second)
      (members : List (Node × Node)) :
      Altered (.record forms) (.object ((.string form.name, first) :: members) none)
        (.object ((.string form.name, second) :: members) none)
  | item {schema : Schema} {first second : Node} (altered : Altered schema first second)
      (before after : List Node) :
      Altered (.listOf schema) (.list (before ++ first :: after) none)
        (.list (before ++ second :: after) none)

/-- Trees are alike if alterations, there and back, lead from one to the other. -/
def Alike (schema : Schema) : Node → Node → Prop :=
  Relation.EqvGen (Altered schema)

/-- Somewhere in a tree, a record has one of its keys twice or a key that is not a text. -/
inductive Refused : Schema → Node → Prop
  | twice {forms : List (Form Schema)} {form : Form Schema} (known : form ∈ forms)
      {first second : Node} {members : List (Node × Node)}
      (listed : [(.string form.name, first), (.string form.name, second)].Sublist members) :
      Refused (.record forms) (.object members none)
  | nameless {key value : Node} (noText : ∀ name, key ≠ .string name)
      {members : List (Node × Node)} (listed : (key, value) ∈ members)
      (forms : List (Form Schema)) : Refused (.record forms) (.object members none)
  | member {forms : List (Form Schema)} {form : Form Schema} (known : form ∈ forms) {value : Node}
      (refused : Refused form.schema value) {members : List (Node × Node)}
      (listed : (.string form.name, value) ∈ members) :
      Refused (.record forms) (.object members none)
  | item {schema : Schema} {item : Node} (refused : Refused schema item) {items : List Node}
      (listed : item ∈ items) : Refused (.listOf schema) (.list items none)

end Schema

open Schema

variable {α : Type} {schema : Schema} {forms : List (Form Schema)} {form : Form Schema}

/-- A value is asked for in such a way that an altered tree gives the same value and a refused tree
gives none. -/
structure Conforms (schema : Schema) (ask : Node → Decoded α) : Prop where
  agree : ∀ {first second}, Altered schema first second → AgreeInSuccess (ask first) (ask second)
  refused : ∀ {node}, Refused schema node → ∀ value, ask node ≠ .ok value

theorem Conforms.agree_of_alike {ask : Node → Decoded α} (conforms : Conforms schema ask)
    {first second : Node} (alike : Alike schema first second) :
    AgreeInSuccess (ask first) (ask second) := by
  induction alike with
  | rel first second altered => exact conforms.agree altered
  | refl node => exact .refl _
  | symm first second _ induction => exact induction.symm
  | trans first second third _ _ induction next => exact induction.trans next

theorem conforms_leaf (ask : Node → Decoded α) : Conforms .leaf ask where
  agree := by
    intro first second altered
    cases altered
  refused := by
    intro node refused
    cases refused

theorem Conforms.listOf {ask : Node → Decoded α} (conforms : Conforms schema ask) :
    Conforms (.listOf schema) (Node.asListOf ask) where
  agree := by
    intro first second altered
    cases altered with
    | item altered before after =>
        simp only [Node.asListOf, List.mapM_append, List.mapM_cons, bind_assoc]
        exact .bind (.refl _) fun _ => .bind (conforms.agree altered) fun _ => .refl _
  refused := by
    intro node refused values made
    cases refused with
    | item refused listed =>
        obtain ⟨before, after, rfl⟩ := List.append_of_mem listed
        simp only [Node.asListOf, List.mapM_append, List.mapM_cons, bind_eq_ok_iff] at made
        obtain ⟨_, ⟨_, -, _, ⟨value, given, -⟩, -⟩, -⟩ := made
        exact conforms.refused refused value given

theorem Conforms.check {ask : Node → Decoded α} (conforms : Conforms schema ask) :
    Conforms schema fun node => (ask node).map fun _ => () where
  agree altered := (conforms.agree altered).map _
  refused := by
    intro node refused value made
    cases given : ask node with
    | error refusal => simp [given, Except.map] at made
    | ok value => exact conforms.refused refused value given

/-! ### Fields -/

/-- A field asks for values of a form, and for its standard value in particular. -/
structure Field.Takes (field : Field) (form : Form Schema) : Prop where
  name : field.name = form.name
  conforms : Conforms form.schema field.check
  standard : ∀ value ∈ form.standard, field.check value = .ok ()

theorem Field.takes_mandatory {name : String} {ask : Node → Decoded α}
    (conforms : Conforms schema ask) : (Field.mandatory name ask).Takes ⟨name, schema, none⟩ where
  name := rfl
  conforms := conforms.check
  standard := by
    rintro _ ⟨⟩

theorem Field.takes_withDefault {name : String} {ask : Node → Decoded α}
    (conforms : Conforms schema ask) {node : Node} {value : α} (stands : ask node = .ok value) :
    (Field.withDefault name ask).Takes ⟨name, schema, some node⟩ where
  name := rfl
  conforms := conforms.check
  standard := by
    rintro _ ⟨⟩
    simp [withDefault, stands, Except.map]

namespace RecordShape

structure Follows (shape : RecordShape) (forms : List (Form Schema)) : Prop where
  takes : List.Forall₂ Field.Takes shape.fields forms
  distinct : (forms.map Form.name).Nodup

theorem find?_eq_none_of_takes {fields : List Field} (takes : List.Forall₂ Field.Takes fields forms)
    {name : String} (unknown : name ∉ forms.map Form.name) :
    fields.find? (fun field => field.name == name) = none := by
  induction takes with
  | nil => rfl
  | cons first _ induction =>
      rw [List.map_cons, List.mem_cons, not_or] at unknown
      rw [List.find?_cons_of_neg (by simpa [first.name] using Ne.symm unknown.1)]
      exact induction unknown.2

theorem exists_find?_of_takes {fields : List Field} (takes : List.Forall₂ Field.Takes fields forms)
    (distinct : (forms.map Form.name).Nodup) (known : form ∈ forms) :
    ∃ field, fields.find? (fun field => field.name == form.name) = some field ∧
      field.Takes form := by
  induction takes with
  | nil => cases known
  | cons first _ induction =>
      rw [List.map_cons, List.nodup_cons] at distinct
      rcases List.mem_cons.mp known with rfl | later
      · exact ⟨_, List.find?_cons_of_pos (by simp [first.name]), first⟩
      · have different : _ ≠ form.name :=
          fun same => distinct.1 (List.mem_map.mpr ⟨form, later, same.symm⟩)
        rw [List.find?_cons_of_neg (by simpa [first.name] using different)]
        exact induction distinct.2 later

variable {shape : RecordShape} {members others : List (Node × Node)}

/-- A foreign member is not gathered, and it only has to be passed over. -/
theorem Follows.foreign (follows : shape.Follows forms) {name : String}
    (unknown : name ∉ forms.map Form.name) (value : Node) :
    shape.kept? (.string name, value) = none ∧
      (shape.Passes (.string name, value) ↔ value.skipFault? = none) := by
  have none : shape.field? name = none := find?_eq_none_of_takes follows.takes unknown
  simp [kept?, Passes, none]

theorem Follows.exists_field (follows : shape.Follows forms) (known : form ∈ forms) :
    ∃ field : Field, field.Takes form ∧ ∀ value,
      shape.kept? (.string form.name, value) = some (form.name, value) ∧
        (shape.Passes (.string form.name, value) ↔ field.check value = .ok ()) := by
  obtain ⟨field, found, takes⟩ := exists_find?_of_takes follows.takes follows.distinct known
  have some : shape.field? form.name = some field := found
  exact ⟨field, takes, fun value => by simp [kept?, Passes, some]⟩

theorem accepts_cons_iff {member : Node × Node} :
    shape.Accepts (member :: members) ↔
      shape.Passes member ∧ shape.Accepts members ∧
        ∀ entry ∈ shape.kept? member, entry.1 ∉ (shape.kept members).map Prod.fst := by
  constructor
  · rintro ⟨passes, distinct⟩
    rw [List.forall_mem_cons] at passes
    rw [kept_cons, List.map_append, List.nodup_append'] at distinct
    refine ⟨passes.1, ⟨passes.2, distinct.2.1⟩, fun entry held listed => ?_⟩
    exact distinct.2.2 (List.mem_map_of_mem (Option.mem_toList.mpr held)) listed
  · rintro ⟨passes, ⟨others, distinct⟩, fresh⟩
    refine ⟨List.forall_mem_cons.mpr ⟨passes, others⟩, ?_⟩
    rw [kept_cons]
    cases held : shape.kept? member with
    | none => exact distinct
    | some entry => exact List.nodup_cons.mpr ⟨fresh entry held, distinct⟩

theorem Accepts.perm (permuted : members.Perm others) (accepts : shape.Accepts members) :
    shape.Accepts others where
  passes member listed := accepts.passes member (permuted.mem_iff.mpr listed)
  distinct := ((permuted.filterMap shape.kept?).map Prod.fst).nodup_iff.mp accepts.distinct

theorem find?_kept_perm (permuted : members.Perm others) (accepts : shape.Accepts members)
    (name : String) : (shape.kept members).find? name = (shape.kept others).find? name := by
  ext value
  rw [Gathered.find?_eq_some_iff accepts.distinct,
    Gathered.find?_eq_some_iff (accepts.perm permuted).distinct]
  exact (permuted.filterMap shape.kept?).mem_iff

def valueIn (form : Form Schema) (gathered : Gathered) : Option Node :=
  (gathered.find? form.name).or form.standard

theorem valueIn_cons_self (form : Form Schema) (value : Node) (gathered : Gathered) :
    valueIn form ((form.name, value) :: gathered) = some value := by
  rw [valueIn, Gathered.find?_cons_self, Option.some_or]

def AlikeIn (forms : List (Form Schema)) (first second : Gathered) : Prop :=
  ∀ form ∈ forms, Option.Rel (Alike form.schema) (valueIn form first) (valueIn form second)

/-- A record is assembled in such a way that alike values of its fields give the same. -/
def Assembles (forms : List (Form Schema)) (assemble : Gathered → Decoded α) : Prop :=
  ∀ first second : Gathered, AlikeIn forms first second →
    AgreeInSuccess (assemble first) (assemble second)

theorem rel_alike_refl (schema : Schema) (held : Option Node) :
    Option.Rel (Alike schema) held held := by
  cases held with
  | none => exact .none
  | some value => exact .some (.refl value)

theorem assembles_pure (value : α) : Assembles forms fun _ => pure value :=
  fun _ _ _ => .refl _

theorem Assembles.required {β : Type} {name : String} {ask : Node → Decoded α}
    {rest : α → Gathered → Decoded β} (position : Nat)
    (known : forms[position]? = some ⟨name, schema, none⟩) (conforms : Conforms schema ask)
    (assembles : ∀ value, Assembles forms (rest value)) :
    Assembles forms fun gathered => gathered.required name ask >>= fun value =>
      rest value gathered := by
  intro first second alike
  refine .bind ?_ fun value => assembles value first second alike
  have same := alike _ (List.mem_of_getElem? known)
  simp only [valueIn, Option.or_none] at same
  simp only [Gathered.required]
  generalize first.find? name = held at same ⊢
  generalize second.find? name = otherHeld at same ⊢
  cases same with
  | none => exact .refl _
  | some same => exact conforms.agree_of_alike same

theorem getD_eq {ask : Node → Decoded α} {node : Node} {standard : α}
    (stands : ask node = .ok standard) (gathered : Gathered) (name : String) :
    gathered.getD name ask standard = ask ((gathered.find? name).getD node) := by
  rw [Gathered.getD]
  cases gathered.find? name with
  | none => exact stands.symm
  | some value => rfl

theorem Assembles.getD {β : Type} {name : String} {ask : Node → Decoded α} {node : Node}
    {standard : α} {rest : α → Gathered → Decoded β} (position : Nat)
    (known : forms[position]? = some ⟨name, schema, some node⟩) (conforms : Conforms schema ask)
    (stands : ask node = .ok standard) (assembles : ∀ value, Assembles forms (rest value)) :
    Assembles forms fun gathered => gathered.getD name ask standard >>= fun value =>
      rest value gathered := by
  intro first second alike
  refine .bind ?_ fun value => assembles value first second alike
  have same := alike _ (List.mem_of_getElem? known)
  simp only [valueIn, Option.or_some] at same
  rw [getD_eq stands, getD_eq stands]
  cases same with
  | some same => exact conforms.agree_of_alike same

theorem gather_bind_eq_ok_iff {assemble : Gathered → Decoded α} {value : α} :
    (shape.gather (.object members none) >>= assemble) = .ok value ↔
      shape.Accepts members ∧ assemble (shape.kept members) = .ok value := by
  simp only [bind_eq_ok_iff, gather_object_eq_ok_iff]
  constructor
  · rintro ⟨_, ⟨accepts, rfl⟩, assembled⟩
    exact ⟨accepts, assembled⟩
  · rintro ⟨accepts, assembled⟩
    exact ⟨_, ⟨accepts, rfl⟩, assembled⟩

theorem Assembles.agree {assemble : Gathered → Decoded α} (assembles : Assembles forms assemble)
    (accepts : shape.Accepts members ↔ shape.Accepts others)
    (alike : shape.Accepts members → AlikeIn forms (shape.kept members) (shape.kept others)) :
    AgreeInSuccess (shape.gather (.object members none) >>= assemble)
      (shape.gather (.object others none) >>= assemble) := by
  intro value
  rw [gather_bind_eq_ok_iff, gather_bind_eq_ok_iff, ← accepts]
  exact and_congr_right fun accepted => assembles _ _ (alike accepted) value

theorem alikeIn_perm (permuted : members.Perm others) (accepts : shape.Accepts members) :
    AlikeIn forms (shape.kept members) (shape.kept others) := by
  intro form _
  rw [valueIn, valueIn, find?_kept_perm permuted accepts]
  exact rel_alike_refl form.schema _

/-- Members under the key of one field with alike values give alike values to all fields. -/
theorem Follows.alikeIn_cons (follows : shape.Follows forms) (known : form ∈ forms)
    {first second : Gathered} (alike : Option.Rel (Alike form.schema) (valueIn form first)
      (valueIn form second))
    (beside : ∀ name, name ≠ form.name → first.find? name = second.find? name) :
    AlikeIn forms first second := by
  intro other listed
  by_cases same : other.name = form.name
  · obtain rfl := List.inj_on_of_nodup_map follows.distinct listed known same
    exact alike
  · rw [valueIn, valueIn, beside other.name same]
    exact rel_alike_refl other.schema _

/-! ### Members in front of others -/

theorem not_mem_keys_kept {name : String} (absent : ∀ member ∈ members, member.1 ≠ .string name) :
    name ∉ (shape.kept members).map Prod.fst := by
  intro listed
  obtain ⟨entry, held, rfl⟩ := List.mem_map.mp listed
  obtain ⟨⟨key, value⟩, given, kept⟩ := List.mem_filterMap.mp held
  cases key with
  | string name =>
      simp only [kept?, Option.ite_none_right_eq_some] at kept
      obtain ⟨-, ⟨⟩⟩ := kept
      exact absent _ given rfl
  | _ => cases kept

variable {assemble : Gathered → Decoded α} (follows : shape.Follows forms)
  (assembles : Assembles forms assemble)

include follows assembles

theorem agree_foreign {name : String} (unknown : name ∉ forms.map Form.name) {value : Node}
    (passed : value.skipFault? = none) :
    AgreeInSuccess (shape.gather (.object members none) >>= assemble)
      (shape.gather (.object ((.string name, value) :: members) none) >>= assemble) := by
  obtain ⟨lost, passes⟩ := follows.foreign unknown value
  have kept : shape.kept ((.string name, value) :: members) = shape.kept members := by
    rw [kept_cons, lost]
    rfl
  refine assembles.agree ?_ fun _ => ?_
  · rw [accepts_cons_iff, lost]
    simp [passes, passed]
  · rw [kept]
    exact fun form _ => rel_alike_refl form.schema _

theorem agree_standard (known : form ∈ forms) {value : Node} (stands : form.standard = some value)
    (absent : ∀ member ∈ members, member.1 ≠ .string form.name) :
    AgreeInSuccess (shape.gather (.object members none) >>= assemble)
      (shape.gather (.object ((.string form.name, value) :: members) none) >>= assemble) := by
  obtain ⟨field, takes, each⟩ := follows.exists_field known
  obtain ⟨held, passes⟩ := each value
  have fresh : form.name ∉ (shape.kept members).map Prod.fst := not_mem_keys_kept absent
  refine assembles.agree ?_ fun _ => ?_
  · rw [accepts_cons_iff, held, passes, takes.standard value stands]
    simpa using fun _ => fresh
  · rw [kept_cons, held]
    refine follows.alikeIn_cons known ?_ fun name different => ?_
    · have filled : valueIn form (shape.kept members) = some value := by
        rw [valueIn, Gathered.find?_eq_none_iff.mpr fresh, Option.none_or, stands]
      have found := valueIn_cons_self form value (shape.kept members)
      exact filled.trans found.symm ▸ rel_alike_refl form.schema _
    · exact (Gathered.find?_cons_of_ne different value _).symm

theorem agree_member (known : form ∈ forms) {first second : Node}
    (altered : Altered form.schema first second) :
    AgreeInSuccess
      (shape.gather (.object ((.string form.name, first) :: members) none) >>= assemble)
      (shape.gather (.object ((.string form.name, second) :: members) none) >>= assemble) := by
  obtain ⟨field, takes, each⟩ := follows.exists_field known
  obtain ⟨held, passes⟩ := each first
  obtain ⟨otherHeld, otherPasses⟩ := each second
  refine assembles.agree ?_ fun _ => ?_
  · rw [accepts_cons_iff, accepts_cons_iff, passes, otherPasses, held, otherHeld,
      takes.conforms.agree altered ()]
    simp
  · rw [kept_cons, kept_cons, held, otherHeld]
    refine follows.alikeIn_cons known ?_ fun name different => ?_
    · have found := valueIn_cons_self form first (shape.kept members)
      have otherFound := valueIn_cons_self form second (shape.kept members)
      exact found ▸ otherFound ▸ .some (.rel first second altered)
    · exact (Gathered.find?_cons_of_ne different first _).trans
        (Gathered.find?_cons_of_ne different second _).symm

theorem conforms_record : Conforms (.record forms) fun node => shape.gather node >>= assemble where
  agree := by
    intro first second altered
    cases altered with
    | permute permuted =>
        exact assembles.agree ⟨.perm permuted, .perm permuted.symm⟩ (alikeIn_perm permuted)
    | foreign unknown written members =>
        exact agree_foreign follows assembles unknown written.skipFault?_eq_none
    | standard known stands absent => exact agree_standard follows assembles known stands absent
    | member known altered members => exact agree_member follows assembles known altered
  refused := by
    intro node refused value made
    cases refused with
    | twice known listed =>
        obtain ⟨accepts, -⟩ := gather_bind_eq_ok_iff.mp made
        obtain ⟨field, -, each⟩ := follows.exists_field known
        have names := ((listed.filterMap shape.kept?).map Prod.fst).nodup accepts.distinct
        simp [(each _).1] at names
    | nameless noText listed =>
        obtain ⟨accepts, -⟩ := gather_bind_eq_ok_iff.mp made
        obtain ⟨name, same, -⟩ := accepts.passes _ listed
        exact noText name same
    | member known refused listed =>
        obtain ⟨accepts, -⟩ := gather_bind_eq_ok_iff.mp made
        obtain ⟨field, takes, each⟩ := follows.exists_field known
        have checked := (each _).2.mp (accepts.passes _ listed)
        exact takes.conforms.refused refused () checked

end RecordShape

/-! ### Texts -/

/-- Texts of alike trees are read as the same value, or none of them is read; and no text of a
refused tree is read. -/
structure ReadsOpenly (schema : Schema) (read : String → Decoded α) : Prop where
  agree : ∀ {text other : String} {node otherNode : Node}, Json.Spells text node →
    Json.Spells other otherNode → Alike schema node otherNode →
      AgreeInSuccess (read text) (read other)
  refused : ∀ {text : String} {node : Node}, Json.Spells text node → Refused schema node →
    ∀ value, read text ≠ .ok value

theorem Conforms.readsOpenly {ask : Node → Decoded α} (conforms : Conforms schema ask) :
    ReadsOpenly schema (Json.decode ask) where
  agree := by
    intro text other node otherNode spells otherSpells alike
    rw [Json.decode_of_spells ask spells, Json.decode_of_spells ask otherSpells]
    exact conforms.agree_of_alike alike
  refused := by
    intro text node spells refused value
    rw [Json.decode_of_spells ask spells]
    exact conforms.refused refused value

end Document

end GroupSync
