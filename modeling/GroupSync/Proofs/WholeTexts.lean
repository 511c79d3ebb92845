import GroupSync.Group
import GroupSync.Proofs.Fallible

/-!
# Values of whole texts

The reader of a text stops at the first fault that cannot be passed over and leaves the tree with
a flaw at that place.  Whoever asks such a tree for a value comes upon the flaw sooner or later, so
a value is decoded only from a text that was read to its end.
-/

namespace GroupSync

namespace Document

open Fallible

namespace Node

/-- An asker that gets no value out of a node which cannot be passed over. -/
def IsThorough {α : Type} (ask : Node → Decoded α) : Prop :=
  ∀ node value, ask node = .ok value → node.skipFault? = none

theorem isThorough_asString : IsThorough asString := by
  intro node value asked
  cases node with
  | string text => rfl
  | _ => cases asked

theorem isThorough_asOptionalString : IsThorough asOptionalString := by
  intro node value asked
  cases node with
  | null => rfl
  | string text => rfl
  | _ => cases asked

theorem endingRefusal_eq_ok_iff {ending : Option Flaw} :
    endingRefusal ending = .ok () ↔ ending = none := by
  cases ending <;> simp [endingRefusal]

theorem asListOf_eq_ok_iff {α : Type} {ask : Node → Decoded α} {node : Node} {values : List α} :
    asListOf ask node = .ok values ↔
      ∃ items, node = .list items none ∧
        List.Forall₂ (fun item value => ask item = .ok value) items values := by
  constructor
  · intro asked
    cases node with
    | list items ending =>
        obtain ⟨made, each, asked⟩ := bind_eq_ok_iff.1 asked
        obtain ⟨_, ended, ⟨⟩⟩ := bind_eq_ok_iff.1 asked
        obtain rfl := endingRefusal_eq_ok_iff.1 ended
        exact ⟨items, rfl, mapM_eq_ok_iff.1 each⟩
    | _ => cases asked
  · rintro ⟨items, rfl, each⟩
    rw [asListOf, mapM_eq_ok_iff.2 each]
    rfl

theorem skipItems_eq_none {α : Type} {ask : Node → Decoded α} (thorough : IsThorough ask)
    {items : List Node} {values : List α}
    (each : List.Forall₂ (fun item value => ask item = .ok value) items values) :
    skipItems items = none := by
  induction each with
  | nil => rfl
  | cons made _ induction => rw [skipItems, thorough _ _ made, induction]

theorem IsThorough.asListOf {α : Type} {ask : Node → Decoded α} (thorough : IsThorough ask) :
    IsThorough (asListOf ask) := by
  intro node values asked
  obtain ⟨items, rfl, each⟩ := asListOf_eq_ok_iff.1 asked
  rw [skipFault?, skipItems_eq_none thorough each]
  rfl

end Node

namespace RecordShape

open Node

variable {shape : RecordShape}

/-- A shape whose fields are asked for thoroughly. -/
def IsThorough (shape : RecordShape) : Prop :=
  ∀ field ∈ shape.fields, Node.IsThorough field.check

theorem isThorough_check {α : Type} {ask : Node → Decoded α} (thorough : Node.IsThorough ask) :
    Node.IsThorough fun node => (ask node).map fun _ => () := by
  intro node value asked
  cases made : ask node with
  | error refusal =>
      simp only [made] at asked
      cases asked
  | ok value => exact thorough node value made

theorem isThorough_keyName : Node.IsThorough keyName := by
  intro node name named
  cases node with
  | string text => rfl
  | _ => cases named

theorem isThorough_skip : Node.IsThorough skip := by
  intro node _ passed
  rw [skip] at passed
  cases met : node.skipFault? with
  | none => rfl
  | some fault =>
      rw [met] at passed
      cases passed

theorem skipMembers_of_gatherMembers (thorough : shape.IsThorough) {members : List (Node × Node)}
    {gathered final : Gathered} (made : shape.gatherMembers members gathered = .ok final) :
    skipMembers members = none := by
  induction members generalizing gathered with
  | nil => rfl
  | cons member members induction =>
      obtain ⟨key, value⟩ := member
      obtain ⟨name, named, made⟩ := bind_eq_ok_iff.1 made
      have keyPassed := isThorough_keyName key name named
      suffices value.skipFault? = none ∧ skipMembers members = none by
        simp [skipMembers, keyPassed, this]
      split at made
      · obtain ⟨_, passed, made⟩ := bind_eq_ok_iff.1 made
        exact ⟨isThorough_skip value () passed, induction made⟩
      · next field known =>
          split at made
          · cases made
          · obtain ⟨_, checked, made⟩ := bind_eq_ok_iff.1 made
            have member : field ∈ shape.fields := List.mem_of_find?_eq_some known
            exact ⟨thorough field member value () checked, induction made⟩

theorem afterLastItem_eq_ok_iff {items : List Node} {ending : Option Flaw} :
    afterLastItem items ending = .ok () ↔ items = [] ∧ ending = none := by
  cases items <;> cases ending <;> simp [afterLastItem]
  split <;> simp

theorem skipItems_of_gatherItems {fields : List Field} {index : Nat} {items : List Node}
    {ending : Option Flaw} {gathered : Gathered}
    (thorough : ∀ field ∈ fields, Node.IsThorough field.check)
    (made : shape.gatherItems fields index items ending = .ok gathered) :
    skipItems items = none ∧ ending = none := by
  induction fields generalizing index items gathered with
  | nil =>
      obtain ⟨_, ended, -⟩ := bind_eq_ok_iff.1 made
      obtain ⟨rfl, rfl⟩ := afterLastItem_eq_ok_iff.1 ended
      exact ⟨rfl, rfl⟩
  | cons field fields induction =>
      cases items with
      | nil =>
          obtain ⟨_, ended, -⟩ := bind_eq_ok_iff.1 made
          exact ⟨rfl, endingRefusal_eq_ok_iff.1 ended⟩
      | cons item items =>
          obtain ⟨_, checked, made⟩ := bind_eq_ok_iff.1 made
          obtain ⟨later, made, -⟩ := bind_eq_ok_iff.1 made
          have itemPassed := thorough field (by simp) item () checked
          have rest := induction (fun field member => thorough field (by simp [member])) made
          exact ⟨by rw [skipItems, itemPassed, rest.1], rest.2⟩

theorem IsThorough.gather (thorough : shape.IsThorough) : Node.IsThorough shape.gather := by
  intro node gathered made
  cases node with
  | object members ending =>
      obtain ⟨_, collected, made⟩ := bind_eq_ok_iff.1 made
      obtain ⟨_, ended, -⟩ := bind_eq_ok_iff.1 made
      have passed := skipMembers_of_gatherMembers thorough collected
      obtain rfl := endingRefusal_eq_ok_iff.1 ended
      rw [skipFault?, passed]
      rfl
  | list items ending =>
      obtain ⟨passed, rfl⟩ := skipItems_of_gatherItems thorough made
      rw [skipFault?, passed]
      rfl
  | _ => cases made

end RecordShape

namespace Json

open Node

/-- The tree of a list or an object whose inside was read. -/
def listReading (inside : List Node × Option Flaw × Option (List Char)) : Reading :=
  (.list inside.1 inside.2.1, inside.2.2)

def objectReading (inside : List (Node × Node) × Option Flaw × Option (List Char)) : Reading :=
  (.object inside.1 inside.2.1, inside.2.2)

/-- Reading stopped only if it met a fault that cannot be passed over. -/
def StopsAtFault (reading : Reading) : Prop :=
  reading.1.skipFault? = none → reading.2.isSome

theorem StopsAtFault.skipFault?_ne_none {node : Node} (stops : StopsAtFault (node, none)) :
    node.skipFault? ≠ none :=
  fun passed => nomatch stops passed

theorem skipFault?_list_cons_eq_none {item : Node} {items : List Node} {ending : Option Flaw}
    (passed : (Node.list (item :: items) ending).skipFault? = none) :
    item.skipFault? = none ∧ (Node.list items ending).skipFault? = none := by
  cases met : item.skipFault? <;> simp [skipFault?, skipItems, met] at passed ⊢
  exact passed

theorem skipFault?_object_cons_eq_none {key value : Node} {members : List (Node × Node)}
    {ending : Option Flaw}
    (passed : (Node.object ((key, value) :: members) ending).skipFault? = none) :
    key.skipFault? = none ∧ value.skipFault? = none ∧
      (Node.object members ending).skipFault? = none := by
  cases keyMet : key.skipFault? <;> cases met : value.skipFault? <;>
    simp [skipFault?, skipMembers, keyMet, met] at passed ⊢
  exact passed

theorem stopsAtFault_leaf (node : Node) (rest : List Char) : StopsAtFault (leaf node rest) := by
  unfold leaf StopsAtFault
  cases met : node.skipFault? with
  | none => simp
  | some fault => simp [met]

theorem stopsAtFault_readWord (word : List Char) (node : Node) (text : List Char) :
    StopsAtFault (readWord word node text) := by
  induction word generalizing text with
  | nil => exact fun _ => rfl
  | cons expected word induction =>
      cases text with
      | nil => exact nofun
      | cons found rest =>
          rw [readWord]
          split
          · exact induction rest
          · exact nofun

/-- With some fuel, no reader stops but at a fault. -/
structure StopAtFaults (fuel : Nat) : Prop where
  value : ∀ text, StopsAtFault (readValue fuel text)
  items : ∀ text, StopsAtFault (listReading (readItems fuel text))
  item : ∀ text, StopsAtFault (listReading (readItem fuel text))
  moreItems : ∀ text, StopsAtFault (listReading (readMoreItems fuel text))
  members : ∀ text, StopsAtFault (objectReading (readMembers fuel text))
  member : ∀ text, StopsAtFault (objectReading (readMember fuel text))
  moreMembers : ∀ text, StopsAtFault (objectReading (readMoreMembers fuel text))

namespace StopAtFaults

variable {fuel : Nat}

theorem zero : StopAtFaults 0 where
  value := fun _ => nofun
  items := fun _ => nofun
  item := fun _ => nofun
  moreItems := fun _ => nofun
  members := fun _ => nofun
  member := fun _ => nofun
  moreMembers := fun _ => nofun

theorem readValue_succ (readers : StopAtFaults fuel) (text : List Char) :
    StopsAtFault (readValue (fuel + 1) text) := by
  rw [readValue]
  split
  · exact nofun
  · exact stopsAtFault_readWord _ _ _
  · exact stopsAtFault_readWord _ _ _
  · exact stopsAtFault_readWord _ _ _
  · exact stopsAtFault_leaf _ _
  · exact stopsAtFault_leaf _ _
  · exact readers.items _
  · exact readers.members _
  · split
    · exact stopsAtFault_leaf _ _
    · exact nofun

theorem readItems_succ (readers : StopAtFaults fuel) (text : List Char) :
    StopsAtFault (listReading (readItems (fuel + 1) text)) := by
  rw [readItems]
  split
  · exact nofun
  · exact fun _ => rfl
  · exact readers.item _

theorem readItem_succ (readers : StopAtFaults fuel) (text : List Char) :
    StopsAtFault (listReading (readItem (fuel + 1) text)) := by
  have first := readers.value text
  rw [readItem]
  -- If the item stops the reader, the list ends with it and has its fault.
  split
  · next item stopped =>
      rw [stopped] at first
      intro passed
      exact absurd (skipFault?_list_cons_eq_none passed).1 first.skipFault?_ne_none
  · next item rest _ =>
      intro passed
      exact readers.moreItems rest (skipFault?_list_cons_eq_none passed).2

theorem readMoreItems_succ (readers : StopAtFaults fuel) (text : List Char) :
    StopsAtFault (listReading (readMoreItems (fuel + 1) text)) := by
  rw [readMoreItems]
  split
  · exact nofun
  · exact fun _ => rfl
  · split
    · exact nofun
    · exact readers.item _
  · exact nofun

theorem readMembers_succ (readers : StopAtFaults fuel) (text : List Char) :
    StopsAtFault (objectReading (readMembers (fuel + 1) text)) := by
  rw [readMembers]
  split
  · exact nofun
  · exact fun _ => rfl
  · exact readers.member _
  · exact nofun

theorem readMember_succ (readers : StopAtFaults fuel) (text : List Char) :
    StopsAtFault (objectReading (readMember (fuel + 1) text)) := by
  have name := stopsAtFault_leaf (JsonString.read text).1 (JsonString.read text).2
  rw [readMember]
  dsimp only
  split
  · next key stopped =>
      rw [stopped] at name
      intro passed
      exact absurd (skipFault?_object_cons_eq_none passed).1 name.skipFault?_ne_none
  · next key rest _ =>
      split
      · next rest _ =>
          have content := readers.value rest
          split
          · next value stopped =>
              rw [stopped] at content
              intro passed
              exact absurd (skipFault?_object_cons_eq_none passed).2.1 content.skipFault?_ne_none
          · next value rest _ =>
              intro passed
              exact readers.moreMembers rest (skipFault?_object_cons_eq_none passed).2.2
      -- Without a colon the value itself is a fault.
      · exact fun passed => nomatch (skipFault?_object_cons_eq_none passed).2.1
      · exact fun passed => nomatch (skipFault?_object_cons_eq_none passed).2.1

theorem readMoreMembers_succ (readers : StopAtFaults fuel) (text : List Char) :
    StopsAtFault (objectReading (readMoreMembers (fuel + 1) text)) := by
  rw [readMoreMembers]
  split
  · exact nofun
  · exact fun _ => rfl
  · split
    · exact readers.member _
    · exact nofun
    · exact nofun
    · exact nofun
  · exact nofun

theorem succ (readers : StopAtFaults fuel) : StopAtFaults (fuel + 1) where
  value := readers.readValue_succ
  items := readers.readItems_succ
  item := readers.readItem_succ
  moreItems := readers.readMoreItems_succ
  members := readers.readMembers_succ
  member := readers.readMember_succ
  moreMembers := readers.readMoreMembers_succ

end StopAtFaults

theorem stopAtFaults (fuel : Nat) : StopAtFaults fuel := by
  induction fuel with
  | zero => exact .zero
  | succ fuel readers => exact readers.succ

/-- A thorough asker decodes a text exactly if the text is read to its end, nothing but space
follows the value, and the value is what is asked for. -/
theorem decode_eq_ok_iff {α : Type} {ask : Node → Decoded α} (thorough : Node.IsThorough ask)
    {text : String} {value : α} :
    decode ask text = .ok value ↔
      ∃ node rest, read text.toList = (node, some rest) ∧ ask node = .ok value ∧
        skipSpace rest = [] := by
  constructor
  · intro decoded
    cases held : read text.toList with
    | mk node reached =>
        have complete : StopsAtFault (read text.toList) := (stopAtFaults _).value _
        simp only [decode, held] at decoded
        obtain ⟨made, asked, decoded⟩ := bind_eq_ok_iff.1 decoded
        rw [held] at complete
        -- A value was made, so the tree holds no fault and the reader did not stop.
        obtain ⟨rest, rfl⟩ := Option.isSome_iff_exists.1 (complete (thorough node made asked))
        cases spare : skipSpace rest with
        | nil =>
            simp only [spare, List.isEmpty_nil, if_true] at decoded
            cases decoded
            exact ⟨node, rest, rfl, asked, spare⟩
        | cons head later => simp [spare] at decoded
  · rintro ⟨node, rest, held, asked, spare⟩
    simp [decode, held, asked, spare, bind, Except.bind, pure, Except.pure]

end Json

end Document

namespace Group

open Document Fallible

theorem isThorough_shape : shape.IsThorough := by
  intro field member
  simp only [shape, List.mem_cons, List.not_mem_nil, or_false] at member
  rcases member with rfl | rfl | rfl
  · exact RecordShape.isThorough_check Node.isThorough_asString
  · exact RecordShape.isThorough_check Node.isThorough_asOptionalString
  · exact RecordShape.isThorough_check Node.isThorough_asString.asListOf

theorem isThorough_ofNode : Node.IsThorough ofNode := by
  intro node group decoded
  obtain ⟨gathered, collected, -⟩ := bind_eq_ok_iff.1 decoded
  exact isThorough_shape.gather node gathered collected

/-- A text lists groups: it is one list, nothing but space follows it, and every item decodes to
its group. -/
def Lists (text : String) (groups : List Group) : Prop :=
  ∃ items rest, Json.read text.toList = (.list items none, some rest) ∧
    Json.skipSpace rest = [] ∧
    List.Forall₂ (fun item group => ofNode item = .ok group) items groups

theorem readList_eq_ok_iff {text : String} {groups : List Group} :
    readList text = .ok groups ↔ Lists text groups := by
  constructor
  · intro decoded
    obtain ⟨node, rest, held, asked, spare⟩ :=
      (Json.decode_eq_ok_iff isThorough_ofNode.asListOf).1 decoded
    obtain ⟨items, rfl, each⟩ := Node.asListOf_eq_ok_iff.1 asked
    exact ⟨items, rest, held, spare, each⟩
  · rintro ⟨items, rest, held, spare, each⟩
    have asked : Node.asListOf ofNode (.list items none) = .ok groups :=
      Node.asListOf_eq_ok_iff.2 ⟨items, rfl, each⟩
    exact (Json.decode_eq_ok_iff isThorough_ofNode.asListOf).2 ⟨_, rest, held, asked, spare⟩

end Group

end GroupSync
