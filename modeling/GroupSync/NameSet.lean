/-!
# Sets of names

A finite set of texts, kept as the list of its members in ascending order.  Texts are compared
character by character through their code points, which is the order of their UTF-8 bytes.
Since the list is strictly ascending, two sets with the same members are equal.
-/

namespace GroupSync

/-- A finite set of texts. -/
structure NameSet where
  /-- The members in ascending order. -/
  toList : List String
  /-- No member occurs twice. -/
  ascending : toList.Pairwise (· < ·)
deriving DecidableEq

namespace NameSet

theorem toList_inj {names others : NameSet} : names.toList = others.toList ↔ names = others := by
  cases names
  cases others
  simp

def empty : NameSet :=
  ⟨[], .nil⟩

instance : Inhabited NameSet :=
  ⟨empty⟩

/-- Put a name into its place in an ascending list, unless it is there already. -/
def place (name : String) : List String → List String
  | [] => [name]
  | first :: rest =>
      if name < first then name :: first :: rest
      else if name = first then first :: rest
      else first :: place name rest

theorem mem_place {name member : String} {names : List String} :
    member ∈ place name names ↔ member = name ∨ member ∈ names := by
  induction names with
  | nil => simp [place]
  | cons first rest ih =>
      unfold place
      split
      · simp
      · split
        · rename_i same
          subst same
          simp
        · simp only [List.mem_cons, ih]
          exact or_left_comm

theorem pairwise_place {name : String} {names : List String}
    (ascending : names.Pairwise (· < ·)) : (place name names).Pairwise (· < ·) := by
  induction names with
  | nil => simp [place]
  | cons first rest ih =>
      rw [List.pairwise_cons] at ascending
      unfold place
      split
      · rename_i before
        refine .cons ?_ (.cons ascending.1 ascending.2)
        intro member membership
        rcases List.mem_cons.mp membership with rfl | later
        · exact before
        · exact String.lt_trans before (ascending.1 member later)
      · rename_i notBefore
        split
        · exact .cons ascending.1 ascending.2
        · rename_i different
          refine .cons ?_ (ih ascending.2)
          intro member membership
          rcases mem_place.mp membership with rfl | later
          · exact Std.lt_of_le_of_ne (String.not_lt.mp notBefore) (Ne.symm different)
          · exact ascending.1 member later

def insert (name : String) (names : NameSet) : NameSet :=
  ⟨place name names.toList, pairwise_place names.ascending⟩

def ofList (names : List String) : NameSet :=
  names.foldr insert empty

def isEmpty (names : NameSet) : Bool :=
  names.toList.isEmpty

def size (names : NameSet) : Nat :=
  names.toList.length

/-- The members of a set made from a list are the names in the list. -/
theorem mem_ofList {member : String} {names : List String} :
    member ∈ (ofList names).toList ↔ member ∈ names := by
  induction names with
  | nil => simp [ofList, empty]
  | cons first rest ih =>
      have step : (ofList (first :: rest)).toList = place first (ofList rest).toList := rfl
      rw [step, mem_place, ih, List.mem_cons]

end NameSet

end GroupSync
