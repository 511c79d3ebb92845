import GroupSync.Command
import GroupSync.Group

/-!
# From groups to batches

One command is built for each group: it creates the group and adds it to the configured
product profiles, if there are any.  The commands are then cut into batches of a bounded size, for
which room must be found.
-/

namespace GroupSync

namespace Command

/-- The command of a group.  The profiles that it joins are the same for every group; those that
the group declares itself are not looked at. -/
def ofGroup (profiles : NameSet) (group : Group) : Command where
  groupId := group.id
  steps :=
    .create group.description ::
      (if profiles.isEmpty then [] else [.addProfiles profiles])

def ofGroups (profiles : NameSet) (groups : List Group) : List Command :=
  groups.map (ofGroup profiles)

/-- The bytes that a command takes up in a list: three words for its name and three for its list
of steps. -/
def bytes : Nat := (3 + 3) * 8

end Command

/-- More room was asked for than a list can have, which ends the program on the spot. -/
inductive RoomFault where
  | capacityOverflow
deriving DecidableEq

def RoomFault.message : RoomFault → String
  | capacityOverflow => "capacity overflow"

namespace Batch

/-- The greatest number of commands that the directory accepts in one request. -/
def greatestSize : Nat := 10

/-- Fill batches one after another: `filled` holds the commands of the open batch in reverse,
and a batch is closed as soon as it is full. -/
def fill (size : Nat) : List Command → List Command → List Batch
  | [], [] => []
  | [], filled => [⟨filled.reverse⟩]
  | command :: commands, filled =>
      if size ≤ filled.length + 1 then
        ⟨(command :: filled).reverse⟩ :: fill size commands []
      else fill size commands (command :: filled)

/-- Cut a list of commands into batches of a given size, of which zero counts as one; only the
last batch may be smaller. -/
def split (size : Nat) (commands : List Command) : List Batch :=
  fill (max size 1) commands []

/-- The greatest number of bytes that a list can take up, where words have 64 bits. -/
def greatestRoom : Nat := 0x7FFFFFFFFFFFFFFF

/-- There can be room for as many commands. -/
def HasRoom (count : Nat) : Prop :=
  count * Command.bytes ≤ greatestRoom

instance (count : Nat) : Decidable (HasRoom count) :=
  inferInstanceAs (Decidable (_ ≤ _))

/-- Cut a list of commands into batches of a given size.  Room for a full batch is set aside
before the first command is looked at, and again for each batch to come; the list of the batches
itself is no longer than that of the commands. -/
def partition (size : Nat) (commands : List Command) : Except RoomFault (List Batch) :=
  if HasRoom (max size 1) then .ok (split size commands) else .error .capacityOverflow

/-- The batches of a list of groups; there is room for batches of this size. -/
def ofGroups (profiles : NameSet) (groups : List Group) : List Batch :=
  split greatestSize (Command.ofGroups profiles groups)

end Batch

end GroupSync
