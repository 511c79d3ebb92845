import GroupSync.Batching
import Mathlib.Algebra.Order.Floor.Div

/-!
# How commands are cut into batches

The batches of a list of commands are filled one command at a time.  Seen from outside, a batch
takes as many commands as fit and the rest is cut in the same way.  Everything else about the
batches follows from this by one induction over the cuts.
-/

namespace GroupSync

namespace Batch

/-- The commands that are still to come, together with the open batch, are cut in one piece. -/
theorem fill_eq_take_cons_drop {size : Nat} {commands filled : List Command}
    (room : filled.length < size) (present : filled.reverse ++ commands ≠ []) :
    fill size commands filled =
      ⟨(filled.reverse ++ commands).take size⟩ ::
        fill size ((filled.reverse ++ commands).drop size) [] := by
  induction commands generalizing filled with
  | nil =>
      cases filled with
      | nil => simp at present
      | cons last earlier =>
          have short : ((last :: earlier).reverse ++ []).length ≤ size := by
            simpa using room.le
          rw [List.take_of_length_le short, List.drop_of_length_le short]
          simp [fill]
  | cons command commands induction =>
      rw [fill]
      split
      · rename_i full
        have exactFit : (filled.reverse ++ [command]).length = size := by
          simp only [List.length_append, List.length_reverse, List.length_singleton]
          omega
        have regroup : filled.reverse ++ command :: commands =
            (filled.reverse ++ [command]) ++ commands := by simp
        rw [regroup, List.reverse_cons, List.take_left' exactFit, List.drop_left' exactFit]
      · rename_i space
        have regroup : (command :: filled).reverse ++ commands =
            filled.reverse ++ command :: commands := by simp
        rw [induction (by simpa using space) (by simp), regroup]

@[simp]
theorem split_nil (size : Nat) : split size [] = [] :=
  rfl

/-- The first batch takes as many commands as fit, and the rest is cut in the same way. -/
theorem split_eq_take_cons_drop (size : Nat) {commands : List Command}
    (present : commands ≠ []) :
    split size commands =
      ⟨commands.take (max size 1)⟩ :: split size (commands.drop (max size 1)) := by
  have room : ([] : List Command).length < max size 1 := by simp
  simpa [split] using fill_eq_take_cons_drop room (by simpa using present)

/-- What holds of no commands, and of commands whenever it holds of those behind the first
batch, holds of all commands and their batches. -/
theorem split_induction (size : Nat) {motive : List Command → List Batch → Prop}
    (nothing : motive [] [])
    (further : ∀ commands, commands ≠ [] →
      motive (commands.drop (max size 1)) (split size (commands.drop (max size 1))) →
        motive commands
          (⟨commands.take (max size 1)⟩ :: split size (commands.drop (max size 1))))
    (commands : List Command) : motive commands (split size commands) := by
  induction bound : commands.length using Nat.strong_induction_on generalizing commands with
  | _ length induction =>
      by_cases present : commands = []
      · subst present
        simpa using nothing
      · rw [split_eq_take_cons_drop size present]
        refine further commands present (induction _ ?_ _ rfl)
        have positive := List.length_pos_iff.mpr present
        rw [List.length_drop]
        omega

/-- Nothing is lost, added or reordered: the commands of the batches are the commands. -/
theorem flatMap_commands_split (size : Nat) (commands : List Command) :
    (split size commands).flatMap Batch.commands = commands := by
  refine split_induction size (motive := fun commands batches =>
    batches.flatMap Batch.commands = commands) rfl ?_ commands
  intro commands _ induction
  rw [List.flatMap_cons, induction, List.take_append_drop]

/-- Commands that fill their batches are cut as if nothing followed them. -/
theorem split_append (size : Nat) {front : List Command} (rest : List Command)
    (full : max size 1 ∣ front.length) :
    split size (front ++ rest) = split size front ++ split size rest := by
  revert full
  refine split_induction size (motive := fun front batches => max size 1 ∣ front.length →
    split size (front ++ rest) = batches ++ split size rest) (fun _ => rfl) ?_ front
  intro front present induction full
  have enough : max size 1 ≤ front.length := Nat.le_of_dvd (List.length_pos_iff.mpr present) full
  have fullRest : max size 1 ∣ (front.drop (max size 1)).length := by
    rw [List.length_drop]
    exact Nat.dvd_sub full (Nat.dvd_refl _)
  rw [split_eq_take_cons_drop size (List.append_ne_nil_of_left_ne_nil present rest),
    List.take_append_of_le_length enough, List.drop_append_of_le_length enough, induction fullRest,
    List.cons_append]

/-- The number of batches is the number of commands by their size, rounded up. -/
theorem length_split (size : Nat) (commands : List Command) :
    (split size commands).length = commands.length ⌈/⌉ max size 1 := by
  refine split_induction size (motive := fun commands batches =>
    batches.length = commands.length ⌈/⌉ max size 1) (by simp) ?_ commands
  intro commands present induction
  have positive := List.length_pos_iff.mpr present
  rw [List.length_cons, induction, List.length_drop, Nat.ceilDiv_eq_add_pred_div,
    Nat.ceilDiv_eq_add_pred_div, ← Nat.add_div_right _ (by omega)]
  rcases le_total (max size 1) commands.length with whole | short
  · congr 1
    omega
  · rw [Nat.sub_eq_zero_of_le short, Nat.div_eq_of_lt_le (k := 1) (by omega) (by omega),
      Nat.div_eq_of_lt_le (k := 1) (by omega) (by omega)]

/-- There is room for batches of groups, so they are what the partition of their commands gives. -/
theorem partition_ofGroups (profiles : NameSet) (groups : List Group) :
    partition greatestSize (Command.ofGroups profiles groups) = .ok (ofGroups profiles groups) :=
  if_pos (by decide)

theorem sum_size_ofGroups (profiles : NameSet) (groups : List Group) :
    ((ofGroups profiles groups).map size).sum = groups.length := by
  have whole := congrArg List.length
    (flatMap_commands_split greatestSize (Command.ofGroups profiles groups))
  rw [List.length_flatMap] at whole
  exact whole.trans (by simp [Command.ofGroups])

theorem length_ofGroups (profiles : NameSet) (groups : List Group) :
    (ofGroups profiles groups).length = groups.length ⌈/⌉ 10 := by
  rw [ofGroups, length_split, Command.ofGroups, List.length_map]
  rfl

/-- At a border of batches, the batches of a list of groups are those of its two parts. -/
theorem ofGroups_take_append_drop (profiles : NameSet) {groups : List Group} {border : Nat}
    (inside : border ≤ groups.length) (aligned : 10 ∣ border) :
    ofGroups profiles (groups.take border) ++ ofGroups profiles (groups.drop border) =
      ofGroups profiles groups := by
  have full : max greatestSize 1 ∣ (Command.ofGroups profiles (groups.take border)).length := by
    rw [Command.ofGroups, List.length_map, List.length_take_of_le inside]
    exact aligned
  rw [ofGroups, ofGroups, ← split_append greatestSize _ full, Command.ofGroups, Command.ofGroups,
    ← List.map_append, List.take_append_drop]
  rfl

/-- The groups behind the first batches are cut into the other batches. -/
theorem ofGroups_drop (profiles : NameSet) {groups : List Group} {count : Nat}
    (inside : 10 * count ≤ groups.length) :
    ofGroups profiles (groups.drop (10 * count)) = (ofGroups profiles groups).drop count := by
  have filled : (ofGroups profiles (groups.take (10 * count))).length = count := by
    rw [length_ofGroups, List.length_take_of_le inside, Nat.ceilDiv_eq_add_pred_div]
    omega
  rw [← ofGroups_take_append_drop profiles inside (Nat.dvd_mul_right 10 count),
    List.drop_left' filled]

end Batch

end GroupSync
