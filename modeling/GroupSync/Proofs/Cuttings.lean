import GroupSync.Proofs.BatchCutting

/-!
# The only way to cut commands

Batches cut a list of commands if they hold exactly these commands, in order, and all of them are
full but the last, which may hold fewer commands but at least one.  The first batch of a cutting is
thereby fixed, and so are all others: the commands are cut in exactly one way.  Only where there can
be no room for a full batch are they not cut at all.
-/

namespace GroupSync

namespace Batch

/-- Batches of at most `size` commands that make up a list of commands, of which only the last may
be smaller. -/
structure Cuts (size : Nat) (commands : List Command) (batches : List Batch) : Prop where
  whole : batches.flatMap Batch.commands = commands
  bounded : ∀ batch ∈ batches, 1 ≤ batch.size ∧ batch.size ≤ size
  full : ∀ batch ∈ batches.dropLast, batch.size = size

variable {size : Nat} {commands : List Command} {batch : Batch} {batches : List Batch}

theorem Cuts.eq_nil (cuts : Cuts size commands []) : commands = [] :=
  cuts.whole.symm

theorem cuts_nil : Cuts size [] [] where
  whole := rfl
  bounded := by simp
  full := by simp

/-- The first batch of a cutting takes as many commands as fit. -/
theorem Cuts.commands_eq_take (cuts : Cuts size commands (batch :: batches)) :
    batch.commands = commands.take size := by
  obtain ⟨whole, bounded, full⟩ := cuts
  rw [List.flatMap_cons] at whole
  cases batches with
  | nil =>
      have within : batch.commands.length ≤ size := (bounded batch List.mem_cons_self).2
      rw [List.flatMap_nil, List.append_nil] at whole
      rw [← whole, List.take_of_length_le within]
  | cons next rest =>
      have filled : batch.commands.length = size := full batch (by simp)
      rw [← whole, List.take_left' filled]

/-- The commands behind the first batch are cut by the other batches. -/
theorem Cuts.drop (cuts : Cuts size commands (batch :: batches)) :
    Cuts size (commands.drop size) batches where
  whole := by
    have regroup := cuts.whole
    rw [List.flatMap_cons, cuts.commands_eq_take] at regroup
    exact List.append_cancel_left (regroup.trans (List.take_append_drop size commands).symm)
  bounded := fun other member => cuts.bounded other (List.mem_cons_of_mem _ member)
  full := by
    intro other member
    refine cuts.full other ?_
    cases batches with
    | nil => cases member
    | cons next rest => exact List.mem_cons_of_mem _ member

theorem Cuts.cons (present : commands ≠ []) (positive : 1 ≤ size)
    (cuts : Cuts size (commands.drop size) batches) :
    Cuts size commands (⟨commands.take size⟩ :: batches) where
  whole := by rw [List.flatMap_cons, cuts.whole, List.take_append_drop]
  bounded := by
    have nonempty := List.length_pos_iff.mpr present
    rintro other (_ | ⟨_, member⟩)
    · rw [Batch.size, List.length_take]
      omega
    · exact cuts.bounded other member
  full := by
    cases batches with
    | nil => simp
    | cons next rest =>
        rintro other (_ | ⟨_, member⟩)
        · -- A batch that is followed by another one leaves commands over, so it is full.
          have left : commands.drop size ≠ [] := by
            intro none
            have occupied := (cuts.bounded next List.mem_cons_self).1
            have silent := cuts.whole.trans none
            rw [List.flatMap_cons, List.append_eq_nil_iff] at silent
            simp [Batch.size, silent.1] at occupied
          have longer := List.length_pos_iff.mpr left
          rw [List.length_drop] at longer
          rw [Batch.size, List.length_take]
          omega
        · exact cuts.full other member

theorem cuts_split (size : Nat) (commands : List Command) :
    Cuts (max size 1) commands (split size commands) :=
  split_induction size cuts_nil
    (fun _ present cuts => cuts.cons present (Nat.le_max_right size 1)) commands

/-- Whatever batches cut the commands are those that are cut one after another. -/
theorem Cuts.eq_split {commands : List Command} (cuts : Cuts (max size 1) commands batches) :
    batches = split size commands := by
  revert batches
  refine split_induction size (motive := fun commands cut =>
    ∀ {batches}, Cuts (max size 1) commands batches → batches = cut) ?_ ?_ commands
  · intro batches cuts
    cases batches with
    | nil => rfl
    | cons batch batches =>
        have occupied := (cuts.bounded batch List.mem_cons_self).1
        rw [Batch.size, cuts.commands_eq_take, List.take_nil] at occupied
        cases occupied
  · intro commands present induction batches cuts
    cases batches with
    | nil => exact absurd cuts.eq_nil present
    | cons batch batches =>
        rw [← cuts.commands_eq_take, ← induction cuts.drop]

/-- The last batch holds what is left over when all others are full. -/
theorem size_of_getLast?_split {commands : List Command} {last : Batch}
    (ends : (split size commands).getLast? = some last) :
    last.size = (commands.length - 1) % max size 1 + 1 := by
  revert ends
  refine split_induction size (motive := fun commands batches => batches.getLast? = some last →
    last.size = (commands.length - 1) % max size 1 + 1) (by simp) ?_ commands
  intro commands present induction ends
  have nonempty := List.length_pos_iff.mpr present
  by_cases fits : commands.length ≤ max size 1
  · rw [List.drop_of_length_le fits, split_nil, List.getLast?_singleton] at ends
    cases ends
    rw [Batch.size, List.length_take, Nat.mod_eq_of_lt (by omega)]
    omega
  · have left : commands.drop (max size 1) ≠ [] := by
      rw [ne_eq, List.drop_eq_nil_iff]
      exact fits
    rw [split_eq_take_cons_drop size left, List.getLast?_cons_cons,
      ← split_eq_take_cons_drop size left] at ends
    rw [induction ends, List.length_drop, Nat.mod_eq_sub_mod (a := commands.length - 1) (by omega)]
    congr 2
    omega

/-- There is one cutting into batches of a size, of which zero counts as one.  There are as many
batches as the number of commands by the size, rounded up, and the last of them holds what the
others leave over. -/
theorem split_cutsUniquely (size : Nat) (commands : List Command) :
    (∀ batches, Cuts (max size 1) commands batches ↔ batches = split size commands) ∧
      (split size commands).length = commands.length ⌈/⌉ max size 1 ∧
      (split size commands = [] ↔ commands = []) ∧
      ∀ last, (split size commands).getLast? = some last →
        last.size = (commands.length - 1) % max size 1 + 1 := by
  refine ⟨fun batches => ⟨Cuts.eq_split, ?_⟩, length_split size commands, ⟨?_, ?_⟩,
    fun last => size_of_getLast?_split⟩
  · rintro rfl
    exact cuts_split size commands
  · intro none
    exact (none ▸ cuts_split size commands).eq_nil
  · rintro rfl
    rfl

/-- Commands are cut into batches exactly if there can be room for a full batch, however many
commands there are, and then in the only way there is. -/
theorem partition_cutsUniquely (size : Nat) (commands : List Command) :
    (partition size commands = .error .capacityOverflow ↔ ¬ HasRoom (max size 1)) ∧
      (HasRoom (max size 1) → ∃ batches, partition size commands = .ok batches ∧
        (∀ others, Cuts (max size 1) commands others ↔ others = batches) ∧
        batches.length = commands.length ⌈/⌉ max size 1 ∧
        (batches = [] ↔ commands = []) ∧
        ∀ last, batches.getLast? = some last →
          last.size = (commands.length - 1) % max size 1 + 1) := by
  by_cases room : HasRoom (max size 1)
  · have cut : partition size commands = .ok (split size commands) := if_pos room
    refine ⟨iff_of_false ?_ (not_not.mpr room), fun _ => ?_⟩
    · rw [cut]
      exact nofun
    · exact ⟨split size commands, cut, split_cutsUniquely size commands⟩
  · exact ⟨iff_of_true (if_neg room) room, fun fits => absurd fits room⟩

/-- No commands are cut into no batches, whatever their size.  The program still ends if there can
be no room for one. -/
theorem partition_overflows :
    Cuts 0x4000000000000000 [] [] ∧ partition 0x4000000000000000 [] = .error .capacityOverflow :=
  ⟨cuts_nil, by decide⟩

/-- Twelve commands fill one batch and begin a second one. -/
example : (split 10 (List.replicate 12 ⟨"g", []⟩)).map Batch.size = [10, 2] := by
  decide

end Batch

end GroupSync
