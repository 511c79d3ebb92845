import GroupSync.Proofs.DecimalNumerals
import GroupSync.Proofs.JsonGrammar
import GroupSync.Proofs.Totals

/-!
# Integer literals

A JSON text writes a whole number as a row of digits without needless zeros, behind a sign or not.
The reader makes an integer of such a literal only if the integer is the very number, so a literal
beyond 64 bits is refused by those who ask for an integer, and is neither wrapped nor rounded.
-/

namespace GroupSync

namespace Document

namespace JsonNumber

open Number (Denotes)

end JsonNumber

namespace Json

open Number (Denotes)

end Json

namespace Node

theorem asInt64_eq_ok_iff {node : Node} {value : Int} :
    node.asInt64 = .ok value ↔ node = .integer value ∧ Summary.Holds value := by
  cases node with
  | integer found =>
      simp only [asInt64, asIntegerBetween, Summary.Holds, Node.integer.injEq]
      split
      · rename_i inside
        simp only [Except.ok.injEq]
        constructor
        · rintro rfl
          exact ⟨rfl, by omega⟩
        · exact And.left
      · rename_i outside
        constructor
        · intro refused
          split at refused <;> cases refused
        · rintro ⟨rfl, inside⟩
          exact absurd (by omega) outside
  | _ => simp [asInt64, asIntegerBetween, refuse]

end Node

end Document

end GroupSync
