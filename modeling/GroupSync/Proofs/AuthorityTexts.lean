import GroupSync.Proofs.Fallible
import GroupSync.Proofs.HostCharacters
import GroupSync.Url.Reader
import Mathlib.Data.List.TakeWhile

/-!
# Authorities and what is appended to them

The text of an authority is cut into a user name, a host and a port.  What is appended to it gets
into the last part that there is, and a blank or control is refused there: it belongs to no name,
closes no bracket and is no digit.
-/

namespace GroupSync

namespace Url

open Fallible
open Text (ne_of_low)

variable {kind : SchemeKind} {scheme text place server more : List Char} {sign : Char}

/-! ### The user name -/

theorem bne_of_not_mem (free : sign ∉ text) : ∀ character ∈ text, (character != sign) = true := by
  intro character member
  refine bne_iff_ne.mpr ?_
  rintro rfl
  exact free member

theorem splitCredentials_of_not_mem (free : '@' ∉ text) :
    splitCredentials text = (none, text) := by
  have passes := bne_of_not_mem (mt List.mem_reverse.mp free)
  rw [splitCredentials, List.takeWhile_eq_self_iff.mpr passes,
    List.dropWhile_eq_nil_iff.mpr passes, List.reverse_reverse]
  rfl

theorem splitCredentials_append_cons (before : List Char) (free : '@' ∉ place) :
    splitCredentials (before ++ '@' :: place) = (some before, place) := by
  have passes := bne_of_not_mem (mt List.mem_reverse.mp free)
  have turned : (before ++ '@' :: place).reverse = place.reverse ++ '@' :: before.reverse := by
    simp
  rw [splitCredentials, turned, List.takeWhile_append_of_pos passes,
    List.dropWhile_append_of_pos passes]
  simp

theorem exists_last_of_mem (held : sign ∈ text) :
    ∃ before behind, text = before ++ sign :: behind ∧ sign ∉ behind := by
  obtain ⟨front, behind, turned, free⟩ :=
    List.eq_append_cons_of_mem (List.mem_reverse.mpr held)
  refine ⟨behind.reverse, front.reverse, ?_, by simpa using free⟩
  rw [← List.reverse_reverse text, turned]
  simp

theorem splitCredentials_append (free : '@' ∉ more) : splitCredentials (text ++ more) =
    ((splitCredentials text).1, (splitCredentials text).2 ++ more) := by
  by_cases held : '@' ∈ text
  · obtain ⟨before, place, rfl, placeFree⟩ := exists_last_of_mem held
    have stillFree : '@' ∉ place ++ more := by simp [placeFree, free]
    rw [List.append_assoc, List.cons_append, splitCredentials_append_cons before placeFree,
      splitCredentials_append_cons before stillFree]
  · have stillFree : '@' ∉ text ++ more := by simp [held, free]
    rw [splitCredentials_of_not_mem held, splitCredentials_of_not_mem stillFree]

theorem splitCredentials_suffix (text : List Char) : (splitCredentials text).2 <:+ text := by
  by_cases held : '@' ∈ text
  · obtain ⟨before, place, rfl, free⟩ := exists_last_of_mem held
    rw [splitCredentials_append_cons before free]
    exact ⟨before ++ ['@'], by simp⟩
  · simp [splitCredentials_of_not_mem held]

theorem splitCredentials_eq_iff : splitCredentials text = (some [], []) ↔ text = ['@'] := by
  constructor
  · intro split
    by_cases held : '@' ∈ text
    · obtain ⟨before, place, rfl, free⟩ := exists_last_of_mem held
      rw [splitCredentials_append_cons before free] at split
      cases split
      rfl
    · rw [splitCredentials_of_not_mem held] at split
      cases split
  · rintro rfl
    decide

/-- Whether the URL goes on behind an authority makes a difference only to a lone sign that ends a
user name. -/
theorem readAuthority_followed (several : server ≠ ['@']) :
    readAuthority kind scheme true server = readAuthority kind scheme false server := by
  rw [ne_eq, ← splitCredentials_eq_iff] at several
  unfold readAuthority
  generalize splitCredentials server = parts at several ⊢
  obtain ⟨credentials, place⟩ := parts
  have named : (decide (credentials = some []) && place.isEmpty) = false := by
    rw [Bool.and_eq_false_iff]
    by_contra both
    simp only [decide_eq_false_iff_not, not_or, not_not, Bool.not_eq_false,
      List.isEmpty_iff] at both
    exact several (Prod.ext both.1 both.2)
  simp only [named, Bool.false_and]

/-! ### The host and the port -/

theorem splitPort_of_not_mem (free : ':' ∉ text) (bracketed : Bool) :
    splitPort bracketed text = (text, []) := by
  induction text generalizing bracketed with
  | nil => rfl
  | cons character text induction =>
      rw [List.mem_cons, not_or] at free
      have noColon : (character == ':') = false := beq_eq_false_iff_ne.mpr (Ne.symm free.1)
      rw [splitPort, noColon, Bool.false_and, if_neg Bool.false_ne_true]
      dsimp only
      rw [induction free.2]

theorem splitPort_append (free : ':' ∉ more) (bracketed : Bool) :
    splitPort bracketed (text ++ more) =
      if (splitPort bracketed text).2 = [] then ((splitPort bracketed text).1 ++ more, [])
      else ((splitPort bracketed text).1, (splitPort bracketed text).2 ++ more) := by
  induction text generalizing bracketed with
  | nil => simp [splitPort, splitPort_of_not_mem free]
  | cons character text induction =>
      rw [List.cons_append, splitPort, splitPort]
      split
      · simp
      · dsimp only
        rw [induction]
        split
        · rfl
        · rfl

theorem splitPort_append_eq (text : List Char) (bracketed : Bool) :
    (splitPort bracketed text).1 ++ (splitPort bracketed text).2 = text := by
  induction text generalizing bracketed with
  | nil => rfl
  | cons character text induction =>
      rw [splitPort]
      split
      · rfl
      · dsimp only
        rw [List.cons_append, induction]

theorem head?_splitPort {character : Char} {digits : List Char} {bracketed : Bool}
    (port : (splitPort bracketed text).2 = character :: digits) : character = ':' := by
  induction text generalizing bracketed with
  | nil => cases port
  | cons first text induction =>
      rw [splitPort] at port
      split at port
      · rename_i colon
        cases port
        simp only [Bool.and_eq_true, beq_iff_eq] at colon
        exact colon.1
      · exact induction port

/-- The digits of a port end at nothing but a backslash. -/
theorem readPortDigits_append_ne {digits : List Char} {port : Option Nat}
    {read : Option Nat × List Char} (free : '\\' ∉ digits) (low : sign.toNat ≤ 0x20) :
    readPortDigits (digits ++ sign :: more) port ≠ .ok read := by
  induction digits generalizing port with
  | nil =>
      have noDigit : sign.isDigit = false := by
        rw [Char.isDigit, Bool.and_eq_false_iff]
        refine .inl (decide_eq_false fun zero => ?_)
        have atLeast : 0x30 ≤ sign.toNat := UInt32.le_iff_toNat_le.mp zero
        omega
      have noBackslash : (sign == '\\') = false :=
        beq_eq_false_iff_ne.mpr (ne_of_low low (by decide))
      rw [List.nil_append, readPortDigits, noDigit, noBackslash]
      rintro ⟨⟩
  | cons digit digits induction =>
      rw [List.mem_cons, not_or] at free
      rw [List.cons_append, readPortDigits]
      split
      · dsimp only
        split
        · rintro ⟨⟩
        · exact induction free.2
      · rw [if_neg (by simpa using Ne.symm free.1)]
        rintro ⟨⟩

theorem readSpecialHost_append_ne {host : Host} (low : sign.toNat ≤ 0x20) :
    readSpecialHost (text ++ [sign]) ≠ .ok host := by
  unfold readSpecialHost
  split
  · rename_i rest bracketed
    unfold readBracketed
    split
    · rename_i inner ends
      rw [List.reverse_eq_cons_iff.mp ends, ← List.cons_append] at bracketed
      obtain rfl : sign = ']' := List.head_eq_of_cons_eq (List.append_inj' bracketed rfl).2
      exact absurd low (by decide)
    · rintro ⟨⟩
  · rw [Domain.ofHost?_eq_none low (List.mem_append_right _ (List.mem_singleton_self sign))]
    rintro ⟨⟩

theorem isDriveLetter_append_eq_false (low : sign.toNat ≤ 0x20) :
    isDriveLetter (text ++ [sign]) = false := by
  unfold isDriveLetter
  split
  · rename_i letter last parts
    have split : text ++ [sign] = [letter] ++ [last] := parts
    obtain rfl : sign = last := List.head_eq_of_cons_eq (List.append_inj' split rfl).2
    have noColon : sign ≠ ':' := ne_of_low low (by decide)
    have noBar : sign ≠ '|' := ne_of_low low (by decide)
    simp [noColon, noBar]
  · rfl

/-- The host and the port of an authority that can be read can be read. -/
theorem parts_of_readAuthority {followed : Bool} {read : Authority × List Char}
    (succeeds : readAuthority kind scheme followed text = .ok read) :
    let parts := splitPort false (splitCredentials text).2
    (∃ host, readHost kind parts.1 = .ok host) ∧ ∃ port, readPort scheme parts.2 = .ok port := by
  rw [readAuthority] at succeeds
  dsimp only at succeeds
  split at succeeds
  · cases succeeds
  · obtain ⟨host, hosts, succeeds⟩ := bind_eq_ok_iff.mp succeeds
    split at succeeds
    · cases succeeds
    · obtain ⟨port, ports, -⟩ := bind_eq_ok_iff.mp succeeds
      exact ⟨⟨host, hosts⟩, port, ports⟩

section Blanks

variable {blanks : List Char}

theorem exists_last_of_low (some : blanks ≠ [])
    (low : ∀ character ∈ blanks, character.toNat ≤ 0x20) :
    ∃ front last, blanks = front ++ [last] ∧ last.toNat ≤ 0x20 := by
  obtain ⟨front, last, rfl⟩ := (List.eq_nil_or_concat' blanks).resolve_left some
  exact ⟨front, last, rfl, low last (by simp)⟩

/-- Blanks and controls at the end of a host are refused. -/
theorem readSpecialHost_append_blanks_ne {host : Host} (some : blanks ≠ [])
    (low : ∀ character ∈ blanks, character.toNat ≤ 0x20) :
    readSpecialHost (text ++ blanks) ≠ .ok host := by
  obtain ⟨front, last, rfl, lastLow⟩ := exists_last_of_low some low
  rw [← List.append_assoc]
  exact readSpecialHost_append_ne lastLow

/-- Blanks and controls at the end of an authority get into its port, or else into its host. -/
theorem readAuthority_append_blanks_ne {followed : Bool} {read : Authority × List Char}
    (free : '\\' ∉ server) (some : blanks ≠ [])
    (low : ∀ character ∈ blanks, character.toNat ≤ 0x20) :
    readAuthority .special scheme followed (server ++ blanks) ≠ .ok read := by
  intro succeeds
  have credentialFree : '@' ∉ blanks := fun member => absurd (low _ member) (by decide)
  have portFree : ':' ∉ blanks := fun member => absurd (low _ member) (by decide)
  obtain ⟨⟨host, hosts⟩, port, ports⟩ := parts_of_readAuthority succeeds
  rw [splitCredentials_append credentialFree, splitPort_append portFree] at hosts ports
  set place := (splitCredentials server).2
  have placed := splitPort_append_eq place false
  cases portText : (splitPort false place).2 with
  | nil =>
      rw [if_pos portText, readHost, if_neg (by simp [some])] at hosts
      · cases reads : readSpecialHost ((splitPort false place).1 ++ blanks) with
        | ok found => exact readSpecialHost_append_blanks_ne some low reads
        | error fault =>
            rw [reads] at hosts
            cases hosts
      · rintro ⟨⟩
  | cons colon digits =>
      have noBackslash : '\\' ∉ digits := by
        intro member
        have held : '\\' ∈ place := by
          rw [← placed, portText]
          exact List.mem_append_right _ (List.mem_cons_of_mem _ member)
        exact free ((splitCredentials_suffix server).subset held)
      rw [if_neg (by simp [portText]), portText, head?_splitPort portText] at ports
      obtain ⟨found, reads, -⟩ := bind_eq_ok_iff.mp ports
      obtain ⟨blank, more, rfl⟩ := List.exists_cons_of_ne_nil some
      exact readPortDigits_append_ne noBackslash (low blank List.mem_cons_self) reads

end Blanks

end Url

end GroupSync
