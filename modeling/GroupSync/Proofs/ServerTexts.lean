import GroupSync.Proofs.AuthorityTexts
import GroupSync.Proofs.QueryFlag

/-!
# Servers in the texts of URLs

A text is read as a URL exactly if it has a scheme and the server that it names, if it names one,
can be read: no path, query or fragment is refused.  What is appended to a text changes its server
only if the text ends in it.
-/

namespace GroupSync

namespace Url

open Fallible

namespace SchemeKind

/-- The text that begins with the server of a place, if the place names one. -/
def serverText? (kind : SchemeKind) (place : List Char) : Option (List Char) :=
  match kind, place with
  | .special, place => some (place.dropWhile SchemeKind.special.isSlash)
  | kind, first :: second :: rest =>
      if kind.isSlash first && kind.isSlash second then some rest else none
  | _, _ => none

/-- The server at the head of a text. -/
def server (kind : SchemeKind) (text : List Char) : List Char :=
  text.takeWhile fun character => !kind.isSlash character

/-- What a text goes on with behind its server. -/
def behindServer (kind : SchemeKind) (text : List Char) : List Char :=
  text.dropWhile fun character => !kind.isSlash character

theorem isSlash_eq_false {character : Char} (low : character.toNat ≤ 0x20) (kind : SchemeKind) :
    kind.isSlash character = false := by
  have noSlash : character ≠ '/' := Text.ne_of_low low (by decide)
  have noBackslash : character ≠ '\\' := Text.ne_of_low low (by decide)
  simp [isSlash, noSlash, noBackslash]

/-- A scheme without rules of its own, and that of files, ask for two slashes before a server. -/
theorem serverText?_eq_some_iff {kind : SchemeKind} {place text : List Char}
    (notSpecial : kind ≠ .special) : kind.serverText? place = some text ↔
      ∃ first second, kind.isSlash first = true ∧ kind.isSlash second = true ∧
        place = first :: second :: text := by
  have two (first second : Char) (rest : List Char) : kind.serverText? (first :: second :: rest) =
      if kind.isSlash first && kind.isSlash second then some rest else none := by
    cases kind with
    | special => exact absurd rfl notSpecial
    | file => rfl
    | general => rfl
  constructor
  · intro named
    match place with
    | [] => cases kind <;> first | exact absurd rfl notSpecial | cases named
    | [_] => cases kind <;> first | exact absurd rfl notSpecial | cases named
    | first :: second :: rest =>
        rw [two] at named
        split at named
        · rename_i slashes
          cases named
          simp only [Bool.and_eq_true] at slashes
          exact ⟨first, second, slashes.1, slashes.2, rfl⟩
        · cases named
  · rintro ⟨first, second, firstSlash, secondSlash, rfl⟩
    rw [two, firstSlash, secondSlash]
    rfl

end SchemeKind

/-- A server can be read; `followed` tells that the URL goes on behind it. -/
def IsServer (kind : SchemeKind) (scheme : List Char) (followed : Bool) (server : List Char) :
    Prop :=
  match kind with
  | .file => isDriveLetter server = true ∨ ∃ host, readFileHost server = .ok host
  | kind => ∃ read, readAuthority kind scheme followed server = .ok read

theorem isServer_iff {kind : SchemeKind} {scheme server : List Char} {followed : Bool}
    (notFile : kind ≠ .file) : IsServer kind scheme followed server ↔
      ∃ read, readAuthority kind scheme followed server = .ok read := by
  cases kind with
  | file => exact absurd rfl notFile
  | special => rfl
  | general => rfl

/-- The server that a place names, if it names one, can be read. -/
def NamesServer (kind : SchemeKind) (scheme : List Char) (followed : Bool) (place : List Char) :
    Prop :=
  ∀ text, kind.serverText? place = some text →
    IsServer kind scheme (followed || !(kind.behindServer text).isEmpty) (kind.server text)

section Reading

variable {kind : SchemeKind} {scheme place text : List Char} {followed : Bool}

theorem namesServer_iff (named : kind.serverText? place = some text) :
    NamesServer kind scheme followed place ↔
      IsServer kind scheme (followed || !(kind.behindServer text).isEmpty) (kind.server text) := by
  simp [NamesServer, named]

theorem exists_readSpecialPlace_iff :
    (∃ found, readSpecialPlace scheme followed place = .ok found) ↔
      NamesServer .special scheme followed place := by
  rw [namesServer_iff rfl]
  exact exists_bind_eq_ok_iff

theorem namesServer_of_unnamed (notSpecial : kind ≠ .special)
    (unnamed : ∀ first second rest, place = first :: second :: rest →
      ¬ (kind.isSlash first = true ∧ kind.isSlash second = true)) :
    NamesServer kind scheme followed place := by
  intro text named
  obtain ⟨first, second, firstSlash, secondSlash, same⟩ :=
    (SchemeKind.serverText?_eq_some_iff notSpecial).mp named
  exact absurd ⟨firstSlash, secondSlash⟩ (unnamed first second text same)

theorem exists_readGeneralPlace_iff :
    (∃ found, readGeneralPlace scheme followed place = .ok found) ↔
      NamesServer .general scheme followed place := by
  have slash (character : Char) : SchemeKind.general.isSlash character = (character == '/') := by
    simp [SchemeKind.isSlash]
  unfold readGeneralPlace
  split
  · rename_i text
    have named : SchemeKind.general.serverText? ('/' :: '/' :: text) = some text := rfl
    rw [namesServer_iff named, SchemeKind.server, SchemeKind.behindServer]
    simp only [slash]
    exact exists_bind_eq_ok_iff
  · rename_i path single
    refine iff_of_true ⟨_, rfl⟩ (namesServer_of_unnamed (by decide) ?_)
    rintro first second rest ⟨⟩
    simp only [slash, beq_iff_eq]
    rintro ⟨-, rfl⟩
    exact single rest rfl
  · rename_i _ noSlash
    refine iff_of_true ⟨_, rfl⟩ (namesServer_of_unnamed (by decide) ?_)
    rintro first second rest rfl
    simp only [slash, beq_iff_eq]
    rintro ⟨rfl, -⟩
    exact noSlash _ rfl

theorem exists_readFilePlace_iff :
    (∃ found, readFilePlace place = .ok found) ↔ NamesServer .file scheme followed place := by
  unfold readFilePlace
  split
  · rename_i first second rest
    split
    · rename_i slashes
      have named : SchemeKind.file.serverText? (first :: second :: rest) = some rest :=
        if_pos slashes
      rw [namesServer_iff named, IsServer]
      dsimp only
      split
      · rename_i drive
        exact iff_of_true ⟨_, rfl⟩ (.inl drive)
      · rename_i noDrive
        exact exists_bind_eq_ok_iff.trans (or_iff_right noDrive).symm
    · rename_i noSlashes
      refine iff_of_true ⟨_, rfl⟩ (namesServer_of_unnamed (by decide) ?_)
      rintro _ _ _ ⟨⟩
      simpa using noSlashes
  · rename_i short
    refine iff_of_true ⟨_, rfl⟩ (namesServer_of_unnamed (by decide) ?_)
    exact fun first second rest same => (short first second rest same).elim

theorem exists_readPlace_iff {kind : SchemeKind} :
    (∃ found, readPlace kind scheme followed place = .ok found) ↔
      NamesServer kind scheme followed place := by
  cases kind with
  | file => exact exists_readFilePlace_iff
  | special => exact exists_readSpecialPlace_iff
  | general => exact exists_readGeneralPlace_iff

/-- The place in what follows a scheme: it ends at the first number sign or question mark. -/
def placeOf (rest : List Char) : List Char :=
  (cut '?' (cut '#' rest).1).1

/-- The place in what follows a scheme is followed by a query or fragment. -/
def isFollowed (rest : List Char) : Bool :=
  (cut '?' (cut '#' rest).1).2.isSome || (cut '#' rest).2.isSome

/-- The server that is named behind a scheme, if one is named, can be read. -/
def IsReadable (kind : SchemeKind) (scheme rest : List Char) : Prop :=
  NamesServer kind scheme (isFollowed rest) (placeOf rest)

theorem exists_readTidy_iff {rest : List Char} (found : splitScheme? text = some (scheme, rest)) :
    (∃ url, readTidy text = .ok url) ↔ IsReadable (.of scheme) scheme rest := by
  rw [readTidy, found]
  exact exists_bind_eq_ok_iff.trans exists_readPlace_iff

end Reading

section Appending

variable {kind : SchemeKind} {scheme rest place text server : List Char}

theorem span_append_of_ne_nil {belongs : Char → Bool} (stops : text.dropWhile belongs ≠ [])
    (more : List Char) : (text ++ more).takeWhile belongs = text.takeWhile belongs ∧
      (text ++ more).dropWhile belongs = text.dropWhile belongs ++ more := by
  have shorter : (text.takeWhile belongs).length ≠ text.length := by
    intro whole
    have parts := congrArg List.length
      (List.takeWhile_append_dropWhile (p := belongs) (l := text))
    rw [List.length_append] at parts
    exact stops (List.eq_nil_of_length_eq_zero (by omega))
  constructor
  · rw [List.takeWhile_append, if_neg shorter]
  · rw [List.dropWhile_append, if_neg (by simpa using stops)]

theorem cut_append_of_mem {sign : Char} (held : sign ∈ text) (more : List Char) :
    cut sign (text ++ more) = ((cut sign text).1, (cut sign text).2.map (· ++ more)) := by
  obtain ⟨front, behind, rfl, free⟩ := List.eq_append_cons_of_mem held
  rw [List.append_assoc, List.cons_append, cut_append_of_not_mem free, cut_append_of_not_mem free,
    cut_cons_self, cut_cons_self]
  rfl

theorem isSome_cut_iff {sign : Char} : (cut sign text).2.isSome = true ↔ sign ∈ text := by
  constructor
  · intro found
    by_contra free
    rw [cut_of_not_mem free] at found
    cases found
  · intro held
    obtain ⟨front, behind, rfl, free⟩ := List.eq_append_cons_of_mem held
    rw [cut_append_of_not_mem free, cut_cons_self]
    rfl

theorem isFollowed_eq_false_iff : isFollowed rest = false ↔ '#' ∉ rest ∧ '?' ∉ rest := by
  by_cases numbered : '#' ∈ rest
  · simp [isFollowed, isSome_cut_iff.mpr numbered, numbered]
  · rw [isFollowed, cut_of_not_mem numbered, Option.isSome_none, Bool.or_false]
    simp [← isSome_cut_iff, numbered]

/-- What is appended to a query or fragment belongs to it. -/
theorem append_of_isFollowed (followed : isFollowed rest = true) (more : List Char) :
    placeOf (rest ++ more) = placeOf rest ∧ isFollowed (rest ++ more) = true := by
  rw [placeOf, placeOf, isFollowed]
  by_cases numbered : '#' ∈ rest
  · rw [cut_append_of_mem numbered]
    simp [isSome_cut_iff.mpr numbered]
  · rw [isFollowed, cut_of_not_mem numbered, Option.isSome_none, Bool.or_false,
      isSome_cut_iff] at followed
    rw [cut_append_of_not_mem numbered, cut_of_not_mem numbered, cut_append_of_mem followed]
    simp [isSome_cut_iff.mpr followed]

/-- What is appended to a place belongs to it up to the first number sign or question mark. -/
theorem append_of_isFollowed_eq_false (unfollowed : isFollowed rest = false) (more : List Char) :
    placeOf (rest ++ more) = rest ++ placeOf more ∧
      isFollowed (rest ++ more) = isFollowed more := by
  obtain ⟨numberFree, questionFree⟩ := isFollowed_eq_false_iff.mp unfollowed
  simp [placeOf, isFollowed, cut_append_of_not_mem numberFree, cut_append_of_not_mem questionFree]

theorem placeOf_eq_self (unfollowed : isFollowed rest = false) : placeOf rest = rest := by
  obtain ⟨numberFree, questionFree⟩ := isFollowed_eq_false_iff.mp unfollowed
  rw [placeOf, cut_of_not_mem numberFree, cut_of_not_mem questionFree]

namespace SchemeKind

theorem serverText?_append (named : kind.serverText? place = some text)
    (begun : kind = .special → text ≠ []) (more : List Char) :
    kind.serverText? (place ++ more) = some (text ++ more) := by
  by_cases special : kind = .special
  · subst special
    obtain rfl : place.dropWhile SchemeKind.special.isSlash = text := Option.some.inj named
    refine congrArg some ?_
    rw [List.dropWhile_append, if_neg]
    simpa using begun rfl
  · obtain ⟨first, second, firstSlash, secondSlash, rfl⟩ :=
      (serverText?_eq_some_iff special).mp named
    exact (serverText?_eq_some_iff special).mpr ⟨first, second, firstSlash, secondSlash, rfl⟩

theorem suffix_of_serverText? (named : kind.serverText? place = some text) : text <:+ place := by
  by_cases special : kind = .special
  · subst special
    obtain rfl : place.dropWhile SchemeKind.special.isSlash = text := Option.some.inj named
    exact List.dropWhile_suffix _
  · obtain ⟨first, second, -, -, rfl⟩ := (serverText?_eq_some_iff special).mp named
    exact ⟨[first, second], rfl⟩

/-- A place that names no server even with two slashes behind it never names one. -/
theorem serverText?_append_ne_some (unnamed : kind.serverText? (place ++ ['/', '/']) = none)
    (more : List Char) : kind.serverText? (place ++ more) ≠ some text := by
  have notSpecial : kind ≠ .special := by
    rintro rfl
    cases unnamed
  have names {first second : Char} {rest : List Char} (firstSlash : kind.isSlash first = true)
      (secondSlash : kind.isSlash second = true) :
      place ++ ['/', '/'] ≠ first :: second :: rest := by
    intro same
    have named := (serverText?_eq_some_iff notSpecial).mpr
      ⟨first, second, firstSlash, secondSlash, same⟩
    rw [unnamed] at named
    cases named
  intro named
  obtain ⟨first, second, firstSlash, secondSlash, same⟩ :=
    (serverText?_eq_some_iff notSpecial).mp named
  match place with
  | [] => exact names rfl rfl rfl
  | [_] =>
      obtain ⟨rfl, -⟩ := List.cons.inj same
      exact names firstSlash rfl rfl
  | _ :: _ :: _ =>
      obtain ⟨rfl, later⟩ := List.cons.inj same
      obtain ⟨rfl, -⟩ := List.cons.inj later
      exact names firstSlash secondSlash rfl

theorem append_of_behindServer_ne_nil (goesOn : kind.behindServer text ≠ []) (more : List Char) :
    kind.server (text ++ more) = kind.server text ∧
      kind.behindServer (text ++ more) = kind.behindServer text ++ more :=
  span_append_of_ne_nil goesOn more

/-- What is appended to a server belongs to it up to the first slash. -/
theorem append_of_free (free : ∀ character ∈ text, kind.isSlash character = false)
    (more : List Char) : kind.server (text ++ more) = text ++ kind.server more ∧
      kind.behindServer (text ++ more) = kind.behindServer more := by
  have passes : ∀ character ∈ text, (!kind.isSlash character) = true := by
    simpa using free
  exact ⟨List.takeWhile_append_of_pos passes, List.dropWhile_append_of_pos passes⟩

end SchemeKind

/-- What stands behind a scheme goes on behind its server, or it names none whatever is appended:
not even with two slashes behind it. -/
inductive Settles (kind : SchemeKind) (rest : List Char) : Prop
  | followed (goesOn : isFollowed rest = true)
  | behind {text : List Char} (named : kind.serverText? rest = some text)
      (goesOn : kind.behindServer text ≠ [])
  | serverless (unnamed : kind.serverText? (rest ++ ['/', '/']) = none)

/-- What stands behind a scheme ends in its server. -/
structure EndsInServer (kind : SchemeKind) (rest server : List Char) : Prop where
  unfollowed : isFollowed rest = false
  named : kind.serverText? rest = some server
  nonempty : server ≠ []
  free : ∀ character ∈ server, kind.isSlash character = false

/-- Whether the URL goes on behind a server makes a difference only to a lone sign that ends a user
name. -/
theorem isServer_followed_iff : IsServer kind scheme true server ↔
    IsServer kind scheme false server ∧ server ≠ ['@'] := by
  by_cases lone : server = ['@']
  · subst lone
    refine iff_of_false ?_ fun both => both.2 rfl
    by_cases file : kind = .file
    · subst file
      have refused : readFileHost ['@'] = .error .invalidDomain := by decide +kernel
      rintro (⟨⟨⟩⟩ | ⟨host, read⟩)
      rw [refused] at read
      cases read
    · rw [isServer_iff file]
      rintro ⟨read, ⟨⟩⟩
  · rw [and_iff_left lone]
    by_cases file : kind = .file
    · subst file
      rfl
    · rw [isServer_iff file, isServer_iff file, readAuthority_followed lone]

/-- Blanks and controls are no part of a server, unless the scheme is general. -/
theorem not_isServer_append {blanks : List Char} (notGeneral : kind ≠ .general)
    (nonempty : server ≠ []) (free : ∀ character ∈ server, kind.isSlash character = false)
    (some : blanks ≠ []) (low : ∀ character ∈ blanks, character.toNat ≤ 0x20)
    (followed : Bool) : ¬ IsServer kind scheme followed (server ++ blanks) := by
  cases kind with
  | general => exact absurd rfl notGeneral
  | file =>
      rintro (drive | ⟨host, read⟩)
      · obtain ⟨front, last, rfl, lastLow⟩ := exists_last_of_low some low
        rw [← List.append_assoc, isDriveLetter_append_eq_false lastLow] at drive
        cases drive
      · rw [readFileHost, if_neg (by simp [nonempty])] at read
        obtain ⟨found, reads, -⟩ := bind_eq_ok_iff.mp read
        exact readSpecialHost_append_blanks_ne some low reads
  | special =>
      rintro ⟨read, succeeds⟩
      have noBackslash : '\\' ∉ server := fun member => absurd (free _ member) (by decide)
      exact readAuthority_append_blanks_ne noBackslash some low succeeds

theorem IsServer.imp {followed other : Bool} (isServer : IsServer kind scheme followed server)
    (later : other = true → followed = true) : IsServer kind scheme other server := by
  cases followed with
  | false =>
      cases other with
      | false => exact isServer
      | true => cases later rfl
  | true =>
      cases other with
      | false => exact (isServer_followed_iff.mp isServer).1
      | true => exact isServer

/-- The server of a text that goes on behind it, or that names none, can be read whatever is
appended. -/
theorem Settles.isReadable_append (settles : Settles kind rest)
    (readable : IsReadable kind scheme rest) (more : List Char) :
    IsReadable kind scheme (rest ++ more) := by
  rw [IsReadable] at readable ⊢
  by_cases followed : isFollowed rest = true
  · obtain ⟨samePlace, goesOn⟩ := append_of_isFollowed followed more
    rw [samePlace, goesOn, ← followed]
    exact readable
  · have unfollowed : isFollowed rest = false := Bool.eq_false_iff.mpr followed
    obtain ⟨longer, -⟩ := append_of_isFollowed_eq_false unfollowed more
    rw [longer]
    rw [placeOf_eq_self unfollowed] at readable
    cases settles with
    | followed goesOn => exact absurd goesOn followed
    | serverless unnamed =>
        exact fun _ named => absurd named (SchemeKind.serverText?_append_ne_some unnamed _)
    | behind named goesOn =>
        rename_i text
        have begun : kind = .special → text ≠ [] := by
          rintro - rfl
          exact goesOn rfl
        obtain ⟨same, behind⟩ :=
          SchemeKind.append_of_behindServer_ne_nil goesOn (placeOf more)
        rw [namesServer_iff (SchemeKind.serverText?_append named begun _), same, behind]
        refine ((namesServer_iff named).mp readable).imp fun _ => ?_
        simp [goesOn]

theorem EndsInServer.isReadable_iff (ends : EndsInServer kind rest server) :
    IsReadable kind scheme rest ↔ IsServer kind scheme false server := by
  have whole := SchemeKind.append_of_free ends.free []
  rw [List.append_nil] at whole
  rw [IsReadable, ends.unfollowed, placeOf_eq_self ends.unfollowed, namesServer_iff ends.named,
    whole.1, whole.2]
  have nothing : kind.server [] = [] := rfl
  have noneBehind : kind.behindServer [] = [] := rfl
  rw [nothing, noneBehind, List.append_nil]
  rfl

/-- What stands behind a special scheme goes on behind its server or ends in it. -/
theorem settles_or_endsInServer (readable : IsReadable .special scheme rest) :
    Settles .special rest ∨ ∃ server, EndsInServer .special rest server := by
  cases unfollowed : isFollowed rest with
  | true => exact .inl (.followed unfollowed)
  | false =>
      set text := rest.dropWhile SchemeKind.special.isSlash with textEq
      have named : SchemeKind.special.serverText? rest = some text := rfl
      by_cases goesOn : SchemeKind.special.behindServer text = []
      · refine .inr ⟨text, unfollowed, named, ?_, ?_⟩
        · intro nothing
          rw [IsReadable, placeOf_eq_self unfollowed, namesServer_iff named, nothing] at readable
          obtain ⟨read, succeeds⟩ := (isServer_iff (by decide)).mp readable
          obtain ⟨⟨host, ⟨⟩⟩, -⟩ := parts_of_readAuthority succeeds
        · simpa using List.dropWhile_eq_nil_iff.mp goesOn
      · exact .inl (.behind named goesOn)

/-- A text that ends in its server names a longer one if something is appended before a slash. -/
theorem EndsInServer.isReadable_append_iff (ends : EndsInServer kind rest server)
    {between : List Char} (unfollowed : isFollowed between = false)
    (free : ∀ character ∈ between, kind.isSlash character = false) (more : List Char) :
    IsReadable kind scheme (rest ++ (between ++ '/' :: more)) ↔
      IsServer kind scheme true (server ++ between) := by
  obtain ⟨place, -⟩ := append_of_isFollowed_eq_false ends.unfollowed (between ++ '/' :: more)
  obtain ⟨betweenPlace, -⟩ := append_of_isFollowed_eq_false unfollowed ('/' :: more)
  have slashOnly : isFollowed ['/'] = false := by decide
  have slash : placeOf ('/' :: more) = '/' :: placeOf more :=
    (append_of_isFollowed_eq_false slashOnly more).1
  have named := SchemeKind.serverText?_append ends.named (fun _ => ends.nonempty)
    (between ++ '/' :: placeOf more)
  have serverFree : ∀ character ∈ server ++ between, kind.isSlash character = false :=
    fun character member => (List.mem_append.mp member).elim (ends.free _) (free _)
  have parts := SchemeKind.append_of_free serverFree ('/' :: placeOf more)
  rw [List.append_assoc] at parts
  have ended : kind.server ('/' :: placeOf more) = [] := rfl
  have behind : kind.behindServer ('/' :: placeOf more) = '/' :: placeOf more := rfl
  rw [IsReadable, place, betweenPlace, slash, namesServer_iff named, parts.1, parts.2, ended,
    behind, List.append_nil, List.isEmpty_cons, Bool.not_false, Bool.or_true]

end Appending

end Url

end GroupSync
