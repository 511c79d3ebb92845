import GroupSync.Proofs.DecimalNumerals
import GroupSync.Proofs.Gathering
import GroupSync.Proofs.JsonRoundTrip
import GroupSync.TokenSource

/-!
# What a token has to do with its reply

The document that holds a token is decoded in the same way whatever the token is: the same fault is
found, or the same type and lifetime stand beside the token.  This is stated of a document with a
gap in the place of the token, once for all tokens that may fill it.
-/

namespace GroupSync

open Document Http

namespace Document.RecordShape

variable {shape : RecordShape} {key : String} {field : Field}

/-- What members add to gathered ones depends on the keys of these only. -/
theorem exists_gatherMembers_eq (shape : RecordShape) (members : List (Node × Node))
    (keys : List String) :
    ∃ outcome : Decoded Gathered, ∀ gathered : Gathered, gathered.map Prod.fst = keys →
      shape.gatherMembers members gathered = outcome.map (gathered ++ ·) := by
  induction members generalizing keys with
  | nil => exact ⟨.ok [], fun gathered _ => by simp [gatherMembers, Except.map]⟩
  | cons member members induction =>
      cases decided : shape.added keys member with
      | error refusal =>
          refine ⟨.error refusal, fun gathered same => ?_⟩
          rw [gatherMembers_cons, same, decided]
          rfl
      | ok more =>
          obtain ⟨outcome, uniform⟩ := induction (keys ++ more.map Prod.fst)
          refine ⟨outcome.map (more ++ ·), fun gathered same => ?_⟩
          have later := uniform (gathered ++ more) (by simp [same])
          rw [gatherMembers_cons, same, decided]
          cases outcome <;> simpa [Except.map, bind, Except.bind] using later

/-- A record is gathered in the same way around every value of one of its fields. -/
theorem exists_gather_object_eq (known : shape.field? key = some field)
    (before after : List (Node × Node)) (ending : Option Flaw) :
    ∃ outcome : Decoded (Gathered × Gathered),
      (∀ halves, outcome = .ok halves → key ∉ halves.1.map Prod.fst) ∧
      ∀ value, field.check value = .ok () →
        shape.gather (.object (before ++ (.string key, value) :: after) ending) =
          outcome.map fun halves => halves.1 ++ (key, value) :: halves.2 := by
  -- The members in front are decided first, then whether the key is among them.  For those behind,
  -- the field counts as one more key that is taken.
  cases earlier : shape.gatherMembers before [] with
  | error refusal =>
      refine ⟨.error refusal, by simp, fun value _ => ?_⟩
      rw [gather, gatherMembers_append, earlier]
      rfl
  | ok front =>
      by_cases twice : key ∈ front.map Prod.fst
      · refine ⟨.error (.duplicateField key), by simp, fun value _ => ?_⟩
        rw [gather, gatherMembers_append, earlier]
        simp only [bind, Except.bind, gatherMembers_cons, added, keyName, known, if_pos twice]
        rfl
      · obtain ⟨outcome, uniform⟩ :=
          exists_gatherMembers_eq shape after (front.map Prod.fst ++ [key])
        refine ⟨outcome.bind fun back => (Node.endingRefusal ending).map fun _ => (front, back),
          fun halves gathered => ?_, fun value sound => ?_⟩
        · cases outcome with
          | error refusal => cases gathered
          | ok back =>
              simp only [Except.bind] at gathered
              cases closed : Node.endingRefusal ending with
              | error refusal =>
                  rw [closed] at gathered
                  cases gathered
              | ok _ =>
                  rw [closed] at gathered
                  cases gathered
                  exact twice
        · have later := uniform (front ++ [(key, value)]) (by simp)
          rw [gather, gatherMembers_append, earlier]
          simp only [bind, Except.bind, gatherMembers_cons, added, keyName, known, if_neg twice,
            sound, pure, Except.pure, later]
          cases outcome with
          | error refusal => rfl
          | ok back => cases Node.endingRefusal ending <;> simp [Except.map]

end Document.RecordShape

namespace Document.Gathered

variable {α : Type} {front back : Gathered} {key name : String} {value : Node}

theorem required_append_cons_self (absent : key ∉ front.map Prod.fst)
    (ask : Node → Decoded α) : required (front ++ (key, value) :: back) key ask = ask value := by
  rw [required, find?_append, find?_eq_none_iff.mpr absent, Option.none_or, find?_cons_self]

theorem getD_append_cons_of_ne (different : key ≠ name) (ask : Node → Decoded α) (standard : α) :
    getD (front ++ (key, value) :: back) name ask standard =
      getD (front ++ back) name ask standard := by
  rw [getD, getD, find?_append, find?_append, find?_cons_of_ne different.symm]

end Document.Gathered

namespace Document.Json

/-- A blank text is no document. -/
theorem exists_read_eq_stopped {text : List Char} (blank : text.all Text.isBlank = true) :
    ∃ flaw, read text = stopped flaw := by
  rw [read, readValue]
  cases skipped : skipSpace text with
  | nil => exact ⟨_, rfl⟩
  | cons first rest =>
      have member : first ∈ text :=
        (List.dropWhile_sublist _).subset (skipped ▸ List.mem_cons_self : first ∈ skipSpace text)
      have blankFirst : Text.isBlank first = true := List.all_eq_true.mp blank first member
      -- No value begins with a blank, so every alternative but the last is ruled out.
      split
      case h_1 same => cases same
      case h_9 digit others _ _ _ _ _ _ _ same =>
        cases same
        rw [if_neg (by simp [Text.isDigit_eq_false_of_isBlank blankFirst])]
        exact ⟨_, rfl⟩
      all_goals
        rename_i same
        cases same
        exact absurd blankFirst (by decide)

end Document.Json

namespace Token

/-- The document of a token reply without the token: what stands around it. -/
inductive Gap where
  /-- The token stands under its key. -/
  | object (before after : List (Node × Node)) (ending : Option Flaw)
  /-- The token is the first item of a list that stands for the record. -/
  | list (after : List Node) (ending : Option Flaw)

/-- The document with a token. -/
def Gap.fill : Gap → String → Node
  | object before after ending, value =>
      .object (before ++ (.string "access_token", .string value) :: after) ending
  | list after ending, value => .list (.string value :: after) ending

theorem exists_gather_fill_eq (gap : Gap) :
    ∃ outcome : Decoded (Gathered × Gathered),
      (∀ halves, outcome = .ok halves → "access_token" ∉ halves.1.map Prod.fst) ∧
      ∀ value, shape.gather (gap.fill value) =
        outcome.map fun halves => halves.1 ++ ("access_token", .string value) :: halves.2 := by
  cases gap with
  | object before after ending =>
      have known : shape.field? "access_token" =
          some (.mandatory "access_token" Node.asString) := rfl
      obtain ⟨outcome, absent, uniform⟩ :=
        RecordShape.exists_gather_object_eq known before after ending
      exact ⟨outcome, absent, fun value => uniform (.string value) rfl⟩
  | list after ending =>
      refine ⟨(shape.gatherItems (shape.fields.drop 1) 1 after ending).map fun back => ([], back),
        fun halves gathered => ?_, fun value => ?_⟩
      · cases listed : shape.gatherItems (shape.fields.drop 1) 1 after ending with
        | error refusal =>
            rw [listed] at gathered
            cases gathered
        | ok back =>
            rw [listed] at gathered
            cases gathered
            simp
      · have first : shape.gather (Gap.fill (.list after ending) value) =
            (shape.gatherItems (shape.fields.drop 1) 1 after ending).map
              (("access_token", .string value) :: ·) := rfl
        rw [first]
        cases shape.gatherItems (shape.fields.drop 1) 1 after ending <;> rfl

/-- Every token is found in a document with the same type and lifetime, or with the same fault. -/
theorem exists_ofNode_fill_eq (gap : Gap) :
    ∃ outcome : Decoded (String × Int), ∀ value, ofNode (gap.fill value) =
      outcome.map fun beside => ⟨value, beside.1, beside.2⟩ := by
  obtain ⟨gathering, absent, uniform⟩ := exists_gather_fill_eq gap
  cases gathering with
  | error refusal =>
      refine ⟨.error refusal, fun value => ?_⟩
      rw [ofNode, uniform]
      rfl
  | ok halves =>
      obtain ⟨front, back⟩ := halves
      have missing := absent _ rfl
      refine ⟨do
        let tokenType ← (front ++ back).getD "token_type" Node.asString ""
        let lifetimeSeconds ← (front ++ back).getD "expires_in" Node.asInt64 0
        return (tokenType, lifetimeSeconds), fun value => ?_⟩
      have typeKey : "access_token" ≠ "token_type" := by decide
      have lifetimeKey : "access_token" ≠ "expires_in" := by decide
      have gathered : shape.gather (gap.fill value) =
          .ok (front ++ ("access_token", .string value) :: back) := uniform value
      simp only [ofNode, gathered, bind, Except.bind, Gathered.required_append_cons_self missing,
        Gathered.getD_append_cons_of_ne typeKey, Gathered.getD_append_cons_of_ne lifetimeKey,
        Node.asString]
      cases (front ++ back).getD "token_type" Node.asString "" with
      | error refusal => rfl
      | ok tokenType => cases (front ++ back).getD "expires_in" Node.asInt64 0 <;> rfl

variable {gap : Gap} {rest : Option (List Char)} {value text : String}

theorem isBlankText_eq_false_of_read (held : Json.read text.toList = (gap.fill value, rest)) :
    Text.isBlankText text = false := by
  rw [Bool.eq_false_iff]
  intro blank
  obtain ⟨flaw, stopped⟩ := Json.exists_read_eq_stopped blank
  rw [held] at stopped
  cases gap <;> cases stopped

/-- Every text that holds a token in a given gap is read with the same type and lifetime, or with
the same fault. -/
theorem exists_read_eq (gap : Gap) (rest : Option (List Char)) :
    ∃ outcome : Decoded (String × Int), ∀ text value,
      Json.read text.toList = (gap.fill value, rest) →
        read text = outcome.map fun beside => ⟨value, beside.1, beside.2⟩ := by
  obtain ⟨outcome, uniform⟩ := exists_ofNode_fill_eq gap
  refine ⟨outcome.bind fun beside => rest.elim (.ok beside) fun rest =>
      if (Json.skipSpace rest).isEmpty then .ok beside
      else .error (.fault .trailingCharacters), fun text value held => ?_⟩
  simp only [read, Json.decode, held, bind, Except.bind, uniform]
  cases outcome with
  | error refusal => rfl
  | ok beside =>
      cases rest with
      | none => rfl
      | some rest =>
          simp only [Except.map, Option.elim]
          split <;> rfl

end Token

namespace TokenSource

/-- A successful reply hands out the token in its gap with the same type and lifetime whatever the
token is, or it is refused in the same way. -/
theorem exists_judge_eq {status : Nat} (success : Http.Status.isSuccess status = true)
    (gap : Token.Gap) (rest : Option (List Char)) :
    ∃ outcome : Except Failure (String × Int), ∀ text value,
      Json.read text.toList = (gap.fill value, rest) →
        judge status text = outcome.map fun beside => ⟨value, beside.1, beside.2⟩ := by
  obtain ⟨outcome, uniform⟩ := Token.exists_read_eq gap rest
  refine ⟨outcome.mapError fun refusal => .auth ("malformed token response: " ++ refusal.message),
    fun text value held => ?_⟩
  simp only [judge, success, Token.isBlankText_eq_false_of_read held, uniform text value held]
  cases outcome <;> rfl

end TokenSource

/-- Two replies are the same, apart from the token that their documents hold. -/
structure Http.Reply.DifferInToken [BodyDecoding] (value otherValue : String)
    (reply other : Reply) : Prop where
  status : reply.status = other.status
  complete : reply.complete = other.complete
  documents : ∃ (gap : Token.Gap) (rest : Option (List Char)),
    (∀ text, reply.text = .ok text → Json.read text.toList = (gap.fill value, rest)) ∧
      ∀ text, other.text = .ok text → Json.read text.toList = (gap.fill otherValue, rest)

/-- Replies that are written with the same members around their tokens differ in these only. -/
theorem Http.Reply.differInToken_of_render [BodyDecoding] {value otherValue : String}
    {reply other : Reply}
    (status : reply.status = other.status) (complete : reply.complete = other.complete)
    {before after : List (String × Node)} (plain : ∀ member ∈ before ++ after, member.2.IsPlain)
    (written : reply.text =
      .ok (Json.render (.ofMembers (before ++ ("access_token", .string value) :: after))))
    (otherWritten : other.text =
      .ok (Json.render (.ofMembers (before ++ ("access_token", .string otherValue) :: after)))) :
    reply.DifferInToken value otherValue other where
  status := status
  complete := complete
  documents := by
    have reads : ∀ value : String,
        Json.read (Json.render (.ofMembers (before ++ ("access_token", .string value) ::
          after))).toList =
            (Token.Gap.fill (.object (Json.keyed before) (Json.keyed after) none) value,
              some []) := by
      intro value
      have plainMembers : ∀ member ∈ before ++ ("access_token", .string value) :: after,
          member.2.IsPlain := by
        intro member listed
        rcases List.mem_append.mp listed with early | late
        · exact plain member (List.mem_append_left _ early)
        · rcases List.mem_cons.mp late with rfl | late
          · exact .string value
          · exact plain member (List.mem_append_right _ late)
      rw [Json.render, String.toList_ofList, Json.read_chars (.object _ plainMembers)]
      simp [Node.ofMembers, Token.Gap.fill, Json.keyed]
    refine ⟨.object (Json.keyed before) (Json.keyed after) none, some [],
      fun text readable => ?_, fun text readable => ?_⟩
    · obtain rfl := Except.ok.inj (written.symm.trans readable)
      exact reads value
    · obtain rfl := Except.ok.inj (otherWritten.symm.trans readable)
      exact reads otherValue

namespace TokenSource

variable {value otherValue : String} {reply other : Reply}

/-- The failure of a reply with a failing status, which quotes the reply. -/
def refusal (status : Nat) (text : String) : Failure :=
  .auth ("IMS returned HTTP " ++ Status.render status ++ ", body: " ++ text)

/-- Two replies that differ in their token lead to the same failure, or to tokens that differ in
their value, unless they report a failure: then each of them is quoted. -/
theorem judgeReply_of_differInToken [BodyDecoding]
    (differ : reply.DifferInToken value otherValue other) :
    (∃ failure, judgeReply reply = .error failure ∧ judgeReply other = .error failure) ∨
      (Status.isSuccess reply.status = true ∧ ∃ tokenType lifetime,
        judgeReply reply = .ok ⟨value, tokenType, lifetime⟩ ∧
          judgeReply other = .ok ⟨otherValue, tokenType, lifetime⟩) ∨
      Status.isSuccess reply.status = false ∧ ∃ text otherText,
        reply.text = .ok text ∧ other.text = .ok otherText ∧
          judgeReply reply = .error (refusal reply.status text) ∧
          judgeReply other = .error (refusal reply.status otherText) := by
  obtain ⟨gap, rest, holds, otherHolds⟩ := differ.documents
  rw [judgeReply, judgeReply, ← differ.status]
  cases arrived : reply.complete with
  | false =>
      have otherArrived : other.complete = false := differ.complete ▸ arrived
      have broken : reply.text = .error "error decoding response body" := by
        simp [Reply.text, arrived]
      have otherBroken : other.text = .error "error decoding response body" := by
        simp [Reply.text, otherArrived]
      rw [broken, otherBroken]
      exact .inl ⟨_, rfl, rfl⟩
  | true =>
      have otherArrived : other.complete = true := differ.complete ▸ arrived
      obtain ⟨text, readable⟩ : ∃ text, reply.text = .ok text := by simp [Reply.text, arrived]
      obtain ⟨otherText, otherReadable⟩ : ∃ text, other.text = .ok text := by
        simp [Reply.text, otherArrived]
      have held := holds text readable
      have otherHeld := otherHolds otherText otherReadable
      rw [readable, otherReadable]
      cases success : Status.isSuccess reply.status with
      | false =>
          refine .inr (.inr ⟨rfl, text, otherText, rfl, rfl, ?_, ?_⟩)
          · simp [judge, success, refusal]
          · simp [judge, success, refusal]
      | true =>
          obtain ⟨outcome, uniform⟩ := exists_judge_eq success gap rest
          dsimp only
          rw [uniform text value held, uniform otherText otherValue otherHeld]
          cases outcome with
          | error failure => exact .inl ⟨failure, rfl, rfl⟩
          | ok beside => exact .inr (.inl ⟨rfl, beside.1, beside.2, rfl, rfl⟩)

end TokenSource

namespace Token

/-- Two replies that differ in their token are read alike, as far as diagnostics show. -/
theorem map_diagnostic_read [BodyDecoding] {value otherValue : String} {reply other : Reply}
    (differ : reply.DifferInToken value otherValue other) {text otherText : String}
    (readable : reply.text = .ok text) (otherReadable : other.text = .ok otherText) :
    (read text).map diagnostic = (read otherText).map diagnostic := by
  obtain ⟨gap, rest, holds, otherHolds⟩ := differ.documents
  obtain ⟨outcome, uniform⟩ := exists_read_eq gap rest
  rw [uniform text value (holds text readable),
    uniform otherText otherValue (otherHolds otherText otherReadable)]
  cases outcome <;> rfl

end Token

end GroupSync
