import GroupSync.Config.Loading
import GroupSync.Proofs.DecimalNumerals
import GroupSync.Proofs.JsonRoundTrip
import GroupSync.Proofs.WrittenRecords

/-!
# Settings from two sources

The same settings can be told by variables and by a document.  Both sources may leave out what has
its standard value.  Variables have a syntax of their own for lists, numbers and flags, with room
for blanks; the document is what is written of the settings, with the secret put in.  Either source
gives the settings that were told.
-/

namespace GroupSync

open Document Fallible
open Document.Node (IsText IsTexts IsFlag IsWord)

namespace Config

/-! ### Values of variables -/

/-- A text without commas and without blanks at its ends. -/
structure IsEntry (entry : String) : Prop where
  trimmed : Text.IsTrimmed entry.toList
  unbroken : ',' ∉ entry.toList

/-- Pieces of a list hold its entries in order, with blanks around them; other pieces are blank. -/
inductive HoldEntries : List (List Char) → List String → Prop
  | done : HoldEntries [] []
  | blank {piece : List Char} (blank : ∀ character ∈ piece, Text.isBlank character = true)
      {pieces : List (List Char)} {entries : List String} (rest : HoldEntries pieces entries) :
      HoldEntries (piece :: pieces) entries
  | entry (entry : String) {before after : List Char}
      (blankBefore : ∀ character ∈ before, Text.isBlank character = true)
      (blankAfter : ∀ character ∈ after, Text.isBlank character = true)
      {pieces : List (List Char)} {entries : List String} (rest : HoldEntries pieces entries) :
      HoldEntries ((before ++ entry.toList ++ after) :: pieces) (entry :: entries)

def SpellsList (entries : List String) (text : String) : Prop :=
  ∃ pieces, HoldEntries pieces entries ∧ text.toList = [','].intercalate pieces

def SpellsNumber (number : Nat) (text : String) : Prop :=
  ∃ before digits after, (∀ character ∈ before, Text.isBlank character = true) ∧
    (∀ character ∈ after, Text.isBlank character = true) ∧ Number.Denotes digits number ∧
    text.toList = before ++ digits ++ after

/-- The spellings of a flag, in small letters. -/
def flagSpellings : Bool → List String
  | true => ["1", "true", "yes", "on"]
  | false => ["0", "false", "no", "off"]

def SpellsFlag (value : Bool) (text : String) : Prop :=
  ∃ spelling ∈ flagSpellings value, Text.equalsIgnoringAsciiCase text spelling = true

variable {entries : List String} {text : String}

theorem HoldEntries.unbroken {pieces : List (List Char)} (hold : HoldEntries pieces entries)
    (each : ∀ entry ∈ entries, IsEntry entry) : ∀ piece ∈ pieces, ',' ∉ piece := by
  have noComma {piece : List Char} (blank : ∀ character ∈ piece, Text.isBlank character = true) :
      ',' ∉ piece :=
    fun listed => absurd (blank ',' listed) (by decide)
  induction hold with
  | done => exact nofun
  | blank blank _ induction => exact List.forall_mem_cons.mpr ⟨noComma blank, induction each⟩
  | entry entry blankBefore blankAfter _ induction =>
      rw [List.forall_mem_cons] at each
      refine List.forall_mem_cons.mpr ⟨?_, induction each.2⟩
      simp [noComma blankBefore, noComma blankAfter, each.1.unbroken]

theorem HoldEntries.entries_eq {pieces : List (List Char)} (hold : HoldEntries pieces entries)
    (each : ∀ entry ∈ entries, IsEntry entry) :
    ((pieces.map Text.trimChars).filter fun entry => !entry.isEmpty).map String.ofList =
      entries := by
  induction hold with
  | done => rfl
  | blank blank _ induction =>
      rw [List.map_cons, Text.trimChars_of_blank blank]
      exact induction each
  | entry entry blankBefore blankAfter _ induction =>
      rw [List.forall_mem_cons] at each
      rw [List.map_cons, each.1.trimmed.trimChars_append blankBefore blankAfter,
        List.filter_cons_of_pos (by simpa using each.1.trimmed.present), List.map_cons,
        String.ofList_toList, induction each.2]

/-- A list is read from its pieces, whatever blanks stand between and around its entries. -/
theorem SpellsList.listEntries_eq (spells : SpellsList entries text)
    (each : ∀ entry ∈ entries, IsEntry entry) : listEntries text = entries := by
  obtain ⟨pieces, hold, written⟩ := spells
  rw [listEntries, written]
  by_cases none : pieces = []
  · subst none
    cases hold
    rfl
  · rw [List.splitOn_intercalate ',' (hold.unbroken each) none]
    exact hold.entries_eq each

theorem SpellsNumber.readUInt64_eq {number : Nat} (spells : SpellsNumber number text)
    (fits : number < 2 ^ 64) : Number.readUInt64 (Text.trimChars text.toList) = .ok number := by
  obtain ⟨before, digits, after, blankBefore, blankAfter, denotes, written⟩ := spells
  rw [written, denotes.readUInt64_trimChars blankBefore blankAfter, if_pos fits]

theorem SpellsFlag.any_eq {value : Bool} (spells : SpellsFlag value text) :
    (trueSpellings.any fun spelling => Text.equalsIgnoringAsciiCase spelling text) = value := by
  obtain ⟨spelling, listed, same⟩ := spells
  have each : ∀ value, ∀ spelling ∈ flagSpellings value,
      (trueSpellings.any fun known => Text.equalsIgnoringAsciiCase known spelling) = value := by
    decide
  simp only [Text.equalsIgnoringAsciiCase, beq_iff_eq] at same each ⊢
  rw [same]
  exact each value spelling listed

/-! ### Variables -/

variable {config : Config} {environment : Environment} {name : String}

/-- The values that a configuration can hold and a list with commas can tell. -/
structure IsTellable (config : Config) : Prop where
  connectMilliseconds : config.connectMilliseconds < 2 ^ 64
  readMilliseconds : config.readMilliseconds < 2 ^ 64
  scopes : ∀ entry ∈ config.scopes, IsEntry entry
  productProfiles : ∀ entry ∈ config.productProfiles, IsEntry entry

/-- The variables tell the settings; those with standard values may be unset. -/
structure IsToldBy (config : Config) (environment : Environment) : Prop where
  actionBase : Stated Eq standardActionBase config.actionBase
    (environment.text? "UMSYNC_UMAPI_BASE_URL")
  organizationId : environment.text? "UMSYNC_ORGANIZATION_ID" = some config.organizationId
  testOnly : Stated SpellsFlag false config.testOnly (environment.text? "UMSYNC_TEST_ONLY")
  tokenEndpoint : Stated Eq standardTokenEndpoint config.tokenEndpoint
    (environment.text? "UMSYNC_TOKEN_ENDPOINT_URL")
  clientId : environment.text? "UMSYNC_CLIENT_ID" = some config.clientId
  clientSecret : environment.text? "UMSYNC_CLIENT_SECRET" = some config.clientSecret
  scopes : Stated SpellsList standardScopes config.scopes (environment.text? "UMSYNC_SCOPES")
  connectMilliseconds : Stated SpellsNumber standardConnectMilliseconds config.connectMilliseconds
    (environment.text? "UMSYNC_CONNECT_TIMEOUT_MS")
  readMilliseconds : Stated SpellsNumber standardReadMilliseconds config.readMilliseconds
    (environment.text? "UMSYNC_SOCKET_TIMEOUT_MS")
  productProfiles : Stated SpellsList [] config.productProfiles
    (environment.text? "UMSYNC_PRODUCT_PROFILES")

theorem getD_eq_of_stated {value standard : String}
    (stated : Stated Eq standard value (environment.text? name)) :
    (environment.text? name).getD standard = value := by
  generalize environment.text? name = told at stated ⊢
  cases stated with
  | written formed => exact formed.symm
  | leftOut => rfl

theorem requiredVariable_eq {value : String} (told : environment.text? name = some value) :
    requiredVariable environment name = .ok value := by
  rw [requiredVariable, told]

theorem booleanVariable_eq {value : Bool}
    (stated : Stated SpellsFlag false value (environment.text? name)) :
    booleanVariable environment name = value := by
  rw [booleanVariable]
  generalize environment.text? name = told at stated ⊢
  cases stated with
  | written spells => exact spells.any_eq
  | leftOut => rfl

theorem listVariable_eq {standard entries : List String}
    (stated : Stated SpellsList standard entries (environment.text? name))
    (each : ∀ entry ∈ entries, IsEntry entry) :
    listVariable environment name standard = entries := by
  rw [listVariable]
  generalize environment.text? name = told at stated ⊢
  cases stated with
  | written spells => exact spells.listEntries_eq each
  | leftOut => rfl

theorem numberVariable_eq {standard number : Nat}
    (stated : Stated SpellsNumber standard number (environment.text? name))
    (fits : number < 2 ^ 64) : numberVariable environment name standard = .ok number := by
  rw [numberVariable]
  generalize environment.text? name = told at stated ⊢
  cases stated with
  | written spells => simp only [spells.readUInt64_eq fits]
  | leftOut => rfl

theorem ofEnvironment_eq (tellable : config.IsTellable) (told : config.IsToldBy environment) :
    ofEnvironment environment = .ok config := by
  simp only [ofEnvironment, requiredVariable_eq told.organizationId,
    requiredVariable_eq told.clientId, requiredVariable_eq told.clientSecret,
    numberVariable_eq told.connectMilliseconds tellable.connectMilliseconds,
    numberVariable_eq told.readMilliseconds tellable.readMilliseconds, ok_bind,
    getD_eq_of_stated told.actionBase, getD_eq_of_stated told.tokenEndpoint,
    booleanVariable_eq told.testOnly, listVariable_eq told.scopes tellable.scopes,
    listVariable_eq told.productProfiles tellable.productProfiles]
  rfl

/-! ### Documents -/

/-- The members that may be left out of the document form. -/
def standardMembers : Gathered :=
  [("umapi_base_url", .string standardActionBase),
    ("test_only", .boolean false),
    ("ims_token_endpoint_url", .string standardTokenEndpoint),
    ("scopes", .ofStrings standardScopes),
    ("connect_timeout_ms", .integer standardConnectMilliseconds),
    ("socket_timeout_ms", .integer standardReadMilliseconds),
    ("product_profiles", .ofStrings [])]

/-- A tree is the document form of the settings with the secret put in; members with standard values
may be left out. -/
def IsDocumentedBy (config : Config) (node : Node) : Prop :=
  ∃ members kept : Gathered, config.toNode = .ofMembers members ∧ kept.Sublist members ∧
    (∀ member ∈ members, member ∈ kept ∨ member ∈ standardMembers) ∧
    node.HasMembers (("client_secret", .string config.clientSecret) :: kept)

def keys : List String :=
  ["umapi_base_url", "organization_id", "test_only", "ims_token_endpoint_url", "client_id",
    "client_secret", "scopes", "connect_timeout_ms", "socket_timeout_ms", "product_profiles"]

/-- The members of the document form. -/
def members (config : Config) : Gathered :=
  [("umapi_base_url", .string config.actionBase),
    ("organization_id", .string config.organizationId),
    ("test_only", .boolean config.testOnly),
    ("ims_token_endpoint_url", .string config.tokenEndpoint),
    ("client_id", .string config.clientId),
    ("scopes", .ofStrings config.scopes),
    ("connect_timeout_ms", .integer config.connectMilliseconds),
    ("socket_timeout_ms", .integer config.readMilliseconds),
    ("product_profiles", .ofStrings config.productProfiles)]

theorem toNode_eq_ofMembers (config : Config) : config.toNode = .ofMembers config.members :=
  rfl

theorem nodup_keys_members : (config.members.map Prod.fst).Nodup := by
  have distinct : (keys.erase "client_secret").Nodup := by decide
  exact distinct

/-- The members of an object say the settings. -/
structure IsStatedIn (config : Config) (held : String → Option Node) : Prop where
  actionBase : Stated IsText standardActionBase config.actionBase (held "umapi_base_url")
  organizationId : held "organization_id" = some (.string config.organizationId)
  testOnly : Stated IsFlag false config.testOnly (held "test_only")
  tokenEndpoint : Stated IsText standardTokenEndpoint config.tokenEndpoint
    (held "ims_token_endpoint_url")
  clientId : held "client_id" = some (.string config.clientId)
  clientSecret : held "client_secret" = some (.string config.clientSecret)
  scopes : Stated IsTexts standardScopes config.scopes (held "scopes")
  connectMilliseconds : Stated IsWord standardConnectMilliseconds config.connectMilliseconds
    (held "connect_timeout_ms")
  readMilliseconds : Stated IsWord standardReadMilliseconds config.readMilliseconds
    (held "socket_timeout_ms")
  productProfiles : Stated IsTexts [] config.productProfiles (held "product_profiles")

section Keeping

variable {kept : Gathered} {held : String → Option Node} (sublist : kept.Sublist config.members)
  (lost : ∀ member ∈ config.members, member ∈ kept ∨ member ∈ standardMembers)
  (beside : ∀ key, key ≠ "client_secret" → held key = kept.find? key)

include sublist

theorem find?_kept_eq_some_iff {key : String} {node : Node} :
    kept.find? key = some node ↔ (key, node) ∈ kept :=
  Gathered.find?_eq_some_iff ((sublist.map Prod.fst).nodup nodup_keys_members)

include lost beside

/-- A member that has no standard value is kept. -/
theorem held_eq_some {key : String} {node : Node} (different : key ≠ "client_secret")
    (listed : (key, node) ∈ config.members) (needed : (key, node) ∉ standardMembers) :
    held key = some node := by
  rw [beside key different, find?_kept_eq_some_iff sublist]
  exact (lost _ listed).resolve_right needed

/-- A member that is not kept has its standard value. -/
theorem stated_of_kept {α : Type} {form : α → Node → Prop} {value standard : α} {key : String}
    {node : Node} (different : key ≠ "client_secret") (listed : (key, node) ∈ config.members)
    (formed : form value node) (stands : (key, node) ∈ standardMembers → value = standard) :
    Stated form standard value (held key) := by
  rw [beside key different]
  by_cases held : (key, node) ∈ kept
  · rw [(find?_kept_eq_some_iff sublist).mpr held]
    exact .written formed
  · have absent : kept.find? key = none := by
      refine Option.eq_none_iff_forall_ne_some.mpr fun other found => held ?_
      have given := (find?_kept_eq_some_iff sublist).mp found
      rwa [List.inj_on_of_nodup_map nodup_keys_members listed (sublist.subset given) rfl]
    rw [absent, stands ((lost _ listed).resolve_left held)]
    exact .leftOut

theorem isStatedIn_of_kept (tellable : config.IsTellable)
    (secret : held "client_secret" = some (.string config.clientSecret)) :
    config.IsStatedIn held where
  actionBase := stated_of_kept sublist lost beside (by decide) (by simp [members]) rfl
    (by simp [standardMembers])
  organizationId := held_eq_some sublist lost beside (by decide) (by simp [members])
    (by simp [standardMembers])
  testOnly := stated_of_kept sublist lost beside (by decide) (by simp [members]) rfl
    (by simp [standardMembers])
  tokenEndpoint := stated_of_kept sublist lost beside (by decide) (by simp [members]) rfl
    (by simp [standardMembers])
  clientId := held_eq_some sublist lost beside (by decide) (by simp [members])
    (by simp [standardMembers])
  clientSecret := secret
  scopes := stated_of_kept sublist lost beside (by decide) (by simp [members]) rfl
    (by simp [standardMembers])
  connectMilliseconds := stated_of_kept sublist lost beside (by decide) (by simp [members])
    ⟨tellable.connectMilliseconds, rfl⟩ (by simp [standardMembers])
  readMilliseconds := stated_of_kept sublist lost beside (by decide) (by simp [members])
    ⟨tellable.readMilliseconds, rfl⟩ (by simp [standardMembers])
  productProfiles := stated_of_kept sublist lost beside (by decide) (by simp [members]) rfl
    (by simp [standardMembers])

end Keeping

theorem exists_isStatedIn {node : Node} (tellable : config.IsTellable)
    (documented : config.IsDocumentedBy node) :
    ∃ held, node.HoldsUnder keys held ∧ config.IsStatedIn held := by
  obtain ⟨members, kept, written, sublist, lost, has⟩ := documented
  obtain rfl := Node.ofMembers_inj.mp (config.toNode_eq_ofMembers.symm.trans written)
  have within : (kept.map Prod.fst).Sublist (keys.erase "client_secret") := sublist.map Prod.fst
  have fresh : "client_secret" ∉ kept.map Prod.fst :=
    fun listed => absurd (within.subset listed) (by decide)
  have apart : ((("client_secret", Node.string config.clientSecret) :: kept).map Prod.fst).Nodup :=
    List.nodup_cons.mpr ⟨fresh, within.nodup (by decide)⟩
  have known : (("client_secret", Node.string config.clientSecret) :: kept).map Prod.fst ⊆ keys :=
    List.cons_subset.mpr ⟨(by decide : "client_secret" ∈ keys),
      fun _ listed => List.erase_subset (within.subset listed)⟩
  refine ⟨_, holdsUnder_of_hasMembers (by decide) apart known has, ?_⟩
  exact isStatedIn_of_kept sublist lost
    (fun key different => Gathered.find?_cons_of_ne different _ _) tellable
    (Gathered.find?_cons_self _ _ _)

/-! ### Reading documents -/

theorem ofNode_of_isStatedIn {node : Node} {held : String → Option Node}
    (holds : node.HoldsUnder keys held) (stated : config.IsStatedIn held) :
    ofNode node = .ok config := by
  have permits : ∀ key ∈ keys, shape.Permits held key := by
    simp only [keys, List.forall_mem_cons]
    exact ⟨stated.actionBase.permits IsText.asString_eq rfl,
      permits_of_eq_some stated.organizationId (IsText.asString_eq rfl) rfl,
      stated.testOnly.permits IsFlag.asBoolean_eq rfl,
      stated.tokenEndpoint.permits IsText.asString_eq rfl,
      permits_of_eq_some stated.clientId (IsText.asString_eq rfl) rfl,
      permits_of_eq_some stated.clientSecret (IsText.asString_eq rfl) rfl,
      stated.scopes.permits IsTexts.asListOf_eq rfl,
      stated.connectMilliseconds.permits IsWord.asUInt64_eq rfl,
      stated.readMilliseconds.permits IsWord.asUInt64_eq rfl,
      stated.productProfiles.permits IsTexts.asListOf_eq rfl, nofun⟩
  obtain ⟨gathered, made, found⟩ := exists_gather_of_holdsUnder (by decide) permits holds
  simp only [ofNode, made, ok_bind, Gathered.required, found, stated.organizationId,
    stated.clientId, stated.clientSecret, Node.asString,
    stated.actionBase.getD_eq IsText.asString_eq (found _),
    stated.testOnly.getD_eq IsFlag.asBoolean_eq (found _),
    stated.tokenEndpoint.getD_eq IsText.asString_eq (found _),
    stated.scopes.getD_eq IsTexts.asListOf_eq (found _),
    stated.connectMilliseconds.getD_eq IsWord.asUInt64_eq (found _),
    stated.readMilliseconds.getD_eq IsWord.asUInt64_eq (found _),
    stated.productProfiles.getD_eq IsTexts.asListOf_eq (found _)]
  rfl

theorem isPlain_of_isDocumentedBy {node : Node} (tellable : config.IsTellable)
    (documented : config.IsDocumentedBy node) : node.IsPlain := by
  obtain ⟨members, kept, written, sublist, -, listed, permuted, rfl⟩ := documented
  obtain rfl := Node.ofMembers_inj.mp (config.toNode_eq_ofMembers.symm.trans written)
  have fitsWord {number : Nat} (fits : number < 2 ^ 64) : fitsWord number = true := by
    simp only [Document.fitsWord, Bool.and_eq_true, decide_eq_true_eq]
    omega
  have each : ∀ member ∈ config.members, member.2.IsPlain := by
    simp only [Config.members, List.forall_mem_cons]
    exact ⟨.string _, .string _, .boolean _, .string _, .string _, Node.isPlain_ofStrings _,
      .integer _ (fitsWord tellable.connectMilliseconds),
      .integer _ (fitsWord tellable.readMilliseconds), Node.isPlain_ofStrings _,
      List.forall_mem_nil _⟩
  refine .object listed fun member given => ?_
  rcases List.mem_cons.mp (permuted.mem_iff.mp given) with rfl | kept
  · exact .string _
  · exact each member (sublist.subset kept)

theorem ofText_json {text path : String} {node : Node} (spells : Json.Spells text node)
    (extension : Files.extension? path = some "json") (read : ofNode node = .ok config) :
    ofText text path = .ok config := by
  have formats : ofText text path = ofJson text := by
    rw [ofText, extension]
    rfl
  rw [formats, ofJson, Json.decode_of_spells ofNode spells, read]

/-- Settings that both sources can tell are those that are loaded from variables that tell them, and
those that are loaded from any text of their document form. -/
theorem loaders_agree (config : Config) (tellable : config.IsTellable) :
    (∀ environment, config.IsToldBy environment → ofEnvironment environment = .ok config) ∧
    (∀ node path, config.IsDocumentedBy node → Files.extension? path = some "json" →
      ofText (Json.render node) path = .ok config ∧
        ∀ text, Json.Spells text node → ofText text path = .ok config) := by
  refine ⟨fun environment => ofEnvironment_eq tellable, fun node path documented extension => ?_⟩
  obtain ⟨held, holds, stated⟩ := exists_isStatedIn tellable documented
  have read := ofNode_of_isStatedIn holds stated
  have plain := isPlain_of_isDocumentedBy tellable documented
  exact ⟨ofText_json (Json.spells_render plain) extension read,
    fun text spells => ofText_json spells extension read⟩

/-- Settings with a flag in mixed case, a padded number and a list with blank pieces. -/
theorem loaders_agree_padded :
    let config : Config := { new "o" "c" "s" with
      testOnly := true, readMilliseconds := 1500, productProfiles := ["a", "B c"] }
    let settings := [("UMSYNC_ORGANIZATION_ID", "o"), ("UMSYNC_CLIENT_ID", "c"),
      ("UMSYNC_CLIENT_SECRET", "s"), ("UMSYNC_TEST_ONLY", "yEs"),
      ("UMSYNC_SOCKET_TIMEOUT_MS", " 01500\n"), ("UMSYNC_PRODUCT_PROFILES", " , a,B c\t")]
    let environment : Environment :=
      ⟨settings.map fun setting => (setting.1, Text.utf8Bytes setting.2.toList)⟩
    let kept : Gathered := [("organization_id", .string "o"), ("test_only", .boolean true),
      ("client_id", .string "c"), ("scopes", .ofStrings standardScopes),
      ("socket_timeout_ms", .integer 1500), ("product_profiles", .ofStrings ["a", "B c"])]
    let node := Node.ofMembers (kept ++ [("client_secret", .string "s")])
    let path := "conf/umsync.json"
    config.IsTellable ∧ config.IsToldBy environment ∧ ofEnvironment environment = .ok config ∧
      config.IsDocumentedBy node ∧ Files.extension? path = some "json" ∧
      ofText (Json.render node) path = .ok config := by
  intro config settings environment kept node path
  have tellable : config.IsTellable := by
    refine ⟨by decide, by decide, ?_, ?_⟩
    · simp only [config, new, standardScopes, List.forall_mem_cons]
      exact ⟨⟨⟨by decide, by decide, by decide⟩, by decide⟩,
        ⟨⟨by decide, by decide, by decide⟩, by decide⟩,
        ⟨⟨by decide, by decide, by decide⟩, by decide⟩, nofun⟩
    · simp only [config, List.forall_mem_cons]
      exact ⟨⟨⟨by decide, by decide, by decide⟩, by decide⟩,
        ⟨⟨by decide, by decide, by decide⟩, by decide⟩, nofun⟩
  have told : config.IsToldBy environment := by
    have unset {name : String} (foreign : environment.text? name = none) {α : Type}
        {form : α → String → Prop} {standard : α} :
        Stated form standard standard (environment.text? name) := foreign ▸ .leftOut
    have set {name text : String} (given : environment.text? name = some text) {α : Type}
        {form : α → String → Prop} {standard value : α} (formed : form value text) :
        Stated form standard value (environment.text? name) := given ▸ .written formed
    have blank {text : List Char} (all : text.all Text.isBlank = true) :
        ∀ character ∈ text, Text.isBlank character = true := List.all_eq_true.mp all
    have flag : environment.text? "UMSYNC_TEST_ONLY" = some "yEs" := by decide +kernel
    have number : environment.text? "UMSYNC_SOCKET_TIMEOUT_MS" = some " 01500\n" := by
      decide +kernel
    have list : environment.text? "UMSYNC_PRODUCT_PROFILES" = some " , a,B c\t" := by
      decide +kernel
    refine ⟨unset (by decide +kernel), by decide +kernel, set flag ⟨"yes", by decide, by decide⟩,
      unset (by decide +kernel), by decide +kernel, by decide +kernel, unset (by decide +kernel),
      unset (by decide +kernel), set number ?_, set list ?_⟩
    · exact ⟨[' '], "01500".toList, ['\n'], blank (by decide), blank (by decide),
        ⟨by decide, List.all_eq_true.mp (by decide), by decide⟩, by decide⟩
    · have last : HoldEntries ["B c\t".toList] ["B c"] :=
        .entry "B c" (blank (by decide : [].all _ = true)) (blank (by decide : ['\t'].all _ = true))
          .done
      have both : HoldEntries [" a".toList, "B c\t".toList] ["a", "B c"] :=
        .entry "a" (blank (by decide : [' '].all _ = true)) (blank (by decide : [].all _ = true))
          last
      exact ⟨[' '] :: _, .blank (blank (by decide)) both, by decide⟩
  have documented : config.IsDocumentedBy node := by
    refine ⟨config.members, kept, rfl, ?_, ?_, _, List.perm_append_singleton _ _, rfl⟩
    · exact .cons _ (.cons_cons _ (.cons_cons _ (.cons _ (.cons_cons _ (.cons_cons _
        (.cons _ (.cons_cons _ (.cons_cons _ .slnil))))))))
    · simp only [members, List.forall_mem_cons]
      exact ⟨.inr (by simp [standardMembers, config, new]), .inl (by simp [kept, config, new]),
        .inl (by simp [kept, config]), .inr (by simp [standardMembers, config, new]),
        .inl (by simp [kept, config, new]), .inl (by simp [kept, config, new]),
        .inr (by simp [standardMembers, config, new]), .inl (by simp [kept, config]),
        .inl (by simp [kept, config]), nofun⟩
  exact ⟨tellable, told, (loaders_agree config tellable).1 environment told, documented,
    by decide +kernel,
    ((loaders_agree config tellable).2 node path documented (by decide +kernel)).1⟩

end Config

end GroupSync
