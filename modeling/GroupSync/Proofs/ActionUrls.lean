import GroupSync.Proofs.PreparedRuns
import GroupSync.Proofs.ServerTexts
import GroupSync.Proofs.TestOnly

/-!
# Action URLs of valid configurations

A configuration is valid only if its endpoint is a URL by itself, and the action URL is read from a
longer text.  What reading drops at the end of the endpoint stands in the middle of that text.
-/

namespace GroupSync

open Fallible

namespace Url

variable {text more : List Char}

/-- The blanks and controls at the end of a text that are kept if something visible follows. -/
def trailing (text : List Char) : List Char :=
  unbroken (text.rtakeWhile isControl)

/-- What reading keeps of a text behind another one. -/
def kept (more : List Char) : List Char :=
  unbroken (more.rdropWhile isControl)

theorem mem_trailing {character : Char} (member : character ∈ trailing text) :
    character.toNat ≤ 0x20 := by
  have control : isControl character = true :=
    List.mem_rtakeWhile_imp (List.mem_filter.mp member).1
  exact of_decide_eq_true control

theorem tidy_eq (text : List Char) :
    tidy text = unbroken ((text.dropWhile isControl).rdropWhile isControl) :=
  rfl

theorem unbroken_append (first second : List Char) :
    unbroken (first ++ second) = unbroken first ++ unbroken second :=
  List.filter_append ..

theorem rdropWhile_append (belongs : Char → Bool) (first second : List Char) :
    (first ++ second).rdropWhile belongs =
      if second.rdropWhile belongs = [] then first.rdropWhile belongs
      else first ++ second.rdropWhile belongs := by
  simp only [List.rdropWhile, List.reverse_append, List.dropWhile_append, List.isEmpty_iff,
    List.reverse_eq_nil_iff]
  split
  · rfl
  · simp

theorem rdropWhile_dropWhile_ne_nil (visible : text.dropWhile isControl ≠ []) :
    (text.dropWhile isControl).rdropWhile isControl ≠ [] := by
  intro none
  have shown := List.head_dropWhile_not isControl visible
  rw [List.rdropWhile_eq_nil_iff.mp none _ (List.head_mem visible)] at shown
  cases shown

theorem rtakeWhile_dropWhile (visible : text.dropWhile isControl ≠ []) :
    (text.dropWhile isControl).rtakeWhile isControl = text.rtakeWhile isControl := by
  have whole := List.rdropWhile_append_rtakeWhile (p := isControl) (l := text)
  nth_rewrite 1 [← List.takeWhile_append_dropWhile (p := isControl) (l := text)] at whole
  rw [rdropWhile_append, if_neg (rdropWhile_dropWhile_ne_nil visible), List.append_assoc] at whole
  have parts : text.takeWhile isControl ++ ((text.dropWhile isControl).rdropWhile isControl ++
      (text.dropWhile isControl).rtakeWhile isControl) = text := by
    rw [List.rdropWhile_append_rtakeWhile, List.takeWhile_append_dropWhile]
  exact List.append_cancel_left (List.append_cancel_left (parts.trans whole.symm))

theorem kept_cons_slash (more : List Char) : kept ('/' :: more) = '/' :: kept more := by
  have shown : ['/'].rdropWhile isControl = ['/'] := by decide
  have dropped : ('/' :: more).rdropWhile isControl = '/' :: more.rdropWhile isControl := by
    have apart := rdropWhile_append isControl ['/'] more
    rw [shown] at apart
    refine apart.trans ?_
    split
    · rename_i nothing
      rw [nothing]
    · rfl
  rw [kept, dropped]
  rfl

/-- The blanks and controls between two texts are kept, for neither end of the whole lies there. -/
theorem tidy_append (visible : text.dropWhile isControl ≠ [])
    (divided : more.rdropWhile isControl ≠ [] ∨ text.rtakeWhile isControl = []) :
    tidy (text ++ more) = tidy text ++ (trailing text ++ kept more) := by
  have whole := List.rdropWhile_append_rtakeWhile (p := isControl) (l := text.dropWhile isControl)
  rw [rtakeWhile_dropWhile visible] at whole
  rw [tidy_eq, List.dropWhile_append, if_neg (by simpa using visible), rdropWhile_append, tidy_eq,
    trailing, kept, ← unbroken_append, ← unbroken_append, ← List.append_assoc, whole]
  split
  · rename_i nothing
    -- Only blanks and controls are appended, and they are dropped at the end of the whole.
    rw [divided.resolve_left (not_not.mpr nothing), List.append_nil] at whole
    rw [nothing, List.append_nil, whole]
  · rfl

/-- The scheme of a text is still found if something is appended. -/
theorem splitScheme?_append {scheme rest : List Char}
    (found : splitScheme? text = some (scheme, rest)) (more : List Char) :
    splitScheme? (text ++ more) = some (scheme, rest ++ more) := by
  have colon := dropWhile_of_splitScheme? found
  have stops : text.dropWhile isSchemeChar ≠ [] := by
    rw [colon]
    exact List.cons_ne_nil _ _
  obtain ⟨sameName, longer⟩ := span_append_of_ne_nil stops more
  rw [splitScheme?, colon] at found
  rw [splitScheme?, sameName, longer, colon]
  cases name : text.takeWhile isSchemeChar with
  | nil =>
      rw [name] at found
      cases found
  | cons first name =>
      rw [name] at found
      change (if _ then _ else _) = _ at found
      split at found
      · rename_i letter
        cases found
        exact if_pos letter
      · cases found

end Url

namespace Config

variable {config : Config}

/-- What stands behind the endpoint in the text of the action URL. -/
def actionTail (config : Config) : List Char :=
  (if config.actionBase.toList.getLast? = some '/' then [] else ['/']) ++
    config.organizationId.toList ++
    (if config.testOnly then '?' :: testOnlyQuery.toList else [])

theorem actionUrlText_eq (config : Config) :
    config.actionUrlText = config.actionBase.toList ++ config.actionTail := by
  simp [actionUrlText, actionTail]

theorem exists_read_of_check (accepted : config.check = .ok ()) :
    ∃ url, Url.read config.actionBase = .ok url := by
  obtain ⟨_, -, accepted⟩ := bind_eq_ok_iff.mp accepted
  obtain ⟨_, -, accepted⟩ := bind_eq_ok_iff.mp accepted
  obtain ⟨_, -, accepted⟩ := bind_eq_ok_iff.mp accepted
  split at accepted
  · cases accepted
  · obtain ⟨_, valid, -⟩ := bind_eq_ok_iff.mp accepted
    rw [requireUrl] at valid
    cases read : Url.read config.actionBase with
    | ok url => exact ⟨url, rfl⟩
    | error fault =>
        rw [read] at valid
        cases valid

/-- What reading keeps behind the endpoint begins with a slash, or the endpoint ends in one. -/
theorem actionTail_divides (config : Config) :
    (∃ later, Url.kept config.actionTail = '/' :: later) ∨
      ∃ front, config.actionBase.toList = front ++ ['/'] := by
  by_cases slash : config.actionBase.toList.getLast? = some '/'
  · exact .inr (List.getLast?_eq_some_iff.mp slash)
  · rw [actionTail, if_neg slash, List.append_assoc, List.singleton_append, Url.kept_cons_slash]
    exact .inl ⟨_, rfl⟩

/-- What reading keeps of the text of the action URL behind the endpoint. -/
def actionEnd (config : Config) : List Char :=
  Url.trailing config.actionBase.toList ++ Url.kept config.actionTail

theorem tidy_actionUrlText (visible : config.actionBase.toList.dropWhile Url.isControl ≠ []) :
    Url.tidy config.actionUrlText = Url.tidy config.actionBase.toList ++ config.actionEnd := by
  rw [actionUrlText_eq]
  refine Url.tidy_append visible ?_
  rcases config.actionTail_divides with ⟨later, divided⟩ | ⟨front, ended⟩
  · refine .inl fun nothing => ?_
    rw [Url.kept, nothing] at divided
    cases divided
  · refine .inr ?_
    rw [ended]
    exact List.rtakeWhile_concat_neg _ _ _ (by decide)

/-- The action URL of a valid configuration is read from the text of the endpoint and what is kept
behind it. -/
theorem exists_actionUrl_iff (accepted : config.check = .ok ()) :
    ∃ scheme rest, Url.splitScheme? (Url.tidy config.actionBase.toList) = some (scheme, rest) ∧
      Url.IsReadable (.of scheme) scheme rest ∧
      ((∃ url, config.actionUrl = .ok url) ↔
        Url.IsReadable (.of scheme) scheme (rest ++ config.actionEnd)) := by
  obtain ⟨url, read⟩ := exists_read_of_check accepted
  obtain ⟨scheme, rest, found, -⟩ := Url.query_of_readTidy read
  have visible : config.actionBase.toList.dropWhile Url.isControl ≠ [] := by
    intro nothing
    rw [Url.tidy_eq, nothing] at found
    cases found
  refine ⟨scheme, rest, found, (Url.exists_readTidy_iff found).mp ⟨url, read⟩, ?_⟩
  have longer := Url.splitScheme?_append found config.actionEnd
  rw [← tidy_actionUrlText visible] at longer
  rw [← Url.exists_readTidy_iff longer, actionUrl, Url.read, String.toList_ofList]
  cases Url.readTidy (Url.tidy config.actionUrlText) <;> simp

/-- An endpoint that ends in its server does not end in a slash, so one is put behind it. -/
theorem exists_kept_of_endsInServer {kind : Url.SchemeKind} {scheme rest server : List Char}
    (found : Url.splitScheme? (Url.tidy config.actionBase.toList) = some (scheme, rest))
    (ends : Url.EndsInServer kind rest server) :
    ∃ later, Url.kept config.actionTail = '/' :: later := by
  refine config.actionTail_divides.resolve_right ?_
  rintro ⟨front, ended⟩
  have suffix : server <:+ Url.tidy config.actionBase.toList :=
    ((Url.SchemeKind.suffix_of_serverText? ends.named).trans (List.suffix_cons ':' rest)).trans
      (Url.dropWhile_of_splitScheme? found ▸ List.dropWhile_suffix _)
  have tidied : Url.tidy (front ++ ['/']) =
      Url.unbroken (front.dropWhile Url.isControl) ++ ['/'] := by
    rw [Url.tidy_eq, Url.dropWhile_append_of_stop (by decide),
      List.rdropWhile_concat_neg _ _ _ (by decide), Url.unbroken_append]
    rfl
  rw [ended, tidied, List.suffix_concat_iff] at suffix
  rcases suffix with nothing | ⟨before, rfl, -⟩
  · exact ends.nonempty nothing
  · have slash := ends.free '/' (List.mem_append_right _ (List.mem_singleton_self _))
    cases slash

/-- The blanks and controls at the end of an endpoint that ends in its server get into the
server. -/
theorem isReadable_actionEnd_iff {kind : Url.SchemeKind} {scheme rest server : List Char}
    (found : Url.splitScheme? (Url.tidy config.actionBase.toList) = some (scheme, rest))
    (ends : Url.EndsInServer kind rest server) :
    Url.IsReadable kind scheme (rest ++ config.actionEnd) ↔
      Url.IsServer kind scheme true (server ++ Url.trailing config.actionBase.toList) := by
  obtain ⟨later, divided⟩ := exists_kept_of_endsInServer found ends
  rw [actionEnd, divided]
  refine ends.isReadable_append_iff ?_ ?_ later
  · refine Url.isFollowed_eq_false_iff.mpr ⟨fun member => ?_, fun member => ?_⟩
    · exact absurd (Url.mem_trailing member) (by decide)
    · exact absurd (Url.mem_trailing member) (by decide)
  · exact fun character member => Url.SchemeKind.isSlash_eq_false (Url.mem_trailing member) kind

/-- Whether the action URL can be built, told by what stands behind the scheme of the endpoint and
by the blanks and controls at the end of the endpoint. -/
structure OpensBy (config : Config) (scheme rest : List Char) (opens : Prop) : Prop where
  /-- In every case it depends on the server that the whole text names. -/
  readable : opens ↔ Url.IsReadable (.of scheme) scheme (rest ++ config.actionEnd)
  settled : Url.Settles (.of scheme) rest → opens
  bare : ∀ server, Url.EndsInServer (.of scheme) rest server →
    Url.trailing config.actionBase.toList = [] → (opens ↔ server ≠ ['@'])
  blanked : ∀ server, Url.EndsInServer (.of scheme) rest server →
    Url.trailing config.actionBase.toList ≠ [] → Url.SchemeKind.of scheme ≠ .general → ¬ opens
  special : Url.SchemeKind.of scheme = .special → (opens ↔
    ∀ server, Url.EndsInServer .special rest server → Url.trailing config.actionBase.toList = [])

theorem opensBy_of_isReadable_iff {scheme rest : List Char} {opens : Prop}
    (found : Url.splitScheme? (Url.tidy config.actionBase.toList) = some (scheme, rest))
    (readable : Url.IsReadable (.of scheme) scheme rest)
    (same : opens ↔ Url.IsReadable (.of scheme) scheme (rest ++ config.actionEnd)) :
    config.OpensBy scheme rest opens := by
  have settled (settles : Url.Settles (.of scheme) rest) : opens :=
    same.mpr (settles.isReadable_append readable _)
  have bare {server : List Char} (ends : Url.EndsInServer (.of scheme) rest server)
      (clean : Url.trailing config.actionBase.toList = []) : opens ↔ server ≠ ['@'] := by
    rw [same, isReadable_actionEnd_iff found ends, clean, List.append_nil,
      Url.isServer_followed_iff]
    exact and_iff_right (ends.isReadable_iff.mp readable)
  have blanked {server : List Char} (ends : Url.EndsInServer (.of scheme) rest server)
      (blanks : Url.trailing config.actionBase.toList ≠ [])
      (notGeneral : Url.SchemeKind.of scheme ≠ .general) : ¬ opens := by
    rw [same, isReadable_actionEnd_iff found ends]
    exact Url.not_isServer_append notGeneral ends.nonempty ends.free blanks
      (fun _ => Url.mem_trailing) true
  refine ⟨same, settled, fun _ => bare, fun _ => blanked, fun special => ⟨?_, ?_⟩⟩
  · intro opened server ends
    by_contra blanks
    rw [← special] at ends
    exact blanked ends blanks (by simp [special]) opened
  · intro clean
    rw [special] at readable
    rcases Url.settles_or_endsInServer readable with settles | ⟨server, ends⟩
    · exact settled (special ▸ settles)
    · refine (bare (special ▸ ends) (clean server ends)).mpr ?_
      rintro rfl
      obtain ⟨read, ⟨⟩⟩ := ends.isReadable_iff.mp readable

/-- The action URL of a valid configuration can be built exactly as far as the end of its endpoint
allows, and the manager of the configuration is opened exactly if it can. -/
theorem opensBy_of_check (client : Http.Client) (accepted : config.check = .ok ()) :
    ∃ scheme rest, Url.splitScheme? (Url.tidy config.actionBase.toList) = some (scheme, rest) ∧
      config.OpensBy scheme rest
        (∃ endpoint, ActionEndpoint.ofConfig client config = .ok endpoint) ∧
      ∀ world, (∃ manager, ((Manager.openValid config).run world).1 = .ok (.ok manager)) ↔
        ∃ endpoint, ActionEndpoint.ofConfig client config = .ok endpoint := by
  obtain ⟨scheme, rest, found, readable, built⟩ := exists_actionUrl_iff accepted
  have opens : (∃ endpoint, ActionEndpoint.ofConfig client config = .ok endpoint) ↔
      ∃ url, config.actionUrl = .ok url :=
    exists_bind_eq_ok_iff
  refine ⟨scheme, rest, found, ?_, fun world => ?_⟩
  · exact opensBy_of_isReadable_iff found readable (opens.trans built)
  · have manages : (∃ manager, Manager.ofConfig (.new .standard) config = .ok manager) ↔
        ∃ url, config.actionUrl = .ok url := Program.exists_ofConfig_eq_ok_iff
    rw [opens, ← manages, Program.run_openValid, Manager.ofValid, accepted, ok_bind]
    cases Manager.ofConfig (.new .standard) config <;> simp

/-- An endpoint that ends in its server is completed to an action URL if no blank is behind it. -/
theorem opensBy_of_check_bare :
    let config : Config :=
      { Config.new "ORG@AdobeOrg" "client" "secret" with actionBase := "https://umapi.test" }
    config.check = .ok () ∧
      ∃ endpoint, ActionEndpoint.ofConfig (.new .standard) config = .ok endpoint := by
  intro config
  have accepted : config.check = .ok () := by decide +kernel
  obtain ⟨scheme, rest, found, decides, -⟩ := opensBy_of_check (.new .standard) accepted
  have split : Url.splitScheme? (Url.tidy config.actionBase.toList) =
      some ("https".toList, "//umapi.test".toList) := by decide +kernel
  cases found.symm.trans split
  have clean : Url.trailing config.actionBase.toList = [] := by decide +kernel
  exact ⟨accepted, (decides.special (by decide +kernel)).mpr fun _ _ => clean⟩

/-- A blank behind an endpoint that ends in its server is dropped when the endpoint is checked, and
becomes part of the server when the action URL is built. -/
theorem check_misses_blank :
    let config : Config :=
      { Config.new "ORG@AdobeOrg" "client" "secret" with
        actionBase := "https://umapi.test "
        tokenEndpoint := "https://ims.test/ims/token/v3" }
    config.check = .ok () ∧
      config.actionUrl = .error (.config "invalid URL: invalid international domain name") ∧
      ¬ ∃ endpoint, ActionEndpoint.ofConfig (.new .standard) config = .ok endpoint := by
  intro config
  have refused : config.actionUrl =
      .error (.config "invalid URL: invalid international domain name") := by decide +kernel
  refine ⟨by decide +kernel, refused, ?_⟩
  rintro ⟨endpoint, opened⟩
  rw [ActionEndpoint.ofConfig, refused] at opened
  cases opened

end Config

end GroupSync
