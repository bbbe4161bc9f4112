/-
# Configurations are accepted exactly if they are unambiguous

The check of a configuration looks for three problems, one after the other: a user
of nothing but blank characters, a user of several words, and a username with two
credentials. The first one found is reported, and for the last one the username of
the first credential in the list that repeats an earlier one. What passes has no
problem at all: every credential is found by its username, nobody else is, and the
order of the credentials is of no account.
-/

import StoryShell.Proofs.Config

namespace StoryShell.Config

/-- A text of one or more characters, none of them blank. -/
def IsWord (text : String) : Prop :=
  text ≠ "" ∧ ∀ c ∈ text.toList, Text.isBlank c = false

/-- Why a configuration is refused. Each constructor excludes what the ones before it report. -/
inductive Refuses (config : Config) : Failure → Prop
  | blankUser (blank : ∀ c ∈ config.user.toList, Text.isBlank c = true) :
    Refuses config (.configuration "user must not be empty")
  | manyWords (visible : ∃ c ∈ config.user.toList, Text.isBlank c = false)
    (blank : ∃ c ∈ config.user.toList, Text.isBlank c = true) :
    Refuses config (.configuration ("user must be a single word: " ++ Text.quoted config.user))
  | repeated (word : IsWord config.user) (before : List Credential) (credential : Credential)
    (after : List Credential)
    (listed : config.login.credentials = before ++ credential :: after)
    (distinct : (before.map (·.username)).Nodup)
    (again : credential.username ∈ before.map (·.username)) :
    Refuses config (.configuration ("duplicate credential for " ++ credential.username))

variable {config : Config} {seen names : List String} {name username : String}
  {failure : Failure} {credentials : List Credential}

/-! ### The first repetition -/

/-- The name that is found comes after names that are all different and not among those seen
before, and is one of them or of those. -/
theorem firstRepeated?_eq_some :
    firstRepeated? seen names = some name ↔
      ∃ before after, names = before ++ name :: after ∧ before.Nodup ∧
        (∀ earlier ∈ before, earlier ∉ seen) ∧ (name ∈ before ∨ name ∈ seen) := by
  induction names generalizing seen with
  | nil => simp [firstRepeated?]
  | cons first rest ih =>
    rw [firstRepeated?]
    by_cases known : first ∈ seen
    · rw [if_pos known]
      constructor
      · rintro ⟨⟩
        exact ⟨[], rest, rfl, List.nodup_nil, by simp, .inr known⟩
      · rintro ⟨before, after, same, -, fresh, -⟩
        cases before with
        | nil =>
          cases same
          rfl
        | cons other before =>
          cases same
          exact absurd known (fresh _ List.mem_cons_self)
    · rw [if_neg known, ih]
      constructor
      · rintro ⟨before, after, rfl, distinct, fresh, again⟩
        refine ⟨first :: before, after, rfl, ?_, ?_, ?_⟩
        · exact List.nodup_cons.mpr
            ⟨fun later => fresh first later List.mem_cons_self, distinct⟩
        · rintro earlier (_ | ⟨_, later⟩)
          · exact known
          · exact fun old => fresh earlier later (List.mem_cons_of_mem _ old)
        · grind
      · rintro ⟨before, after, same, distinct, fresh, again⟩
        cases before with
        | nil =>
          cases same
          simp [known] at again
        | cons other before =>
          cases same
          refine ⟨before, after, rfl, (List.nodup_cons.mp distinct).2, ?_, ?_⟩ <;> grind

/-! ### What is reported -/

theorem validate_eq_error : config.validate = .error failure ↔ config.problem? = some failure := by
  rw [validate]
  cases config.problem? <;> simp

/-- A word is neither blank nor broken by a blank character. -/
theorem isWord_iff {text : String} :
    IsWord text ↔ Text.allBlank text = false ∧ text.toList.any Text.isBlank = false := by
  rw [IsWord, Text.allBlank, List.any_eq_false, List.all_eq_false]
  constructor
  · rintro ⟨filled, visible⟩
    obtain ⟨c, hc⟩ := List.exists_mem_of_ne_nil text.toList (by simpa using filled)
    exact ⟨⟨c, hc, by simp [visible c hc]⟩, fun other hother => by simp [visible other hother]⟩
  · rintro ⟨⟨c, hc, -⟩, visible⟩
    refine ⟨?_, fun other hother => by simpa using visible other hother⟩
    rintro rfl
    cases hc

theorem problem?_of_blank (blank : ∀ c ∈ config.user.toList, Text.isBlank c = true) :
    config.problem? = some (.configuration "user must not be empty") :=
  if_pos (List.all_eq_true.mpr blank)

theorem problem?_of_manyWords (visible : ∃ c ∈ config.user.toList, Text.isBlank c = false)
    (blank : ∃ c ∈ config.user.toList, Text.isBlank c = true) :
    config.problem? =
      some (.configuration ("user must be a single word: " ++ Text.quoted config.user)) := by
  have notAll : Text.allBlank config.user = false := by
    simpa [Text.allBlank] using visible
  rw [problem?, notAll, List.any_eq_true.mpr blank]
  rfl

theorem problem?_of_isWord (word : IsWord config.user) :
    config.problem? =
      (firstRepeated? [] (config.login.credentials.map (·.username))).map fun name =>
        .configuration ("duplicate credential for " ++ name) := by
  obtain ⟨notAll, none⟩ := isWord_iff.mp word
  rw [problem?, notAll, none]
  rfl

theorem blank_or_manyWords_or_isWord (text : String) :
    (∀ c ∈ text.toList, Text.isBlank c = true) ∨
      ((∃ c ∈ text.toList, Text.isBlank c = false) ∧
        ∃ c ∈ text.toList, Text.isBlank c = true) ∨ IsWord text := by
  rw [isWord_iff, Text.allBlank, List.all_eq_false, List.any_eq_false]
  by_cases blank : ∀ c ∈ text.toList, Text.isBlank c = true
  · exact .inl blank
  · have visible : ∃ c ∈ text.toList, Text.isBlank c = false := by simpa using blank
    by_cases broken : ∃ c ∈ text.toList, Text.isBlank c = true
    · exact .inr (.inl ⟨visible, broken⟩)
    · exact .inr (.inr ⟨by simpa using visible, by simpa using broken⟩)

/-- Among credentials, the first repetition stands at the first one whose username occurs before. -/
theorem firstRepeated?_usernames :
    firstRepeated? [] (credentials.map (·.username)) = some name ↔
      ∃ before credential after, credentials = before ++ credential :: after ∧
        (before.map (·.username)).Nodup ∧ credential.username ∈ before.map (·.username) ∧
        credential.username = name := by
  rw [firstRepeated?_eq_some]
  constructor
  · rintro ⟨earlier, later, names, distinct, -, again⟩
    obtain ⟨before, rest, listed, rfl, same⟩ := List.map_eq_append_iff.mp names
    obtain ⟨credential, after, rfl, rfl, -⟩ := List.map_eq_cons_iff.mp same
    exact ⟨before, credential, after, listed, distinct, by simpa using again, rfl⟩
  · rintro ⟨before, credential, after, rfl, distinct, again, rfl⟩
    rw [List.map_append, List.map_cons]
    exact ⟨_, _, rfl, distinct, by simp, .inl again⟩

theorem validate_eq_error_iff : config.validate = .error failure ↔ Refuses config failure := by
  rw [validate_eq_error]
  constructor
  · intro found
    rcases blank_or_manyWords_or_isWord config.user with blank | ⟨visible, blank⟩ | word
    · rw [problem?_of_blank blank] at found
      cases found
      exact .blankUser blank
    · rw [problem?_of_manyWords visible blank] at found
      cases found
      exact .manyWords visible blank
    · rw [problem?_of_isWord word, Option.map_eq_some_iff] at found
      obtain ⟨name, repeated, rfl⟩ := found
      obtain ⟨before, credential, after, listed, distinct, again, rfl⟩ :=
        firstRepeated?_usernames.mp repeated
      exact .repeated word before credential after listed distinct again
  · intro refuses
    cases refuses with
    | blankUser blank => exact problem?_of_blank blank
    | manyWords visible blank => exact problem?_of_manyWords visible blank
    | repeated word before credential after listed distinct again =>
      rw [problem?_of_isWord word, Option.map_eq_some_iff]
      exact ⟨_, firstRepeated?_usernames.mpr ⟨_, _, _, listed, distinct, again, rfl⟩, rfl⟩

/-! ### What is accepted -/

theorem validate_eq_ok_iff :
    config.validate = .ok config ↔
      IsWord config.user ∧ (config.login.credentials.map (·.username)).Nodup := by
  rw [validate_eq_ok, problem?_eq_none, isWord_iff]
  simp [and_assoc]

/-- Exactly the credentials with a username are found by it. -/
theorem credential?_eq_some (accepted : config.problem? = none) {credential : Credential} :
    config.credential? username = some credential ↔
      credential ∈ config.login.credentials ∧ credential.username = username := by
  constructor
  · intro found
    exact ⟨List.mem_of_find?_eq_some found, username_of_credential? found⟩
  · rintro ⟨known, rfl⟩
    exact credential?_of_mem accepted known

theorem credential?_eq_none :
    config.credential? username = none ↔
      username ∉ config.login.credentials.map (·.username) := by
  simp [credential?, List.find?_eq_none]

/-- The configuration with other credentials. -/
def withCredentials (config : Config) (credentials : List Credential) : Config :=
  { config with login := { config.login with credentials } }

/-- Whether credentials are accepted does not depend on their order. -/
theorem validate_withCredentials (accepted : config.validate = .ok config)
    (same : credentials.Perm config.login.credentials) :
    (config.withCredentials credentials).validate = .ok (config.withCredentials credentials) := by
  obtain ⟨word, distinct⟩ := validate_eq_ok_iff.mp accepted
  exact validate_eq_ok_iff.mpr ⟨word, (same.map _).nodup_iff.mpr distinct⟩

/-- What is found by a username does not depend on the order of accepted credentials. -/
theorem credential?_withCredentials (accepted : config.validate = .ok config)
    (same : credentials.Perm config.login.credentials) (username : String) :
    (config.withCredentials credentials).credential? username = config.credential? username := by
  have valid := (validate_eq_ok.mp accepted).2
  have validToo := (validate_eq_ok.mp (validate_withCredentials accepted same)).2
  apply Option.ext
  intro credential
  rw [credential?_eq_some valid, credential?_eq_some validToo]
  exact and_congr_left fun _ => same.mem_iff

/-- Whatever the configuration, it is accepted, as it is, exactly if its user is one word and no
username has two credentials, and otherwise refused for the first of three problems. Once it is
accepted, each credential is found by its username, nothing is found by any other name, and all
this holds of the credentials in any order. -/
theorem accepts_exactly_unambiguous (config : Config) :
    (config.validate = .ok config ↔
      IsWord config.user ∧ (config.login.credentials.map (·.username)).Nodup) ∧
    (∀ accepted, config.validate = .ok accepted → accepted = config) ∧
    (∀ failure, config.validate = .error failure ↔ Refuses config failure) ∧
    (config.validate = .ok config →
      (∀ credential ∈ config.login.credentials,
        config.credential? credential.username = some credential) ∧
      (∀ username, username ∉ config.login.credentials.map (·.username) →
        config.credential? username = none) ∧
      ∀ credentials, credentials.Perm config.login.credentials →
        let reordered := config.withCredentials credentials
        reordered.validate = .ok reordered ∧
          ∀ username, reordered.credential? username = config.credential? username) := by
  refine ⟨validate_eq_ok_iff, ?_, fun failure => validate_eq_error_iff, ?_⟩
  · intro accepted passed
    exact (validate_eq_ok.mp passed).1.symm
  · intro accepted
    have valid := (validate_eq_ok.mp accepted).2
    refine ⟨fun credential known => credential?_of_mem valid known,
      fun username unknown => credential?_eq_none.mpr unknown, ?_⟩
    intro credentials same reordered
    exact ⟨validate_withCredentials accepted same, credential?_withCredentials accepted same⟩

/-- A configuration with a credential for each of two guests. -/
def guestList : Config where
  user := "host"
  login := { credentials := [⟨"ada", "loom", .user, none⟩, ⟨"bob", "kiln", .admin, none⟩] }

/-- The two guests are welcome in either order. Were each of them listed again, the second one
would be reported, who comes again first. -/
theorem accepts_unambiguous_guests :
    let turned := guestList.withCredentials guestList.login.credentials.reverse
    let crowded := guestList.withCredentials
      (guestList.login.credentials ++ guestList.login.credentials.reverse)
    guestList.validate = .ok guestList ∧ turned.validate = .ok turned ∧
      turned.credential? "ada" = some ⟨"ada", "loom", .user, none⟩ ∧
      turned.credential? "eve" = none ∧
      crowded.validate = .error (.configuration "duplicate credential for bob") := by
  intro turned crowded
  have word : IsWord "host" := isWord_iff.mpr ⟨rfl, rfl⟩
  obtain ⟨accepts, -, -, finds⟩ := accepts_exactly_unambiguous guestList
  have accepted := accepts.mpr ⟨word, by decide⟩
  obtain ⟨found, unknown, reorders⟩ := finds accepted
  obtain ⟨acceptedToo, same⟩ := reorders _ (List.reverse_perm _)
  obtain ⟨-, -, refuses, -⟩ := accepts_exactly_unambiguous crowded
  refine ⟨accepted, acceptedToo, ?_, ?_, ?_⟩
  · exact (same "ada").trans (found ⟨"ada", "loom", .user, none⟩ (by decide))
  · exact (same "eve").trans (unknown "eve" (by decide))
  · exact (refuses _).mpr (.repeated word guestList.login.credentials
      ⟨"bob", "kiln", .admin, none⟩ [⟨"ada", "loom", .user, none⟩] rfl (by decide) (by decide))

end StoryShell.Config
