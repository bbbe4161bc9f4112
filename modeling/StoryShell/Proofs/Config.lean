/-
# Accepted configurations

What a configuration holds that is accepted: a user that is a word, and at most
one credential for each username. So looking up a credential by its username
finds that credential.
-/

import Mathlib.Data.List.Nodup
import StoryShell.Config.Basic

namespace StoryShell.Config

theorem firstRepeated?_eq_none {seen names : List String} :
    firstRepeated? seen names = none ↔ names.Nodup ∧ ∀ name ∈ names, name ∉ seen := by
  induction names generalizing seen with
  | nil => simp [firstRepeated?]
  | cons name rest ih =>
    rw [firstRepeated?]
    by_cases repeated : name ∈ seen
    · rw [if_pos repeated]
      constructor
      · rintro ⟨⟩
      · rintro ⟨-, fresh⟩
        exact absurd repeated (fresh name List.mem_cons_self)
    · rw [if_neg repeated, ih, List.nodup_cons]
      simp only [List.mem_cons, not_or, forall_eq_or_imp]
      constructor
      · rintro ⟨distinct, fresh⟩
        refine ⟨⟨fun again => (fresh name again).1 rfl, distinct⟩, repeated, ?_⟩
        intro other later
        exact (fresh other later).2
      · rintro ⟨⟨once, distinct⟩, -, fresh⟩
        refine ⟨distinct, fun other later => ⟨?_, fresh other later⟩⟩
        rintro rfl
        exact once later

variable {config : Config}

/-- A configuration is accepted as it is. -/
theorem validate_eq_ok {accepted : Config} :
    config.validate = .ok accepted ↔ config = accepted ∧ config.problem? = none := by
  rw [validate]
  cases problem : config.problem? with
  | none => simp
  | some failure => simp

theorem problem?_eq_none :
    config.problem? = none ↔
      Text.allBlank config.user = false ∧ config.user.toList.any Text.isBlank = false ∧
        (config.login.credentials.map (·.username)).Nodup := by
  rw [problem?]
  cases blank : Text.allBlank config.user with
  | true => simp
  | false =>
    cases split : config.user.toList.any Text.isBlank with
    | true => simp
    | false => simp [firstRepeated?_eq_none]

theorem user_ne_empty (accepted : config.problem? = none) : config.user ≠ "" := by
  intro empty
  obtain ⟨notBlank, -⟩ := problem?_eq_none.mp accepted
  rw [empty] at notBlank
  cases notBlank

theorem username_of_credential? {username : String} {credential : Credential}
    (h : config.credential? username = some credential) : credential.username = username := by
  have found := List.find?_some h
  exact of_decide_eq_true found

/-- The credentials of an accepted configuration are found by their usernames. -/
theorem credential?_of_mem (accepted : config.problem? = none) {credential : Credential}
    (known : credential ∈ config.login.credentials) :
    config.credential? credential.username = some credential := by
  obtain ⟨-, -, distinct⟩ := problem?_eq_none.mp accepted
  have someone : (config.credential? credential.username).isSome = true := by
    rw [credential?, List.find?_isSome]
    exact ⟨credential, known, decide_eq_true rfl⟩
  obtain ⟨found, looked⟩ := Option.isSome_iff_exists.mp someone
  have held : found ∈ config.login.credentials := List.mem_of_find?_eq_some looked
  have same : found = credential :=
    List.inj_on_of_nodup_map distinct held known (username_of_credential? looked)
  rw [looked, same]

end StoryShell.Config
