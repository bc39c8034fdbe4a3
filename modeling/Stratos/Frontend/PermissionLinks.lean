import Stratos.Frontend.Permissions
import Stratos.Lib.Chain

/-!
# Linked permissions

An entry of `permissionConfigs` is a configuration or a link, which names another entry.
`getConfig` follows the links from an entry, and counts them in `_tries`, to give up after twenty.

`getLinkedPermissionConfig` does not pass the count on, so that each link starts at zero again.
`getConfig` then gives up nowhere : it returns where the links end, however many they are
(`configCall_returned_iff`), throws where one names no entry (`configCall_iff`), and never ends
from a cycle (`not_configCall_of_cycle`). So the configuration within the tries, or
`undefined`, is what it returns exactly where there is such a configuration (`resolves_iff`).
-/

open Lib

namespace Stratos

/-! ## The code -/

/-- An entry of the table, a configuration or a `PermissionConfigLink`. -/
inductive PermissionConfigEntry
  | config (config : PermissionConfigType)
  | link (link : String)

/-- The table of configurations and links. -/
abbrev IPermissionConfigs := JsObject PermissionConfigEntry

/-- How a call of `getConfig` ends, where it does. -/
inductive ConfigOutcome
  /-- The configuration, or `undefined`. -/
  | returned (config : Option PermissionConfigEntry)
  | threw

mutual

/-- `getConfig`, with at most `depth` calls open at once : `none` where there would be more. -/
def getConfig (permissionConfigs : IPermissionConfigs) :
    ℕ → Option PermissionConfigEntry → ℕ → Option ConfigOutcome
  | 0, _, _ => none
  -- `linkConfig.link` of `undefined`
  | _ + 1, none, _ => some .threw
  | depth + 1, some (.link link), _tries =>
    if link ≠ "" then
      if _tries ≥ 20 then some (.returned none)
      else getLinkedPermissionConfig permissionConfigs depth link (_tries + 1)
    else some (.returned (some (.link link)))
  | _ + 1, some (.config config), _ => some (.returned (some (.config config)))

/-- What the link of an entry leads to. The count of the tries starts again. -/
def getLinkedPermissionConfig (permissionConfigs : IPermissionConfigs) :
    ℕ → String → ℕ → Option ConfigOutcome
  | 0, _, _ => none
  | depth + 1, link, _ => getConfig permissionConfigs depth (permissionConfigs.get? link) 0

end

/-- The call `getConfig(config)` ends so, on a stack that is deep enough. -/
def ConfigCall (permissionConfigs : IPermissionConfigs) (config : Option PermissionConfigEntry)
    (r : ConfigOutcome) : Prop :=
  ∃ depth, getConfig permissionConfigs depth config 0 = some r

/-! ## The chain of links -/

/-- The entry that a link names, or `undefined`. An empty name is no link. -/
def followLink (permissionConfigs : IPermissionConfigs) :
    Option PermissionConfigEntry → Option (Option PermissionConfigEntry)
  | some (.link link) => if link ≠ "" then some (permissionConfigs.get? link) else none
  | _ => none

/-- How a call ends where no link leads on. -/
def ConfigOutcome.atEnd : Option PermissionConfigEntry → ConfigOutcome
  | none => .threw
  | some c => .returned (some c)

variable {permissionConfigs : IPermissionConfigs}
  {config config' : Option PermissionConfigEntry} {depth tries : ℕ} {r : ConfigOutcome}

theorem getConfig_of_end (h : followLink permissionConfigs config = none) :
    getConfig permissionConfigs (depth + 1) config tries = some (.atEnd config) := by
  match config with
  | none => rfl
  | some (.config _) => rfl
  | some (.link link) =>
    have hlink : ¬link ≠ "" := fun hne => by simp [followLink, hne] at h
    simp only [getConfig, hlink, if_false, ConfigOutcome.atEnd]

/-- The count that a link is followed with is not passed on. -/
theorem getConfig_of_follow (h : followLink permissionConfigs config = some config')
    (htries : tries < 20) :
    getConfig permissionConfigs (depth + 2) config tries =
      getConfig permissionConfigs depth config' 0 := by
  match config with
  | none => cases h
  | some (.config _) => cases h
  | some (.link link) =>
    have hlink : link ≠ "" := fun heq => by simp [followLink, heq] at h
    have hconfig : permissionConfigs.get? link = config' := by simpa [followLink, hlink] using h
    have hnot : ¬tries ≥ 20 := Nat.not_le.2 htries
    simp only [getConfig, getLinkedPermissionConfig, hlink, ne_eq, not_false_eq_true, if_true, hnot,
      if_false, hconfig]

/-- A call on a stack of depth one follows no link. -/
theorem getConfig_one_of_follow (h : followLink permissionConfigs config = some config')
    (htries : tries < 20) : getConfig permissionConfigs 1 config tries = none := by
  match config with
  | none => cases h
  | some (.config _) => cases h
  | some (.link link) =>
    have hlink : link ≠ "" := fun heq => by simp [followLink, heq] at h
    have hnot : ¬tries ≥ 20 := Nat.not_le.2 htries
    simp only [getConfig, getLinkedPermissionConfig, hlink, ne_eq, not_false_eq_true, if_true, hnot,
      if_false]

theorem getConfig_of_endsIn {n : ℕ} (h : EndsIn (followLink permissionConfigs) n config config') :
    getConfig permissionConfigs (2 * n + 1) config 0 = some (.atEnd config') := by
  obtain ⟨hleads, hend⟩ := h
  induction hleads with
  | refl => exact getConfig_of_end hend
  | step hfollow _ ih => exact (getConfig_of_follow hfollow (by decide)).trans (ih hend)

/-- A call that ends does so where the links do. -/
theorem endsIn_of_getConfig : ∀ {depth : ℕ} {config : Option PermissionConfigEntry},
    getConfig permissionConfigs depth config 0 = some r →
    ∃ n config', EndsIn (followLink permissionConfigs) n config config' ∧ r = .atEnd config'
  | 0, _, h => by cases h
  | depth + 1, config, h => by
    rcases hfollow : followLink permissionConfigs config with _ | config'
    · rw [getConfig_of_end hfollow] at h
      exact ⟨0, config, .refl hfollow, (Option.some.inj h).symm⟩
    · match depth with
      | 0 =>
        rw [getConfig_one_of_follow hfollow (by decide)] at h
        cases h
      | depth + 1 =>
        rw [getConfig_of_follow hfollow (by decide)] at h
        obtain ⟨n, end', hends, hr⟩ := endsIn_of_getConfig h
        exact ⟨n + 1, end', hends.step hfollow, hr⟩

/-- `getConfig` ends where the links do. -/
theorem configCall_iff : ConfigCall permissionConfigs config r ↔ ∃ n config',
    EndsIn (followLink permissionConfigs) n config config' ∧ r = .atEnd config' := by
  constructor
  · rintro ⟨depth, h⟩
    exact endsIn_of_getConfig h
  · rintro ⟨n, config', h, rfl⟩
    exact ⟨2 * n + 1, getConfig_of_endsIn h⟩

/-- What is returned is the configuration at which the links end. -/
theorem configCall_returned_iff {r : Option PermissionConfigEntry} :
    ConfigCall permissionConfigs config (.returned r) ↔
      ∃ n c, EndsIn (followLink permissionConfigs) n config (some c) ∧ r = some c := by
  rw [configCall_iff]
  constructor
  · rintro ⟨n, _ | c, hends, hr⟩
    · cases hr
    · exact ⟨n, c, hends, ConfigOutcome.returned.inj hr⟩
  · rintro ⟨n, c, hends, rfl⟩
    exact ⟨n, some c, hends, rfl⟩

/-- `getConfig` never ends from a cycle of links. -/
theorem not_configCall_of_cycle {n : ℕ}
    (h : Leads (followLink permissionConfigs) (n + 1) config config) :
    ¬ConfigCall permissionConfigs config r := by
  intro hcall
  obtain ⟨m, config', hends, -⟩ := configCall_iff.1 hcall
  exact h.endless hends

/-! ## What is returned within the tries -/

/-- `getConfig` returns the configuration that at most twenty links lead to, and `undefined` where
they lead to none. -/
def Resolves (permissionConfigs : IPermissionConfigs) (config : Option PermissionConfigEntry) :
    Prop :=
  ∃ r, ConfigCall permissionConfigs config (.returned r) ∧
    ∀ c, r = some c ↔ ∃ n ≤ 20, EndsIn (followLink permissionConfigs) n config (some c)

/-- `getConfig` returns what it should exactly where at most twenty links lead to a configuration.
-/
theorem resolves_iff (permissionConfigs : IPermissionConfigs)
    (config : Option PermissionConfigEntry) :
    Resolves permissionConfigs config ↔
      ∃ n ≤ 20, ∃ c, EndsIn (followLink permissionConfigs) n config (some c) := by
  constructor
  · rintro ⟨r, hr, hwithin⟩
    -- whatever is returned is a configuration, so it has to be within the tries
    obtain ⟨-, c, -, rfl⟩ := configCall_returned_iff.1 hr
    obtain ⟨n, hn, hends⟩ := (hwithin c).1 rfl
    exact ⟨n, hn, c, hends⟩
  · rintro ⟨n, hn, c, hends⟩
    refine ⟨some c, configCall_returned_iff.2 ⟨n, c, hends, rfl⟩, fun d => ⟨?_, ?_⟩⟩
    · rintro ⟨⟩
      exact ⟨n, hn, hends⟩
    · rintro ⟨m, -, hd⟩
      exact (hends.unique hd).2

/-- An entry that links to itself is followed without end. -/
theorem self_link_never_returns :
    ¬Resolves (JsObject.empty.set "edit.org" (.link "edit.org")) (some (.link "edit.org")) := by
  rintro ⟨r, hr, -⟩
  have hcycle : Leads (followLink (JsObject.empty.set "edit.org" (.link "edit.org"))) (0 + 1)
      (some (.link "edit.org")) (some (.link "edit.org")) := .step rfl (.refl _)
  exact not_configCall_of_cycle hcycle hr

end Stratos
