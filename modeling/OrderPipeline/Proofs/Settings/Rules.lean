import OrderPipeline.Proofs.Validity.Value
import OrderPipeline.Settings.Load

/-!
# Settings that break no rule

`Violation.Kept` says what a rule asks for in terms of the values. Checking the rules one after
another meets no broken one just if all are kept (`Settings.violation?_eq_none_iff`), and that is so
for all settings that load (`Settings.violation?_of_load`).
-/

namespace OrderPipeline

namespace Violation

/-- What a rule asks of settings. -/
def Kept (settings : Settings) : Violation → Prop
  | databaseUrl =>
    let url := Text.trim settings.databaseUrl
    url.startsWith "sqlite://" = true ∨ url.startsWith "sqlite::" = true ∨ url = ":memory:"
  | maxConnections => 1 ≤ UInt32.toNat (settings.value .maxConnections)
  | timeout =>
    1 ≤ UInt64.toNat (settings.value .timeoutSeconds) ∧
      UInt64.toNat (settings.value .timeoutSeconds) ≤ 300
  | stateKey => Text.blank settings.stateKey = false
  | blankUsername =>
    Text.blank settings.accounts.adminUsername = false ∧
      Text.blank settings.accounts.userUsername = false
  | sameUsername => settings.accounts.adminUsername ≠ settings.accounts.userUsername
  | lockedOut =>
    settings.accounts.allowAny = true ∨ settings.accounts.adminPassword ≠ "" ∨
      settings.accounts.userPassword ≠ ""
  | logLevel =>
    Text.lowerAscii (Text.trim (settings.value .logLevel)) ∈
      ["trace", "debug", "info", "warn", "error"]

/-- A rule that is not broken is kept. -/
theorem isIn_eq_false_iff (settings : Settings) (violation : Violation) :
    violation.isIn settings = false ↔ violation.Kept settings := by
  cases violation with
  | databaseUrl =>
    simp only [isIn, Bool.not_eq_false', Bool.or_eq_true, beq_iff_eq, or_assoc]
    rfl
  | maxConnections =>
    simp only [isIn, Kept, beq_eq_false_iff_ne, ne_eq, ← UInt32.toNat_inj, UInt32.toNat_zero]
    exact Nat.one_le_iff_ne_zero.symm
  | timeout =>
    simp only [isIn, Kept, Bool.or_eq_false_iff, beq_eq_false_iff_ne, decide_eq_false_iff_not,
      UInt64.lt_iff_toNat_lt, ne_eq, ← UInt64.toNat_inj, UInt64.toNat_zero]
    exact and_congr Nat.one_le_iff_ne_zero.symm Nat.not_lt
  | stateKey => exact Iff.rfl
  | blankUsername => exact Bool.or_eq_false_iff
  | sameUsername => exact beq_eq_false_iff_ne
  | lockedOut =>
    simp only [isIn, Bool.and_eq_false_iff, Bool.not_eq_false', String.isEmpty_eq_false_iff,
      or_assoc]
    rfl
  | logLevel =>
    simp only [isIn, Bool.not_eq_false', List.contains_iff_mem]
    rfl

end Violation

/-- No broken rule is met just if all rules are kept. -/
theorem Settings.violation?_eq_none_iff {settings : Settings} :
    settings.violation? = none ↔ ∀ violation : Violation, violation.Kept settings := by
  rw [violation?, List.find?_eq_none]
  constructor
  · intro unbroken violation
    rw [← Violation.isIn_eq_false_iff, ← Bool.not_eq_true]
    exact unbroken violation (by cases violation <;> decide)
  · intro kept violation _
    rw [Bool.not_eq_true, Violation.isIn_eq_false_iff]
    exact kept violation

/-- Settings that are loaded break no rule. -/
theorem Settings.violation?_of_load {files : FileTree} {environment : Environment}
    {demands : Demands} {settings : Settings}
    (loaded : load files environment demands = .ok settings) : settings.violation? = none := by
  obtain ⟨file, -, loaded⟩ := exists_of_bind_eq_ok loaded
  obtain ⟨given, -, loaded⟩ := exists_of_bind_eq_ok loaded
  unfold checked at loaded
  split at loaded
  · cases loaded
  · next unbroken =>
    cases loaded
    exact unbroken

end OrderPipeline
