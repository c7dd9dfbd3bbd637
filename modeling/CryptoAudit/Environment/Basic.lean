import CryptoAudit.Value.Fields

/-!
# Environments

## Main definitions

* `Environment`: the variables of the environment
-/

namespace CryptoAudit

/-- The variables of the environment, each with its text. -/
abbrev Environment := List (String × String)

end CryptoAudit
