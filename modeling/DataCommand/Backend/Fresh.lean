import DataCommand.Backend.Basic
import DataCommand.SearchCommand.Basic
import DataCommand.SqlCommand.Render

/-!
The command that a backend takes, without anything in it yet.
-/

namespace DataCommand.Backend

/-- What a function makes of a fresh command for a backend. -/
def onFresh {α : Type} (backend : Backend) (f : {σ : Type} → [Builder σ] → σ → α) : α :=
  match backend with
  | .mongo => f ({} : DocumentCommand)
  | .elastic6 => f ({ layout := .typed } : SearchCommand)
  | .elastic7 => f ({ layout := .typeless } : SearchCommand)
  | .standard | .mysql | .postgres | .oracle => f ({} : SqlCommand)

end DataCommand.Backend
