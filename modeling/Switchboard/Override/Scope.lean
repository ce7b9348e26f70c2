import Switchboard.Text.Blank
import Switchboard.Validation

namespace Switchboard

/-!
# Override scopes

An override forces the value of one flag for one user or one tenant.  Its scope
says which: at most one override of a scope is stored.
-/

/-- The dimension in which an override singles somebody out. -/
inductive ScopeKind where
  | user
  | tenant
  deriving DecidableEq, Repr

namespace ScopeKind

/-- The name of the dimension. -/
def label : ScopeKind → String
  | .user => "user"
  | .tenant => "tenant"

/-- The dimension of a name. -/
def ofLabel? (label : String) : Option ScopeKind :=
  if label = "user" then some .user
  else if label = "tenant" then some .tenant
  else none

/-- The complaint about a name that no dimension has. -/
def unknownLabel (label : String) : String :=
  "unknown scope type: " ++ label

/-- The name of a dimension names it. -/
theorem ofLabel_label (kind : ScopeKind) : ofLabel? kind.label = some kind := by
  cases kind <;> decide

end ScopeKind

/-- The identity of an override. -/
structure Scope where
  environment : String
  key : String
  kind : ScopeKind
  holder : String
  deriving DecidableEq, Repr

namespace Scope

/-- The scope of a user. -/
def user (environment key userId : String) : Scope :=
  ⟨environment, key, .user, userId⟩

/-- The scope of a tenant. -/
def tenant (environment key tenantId : String) : Scope :=
  ⟨environment, key, .tenant, tenantId⟩

/-- Refuse a scope by its environment, then by its key, then by a holder without a name. -/
def check (scope : Scope) : Except ValidationError Unit := do
  checkEnvironment scope.environment
  checkFlagKey scope.key
  if Text.isAllBlank scope.holder then .error .emptyScopeId else .ok ()

/-- The form in which a scope is shown. -/
def display (scope : Scope) : String :=
  scope.environment ++ "/" ++ scope.key ++ "/" ++ scope.kind.label ++ ":" ++ scope.holder

end Scope

end Switchboard
