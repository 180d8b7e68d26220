/-!
# Identity services

The services that a harness can stand in for. Endpoints are known for one of them only.
-/
namespace MockIssuer

inductive Service where
  | xsuaa
  | ias
  deriving DecidableEq, Repr, Inhabited

namespace Service

def name : Service → String
  | xsuaa => "XSUAA"
  | ias => "IAS"

/-- The service with this exact name. -/
def ofName? (text : String) : Option Service :=
  [xsuaa, ias].find? (·.name = text)

@[simp] theorem ofName?_name (service : Service) : ofName? service.name = some service := by
  cases service <;> rfl

end Service

end MockIssuer
