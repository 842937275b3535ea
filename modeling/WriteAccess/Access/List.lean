import WriteAccess.Access.Permission
import WriteAccess.Json.Value

/-!
# Access lists

The grants a lookup returns for an identity: each a permission with the resource definitions
(attribute filters) attached to it, kept as returned; they take no part in decisions. A list
allows a requested triple when some grant grants it.
-/

namespace WriteAccess

/-- One grant: a permission and its resource definitions. -/
structure Grant where
  permission : Permission
  resourceDefinitions : List Json.Value
  deriving Repr

/-- The grants returned for one identity, in the order returned. -/
structure AccessList where
  grants : List Grant
  deriving Repr

namespace AccessList

/-- No grant, which allows nothing. -/
def empty : AccessList := ⟨[]⟩

/-- A list with more grants after its own. -/
def append (l : AccessList) (more : List Grant) : AccessList := ⟨l.grants ++ more⟩

/-- Whether some grant grants the requested triple. -/
def isAllowed (l : AccessList) (service resourceType verb : String) : Bool :=
  l.grants.any fun g => g.permission.grants service resourceType verb

/-- The number of grants. -/
def size (l : AccessList) : Nat := l.grants.length

/-- Whether the list holds no grant. -/
def isEmpty (l : AccessList) : Bool := l.grants.isEmpty

/-- The permission required to write: every resource type and verb of the service `sources`. -/
def required : Permission := ⟨"sources", Permission.wildcard, Permission.wildcard⟩

/-- Whether the list allows writing. -/
def allowsWrite (l : AccessList) : Bool :=
  l.isAllowed required.service required.resourceType required.verb

end AccessList

end WriteAccess
