/-!
# Environments

Variables with their values. A variable that is set is never replaced.
-/
namespace Itanium

/-- The values of the variables that are set. -/
abbrev Environment := String → Option String

/-- Sets a variable, unless it is set. -/
def Environment.define (environment : Environment) (name value : String) : Environment :=
  fun other => (environment other).orElse fun _ => if other = name then some value else none

end Itanium
