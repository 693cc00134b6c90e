import LiveConfig.Value

set_option autoImplicit false

namespace LiveConfig

/-- A source of variables. -/
inductive Declaration where
  /-- Entries without names. -/
  | positional (values : List Value)
  | named (values : Fields Value)

/-- When the variables of a declaration are evaluated. -/
inductive Tier where
  /-- Once for each configuration. -/
  | static
  /-- At every change of the host. -/
  | dynamic
deriving DecidableEq, Repr

/-- The name under which expressions see all variables of a tier. -/
def Tier.scopeName : Tier → String
  | .static => "svars"
  | .dynamic => "vars"

/-- The entries of a tier. -/
structure Merged where
  positional : List Value := []
  named : Fields Value := []

namespace Merged

/-- Adds the entries of a declaration: those without names at the end, named ones in the place of
an entry of the same name. -/
def add (merged : Merged) : Option Declaration → Merged
  | none => merged
  | some (.positional values) => { merged with positional := merged.positional ++ values }
  | some (.named values) => { merged with named := Fields.putAll merged.named values }

/-- Global entries come first, and local ones override them. -/
def merge (globals locals : Option Declaration) : Merged :=
  (add {} globals).add locals

def isEmpty (merged : Merged) : Bool :=
  merged.positional.isEmpty && merged.named.isEmpty

theorem distinct_add (merged : Merged) (declaration : Option Declaration)
    (distinct : Fields.Distinct merged.named) : Fields.Distinct (merged.add declaration).named := by
  unfold add
  split
  · exact distinct
  · exact distinct
  · exact Fields.distinct_putAll _ _ distinct

/-- No name comes twice among the entries of a tier. -/
theorem distinct_merge (globals locals : Option Declaration) :
    Fields.Distinct (merge globals locals).named :=
  distinct_add _ _ (distinct_add _ _ List.nodup_nil)

end Merged

end LiveConfig
