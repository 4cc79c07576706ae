import ProtoSchema.Generation.Draft

/-!
# Schemas of numbers

All rules of a number go onto keywords of one schema, but for the numbers that are left out.
-/

namespace ProtoSchema.Generation

/-- The keywords of numbers under rules.  A natural number is at least zero unless another least
value is given. -/
def numberKeywords (domain : NumberDomain) (r : NumberRules) : NumberKeywords where
  equals := r.equals
  enumeration := r.allow
  minimum := r.gte <|> (if domain = .natural then some .zero else none)
  exclusiveMinimum := r.gt
  maximum := r.lte
  exclusiveMaximum := r.lt

/-- The schema of a domain with some keywords. -/
def inDomain (domain : NumberDomain) (s : NumberKeywords) : Schema :=
  if domain = .real then .number s else .integer s

/-- Numbers of a kind under rules, which say nothing about the numbers that are written as
strings. -/
def numericSchema (kind : NumericKind) (r : NumberRules) : Schema :=
  let value := inDomain kind.domain (numberKeywords kind.domain r)
  let spelled := match kind.decimalPattern? with
    | some pattern => .choice [value, .ofPattern pattern]
    | none => value
  let denied := if r.deny.isEmpty then [] else [.not (.number { enumeration := r.deny })]
  .conjunction (spelled :: denied)

end ProtoSchema.Generation
