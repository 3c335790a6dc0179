import TenantApi.Schema.Datum

/-!
Schemas. A kind says what a value must be; a model is a list of declared fields, open to further
members or not. A field may be looked up under an alias before its own name, and a field that is
absent takes its default when it has one. An issue names what is wrong and the path to it.
-/

namespace TenantApi.Schema

structure FieldHead where
  name : String
  otherName : Option String
  fallback : Option Datum

inductive Kind where
  | text
  | integer
  | truth
  | moment
  | anything
  | mapping
  | choice (members : WireEnum)
  | list (item : Kind)
  | optional (kind : Kind)
  | model (isOpen : Bool) (fields : List (FieldHead × Kind))

structure Model where
  name : String
  isOpen : Bool
  fields : List (FieldHead × Kind)

def Model.kind (model : Model) : Kind := .model model.isOpen model.fields

def required (name : String) (kind : Kind) : FieldHead × Kind := (⟨name, none, none⟩, kind)

def nullable (name : String) (kind : Kind) : FieldHead × Kind :=
  (⟨name, none, some .null⟩, .optional kind)

/-- A nullable field that is looked up under another name first. -/
def aliased (name otherName : String) (kind : Kind) : FieldHead × Kind :=
  (⟨name, some otherName, some .null⟩, .optional kind)

def defaulted (name : String) (fallback : Datum) (kind : Kind) : FieldHead × Kind :=
  (⟨name, none, some fallback⟩, kind)

inductive Step where
  | key (name : String)
  | index (n : Nat)
  deriving DecidableEq, Repr

inductive Problem where
  | missing
  | notText
  | notInteger
  | unreadableInteger
  | integerTooLarge
  | fractionalInteger
  | notFinite
  | notTruth
  | unreadableTruth
  | notMoment
  | unreadableMoment
  | notDate
  | notMember
  | notList
  | notMapping
  | notModel
  | notObject
  | unknownTag
  | missingTag
  | notFloat
  | unreadableFloat
  /-- Text with a half of a surrogate pair, where a string is needed. -/
  | brokenText
  deriving DecidableEq, Repr

def Problem.code : Problem → String
  | .missing => "missing"
  | .notText => "string_type"
  | .notInteger => "int_type"
  | .unreadableInteger => "int_parsing"
  | .integerTooLarge => "int_parsing_size"
  | .fractionalInteger => "int_from_float"
  | .notFinite => "finite_number"
  | .notTruth => "bool_type"
  | .unreadableTruth => "bool_parsing"
  | .notMoment => "datetime_type"
  | .unreadableMoment => "datetime_parsing"
  | .notDate => "datetime_from_date_parsing"
  | .notMember => "enum"
  | .notList => "list_type"
  | .notMapping => "dict_type"
  | .notModel => "model_type"
  | .notObject => "model_attributes_type"
  | .unknownTag => "union_tag_invalid"
  | .missingTag => "union_tag_not_found"
  | .notFloat => "float_type"
  | .unreadableFloat => "float_parsing"
  | .brokenText => "string_unicode"

structure Issue where
  problem : Problem
  path : List Step
  deriving DecidableEq, Repr

def Issue.under (step : Step) (issue : Issue) : Issue := ⟨issue.problem, step :: issue.path⟩

def fail (problem : Problem) : Except (List Issue) Datum := .error [⟨problem, []⟩]

end TenantApi.Schema
