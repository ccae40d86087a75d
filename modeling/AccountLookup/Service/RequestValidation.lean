/-
# Validation of requests

The checks in front of the handlers look for a field in five places of a request. They
ask the same of every place that defines the field, and one place has to define it. A
handler reads the field from one of the places, so a request may be valid on account of
another one.
-/

import AccountLookup.Domain.Interfaces

namespace AccountLookup

/-- The validation of a field over all the locations that may define it. -/
def check (values : List JsString) (condition : JsString → Bool) : Bool :=
  let defined := values.filter fun value => value ≠ .undefined
  !defined.isEmpty && defined.all condition

theorem check_eq_true_iff {values : List JsString} {condition : JsString → Bool} :
    check values condition = true ↔
      (∃ value ∈ values, value ≠ .undefined) ∧
        ∀ value ∈ values, value ≠ .undefined → condition value = true := by
  unfold check
  simp only [Bool.and_eq_true, Bool.not_eq_true', List.isEmpty_eq_false_iff_exists_mem,
    List.mem_filter, decide_eq_true_eq, List.all_eq_true, and_imp]

/-- A value in a request, as it has been parsed. A number is the text that it is printed as. -/
inductive JsonValue
  | null
  | boolean (value : Bool)
  | number (text : String)
  | string (value : String)
  | array (items : List JsonValue)
  | object (properties : List (String × JsonValue))

namespace JsonValue

def truthy : JsonValue → Bool
  | .null => false
  | .boolean value => value
  | .number text => text ≠ "0"
  | .string value => value ≠ ""
  | .array _ => true
  | .object _ => true

mutual

/-- How a template string renders the value. -/
def toText : JsonValue → String
  | .null => "null"
  | .boolean value => if value then "true" else "false"
  | .number text => text
  | .string value => value
  | .array items => ",".intercalate (itemTexts items)
  | .object _ => "[object Object]"

/-- How the items of an array are rendered: `null` is left out. -/
def itemTexts : List JsonValue → List String
  | [] => []
  | .null :: items => "" :: itemTexts items
  | item :: items => item.toText :: itemTexts items

end

/-- The operator `===` on two values that were parsed or read apart from each other: an array
or an object is not another one of the same content. -/
def strictEquals : JsonValue → JsonValue → Bool
  | .null, .null => true
  | .boolean first, .boolean second => first = second
  | .number first, .number second => first = second
  | .string first, .string second => first = second
  | _, _ => false

/-- The value is an array or an object. -/
def isReference : JsonValue → Bool
  | .array _ => true
  | .object _ => true
  | _ => false

/-- A value equals itself when it is read another time, unless it is an array or an object. -/
@[simp]
theorem strictEquals_self (value : JsonValue) : value.strictEquals value = !value.isReference := by
  cases value <;> simp [strictEquals, isReference]

theorem isReference_of_strictEquals {first second : JsonValue}
    (h : first.strictEquals second = true) : second.isReference = false := by
  cases first <;> cases second <;> simp_all [strictEquals, isReference]

end JsonValue

/-- A property of a JSON object: `undefined` is left out. -/
def JsString.toJson : JsString → Option JsonValue
  | .undefined => none
  | .null => some .null
  | .str value => some (.string value)

/-- A value as an optional string. One that is no string stands with `null`: a check for a
string rejects both alike. No check looks at the id, the currency and the endpoint of an
oracle; this is what they are only where they have the declared type. -/
def JsString.ofJson : Option JsonValue → JsString
  | none => .undefined
  | some (.string value) => .str value
  | some _ => .null

@[simp]
theorem JsString.ofJson_toJson (value : JsString) : ofJson value.toJson = value := by
  cases value <;> rfl

/-- The value is a string, `null` or left out, as an optional string is declared to be. -/
def HasDeclaredType (value : Option JsonValue) : Prop :=
  (JsString.ofJson value).toJson = value

/-- What a request holds under the name of one field. -/
structure FieldLocations where
  body : Option JsonValue
  cookies : Option JsonValue
  headers : Option JsonValue
  params : Option JsonValue
  query : Option JsonValue

namespace FieldLocations

variable (field : FieldLocations)

/-- What the locations other than the body hold. -/
def elsewhere : List JsString :=
  [field.cookies, field.headers, field.params, field.query].map JsString.ofJson

/-- The check `isString().notEmpty()` of the field. -/
def nonEmptyString : Bool := check (.ofJson field.body :: field.elsewhere) JsString.truthy

/-- The body does not define the field. -/
def MissingInBody : Prop := field.body = none

variable {field}

theorem ofJson_eq_undefined_iff {value : Option JsonValue} :
    JsString.ofJson value = .undefined ↔ value = none := by
  cases value with
  | none => exact iff_of_true rfl rfl
  | some value => cases value <;> simp [JsString.ofJson]

/-- **What a valid field has in the body.** A non-empty string, unless it is missing
there. -/
theorem truthy_body_iff (hvalid : field.nonEmptyString = true) :
    (JsString.ofJson field.body).truthy = true ↔ ¬ field.MissingInBody := by
  rw [nonEmptyString, check_eq_true_iff] at hvalid
  constructor
  · intro htruthy hmissing
    rw [ofJson_eq_undefined_iff.mpr hmissing] at htruthy
    cases htruthy
  · intro hdefined
    apply hvalid.2 _ (List.mem_cons_self ..)
    exact mt ofJson_eq_undefined_iff.mp hdefined

end FieldLocations

end AccountLookup
