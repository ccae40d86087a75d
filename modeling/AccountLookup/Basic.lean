/-
# Values, errors and calls

The vocabulary shared by all packages of the repository. Optional string
properties are three-valued, because the source distinguishes an absent property
from an explicit `null` in some places and not in others. A call to a service, a
database or another object is a function on a world that it may change and that
decides its outcome, so a theorem about every world covers every behaviour of
the callee, failures included.
-/

import Mathlib.Logic.Basic
import Mathlib.Data.Int.Notation
import Mathlib.Data.Nat.Notation

namespace AccountLookup

/-- A string property that may be absent (`undefined`), `null` or set. -/
inductive JsString
  | undefined
  | null
  | str (value : String)
  deriving DecidableEq

namespace JsString

/-- Truthiness: only a non-empty string counts. -/
def truthy : JsString → Bool
  | .str value => value ≠ ""
  | _ => false

/-- Whether the value is `null` or `undefined`. -/
def nullish : JsString → Bool
  | .str _ => false
  | _ => true

/-- The operator `?? null`. -/
def orNull : JsString → JsString
  | .undefined => .null
  | value => value

/-- How a template string renders the value. -/
def toText : JsString → String
  | .undefined => "undefined"
  | .null => "null"
  | .str value => value

/-- The value with everything falsy identified. -/
def nonEmpty? : JsString → Option String
  | .str value => if value = "" then none else some value
  | _ => none

/-- A `string | null` as a property value. -/
def ofOption : Option String → JsString
  | none => .null
  | some value => .str value

@[simp] theorem truthy_undefined : truthy .undefined = false := rfl
@[simp] theorem truthy_null : truthy .null = false := rfl
@[simp] theorem truthy_str (value : String) : truthy (.str value) = decide (value ≠ "") := rfl
@[simp] theorem orNull_undefined : orNull .undefined = .null := rfl
@[simp] theorem orNull_null : orNull .null = .null := rfl
@[simp] theorem orNull_str (value : String) : orNull (.str value) = .str value := rfl

@[simp]
theorem orNull_orNull (value : JsString) : value.orNull.orNull = value.orNull := by
  cases value <;> rfl

@[simp]
theorem truthy_orNull (value : JsString) : value.orNull.truthy = value.truthy := by
  cases value <;> rfl

/-- A truthy value is a non-empty string. -/
theorem truthy_iff {value : JsString} :
    value.truthy = true ↔ ∃ s, value = .str s ∧ s ≠ "" := by
  cases value with
  | undefined => simp
  | null => simp
  | str s => simp

/-- Identifying the falsy values keeps exactly the truthy ones. -/
theorem nonEmpty?_eq_some_iff {value : JsString} {s : String} :
    value.nonEmpty? = some s ↔ value = .str s ∧ s ≠ "" := by
  cases value with
  | undefined => simp [nonEmpty?]
  | null => simp [nonEmpty?]
  | str t =>
    by_cases h : t = ""
    · constructor
      · intro hn
        simp [nonEmpty?, h] at hn
      · rintro ⟨hs, hne⟩
        exact absurd ((str.inj hs).symm.trans h) hne
    · simp only [nonEmpty?, if_neg h, Option.some.injEq, str.injEq]
      constructor
      · rintro rfl
        exact ⟨rfl, h⟩
      · exact And.left

theorem nonEmpty?_eq_none_iff {value : JsString} :
    value.nonEmpty? = none ↔ value.truthy = false := by
  cases value with
  | undefined => simp [nonEmpty?]
  | null => simp [nonEmpty?]
  | str t => by_cases h : t = "" <;> simp [nonEmpty?, h]

end JsString

/-- A number that is whole, infinite or not a number. Zero carries no sign. -/
inductive JsNumber
  | int (value : ℤ)
  | infinity (positive : Bool)
  | nan
  deriving DecidableEq

namespace JsNumber

/-- `Math.min`. -/
def min : JsNumber → JsNumber → JsNumber
  | .nan, _ => .nan
  | _, .nan => .nan
  | .int a, .int b => .int (Min.min a b)
  | .infinity true, b => b
  | .infinity false, _ => .infinity false
  | a, .infinity true => a
  | _, .infinity false => .infinity false

/-- `Math.max`. -/
def max : JsNumber → JsNumber → JsNumber
  | .nan, _ => .nan
  | _, .nan => .nan
  | .int a, .int b => .int (Max.max a b)
  | .infinity true, _ => .infinity true
  | .infinity false, b => b
  | _, .infinity true => .infinity true
  | a, .infinity false => a

/-- The product. -/
def mul : JsNumber → JsNumber → JsNumber
  | .nan, _ => .nan
  | _, .nan => .nan
  | .int a, .int b => .int (a * b)
  | .infinity positive, .int b => if b = 0 then .nan else .infinity (positive == decide (0 < b))
  | .int a, .infinity positive => if a = 0 then .nan else .infinity (positive == decide (0 < a))
  | .infinity first, .infinity second => .infinity (first == second)

/-- `Math.ceil` of the quotient of a length by a number. -/
def ceilDiv (length : ℕ) : JsNumber → JsNumber
  | .nan => .nan
  | .infinity _ => .int 0
  | .int b =>
    if b = 0 then if length = 0 then .nan else .infinity true
    else .int (-Int.fdiv (-(length : ℤ)) b)

end JsNumber

/-- White space and line ends, as `trim` and `parseInt` skip them. -/
def isWhiteSpace (c : Char) : Bool :=
  c.toNat ∈ [0x09, 0x0A, 0x0B, 0x0C, 0x0D, 0x20, 0xA0, 0x1680, 0x2028, 0x2029, 0x202F, 0x205F,
    0x3000, 0xFEFF] || (0x2000 ≤ c.toNat && c.toNat ≤ 0x200A)

/-- The value of a digit. -/
def digitValue (radix : ℕ) (c : Char) : Option ℕ :=
  let value :=
    if '0' ≤ c && c ≤ '9' then c.toNat - '0'.toNat
    else if 'a' ≤ c && c ≤ 'z' then c.toNat - 'a'.toNat + 10
    else if 'A' ≤ c && c ≤ 'Z' then c.toNat - 'A'.toNat + 10
    else radix
  if value < radix then some value else none

/-- The number that the leading digits stand for. -/
def readDigits (radix : ℕ) : Option ℕ → List Char → Option ℕ
  | read, [] => read
  | read, c :: rest =>
    match digitValue radix c with
    | none => read
    | some digit => readDigits radix (some (read.getD 0 * radix + digit)) rest

/-- `parseInt`, without the rounding of numbers beyond 2^53. -/
def parseInt (text : String) : JsNumber :=
  let signed := text.toList.dropWhile isWhiteSpace
  let (sign, digits) : ℤ × List Char :=
    match signed with
    | '-' :: rest => (-1, rest)
    | '+' :: rest => (1, rest)
    | rest => (1, rest)
  let read :=
    match digits with
    | '0' :: 'x' :: rest => readDigits 16 none rest
    | '0' :: 'X' :: rest => readDigits 16 none rest
    | rest => readDigits 10 none rest
  match read with
  | some value => .int (sign * value)
  | none => .nan

namespace JsNumber

@[simp] theorem min_int (a b : ℤ) : min (.int a) (.int b) = .int (Min.min a b) := rfl
@[simp] theorem max_int (a b : ℤ) : max (.int a) (.int b) = .int (Max.max a b) := rfl
@[simp] theorem mul_int (a b : ℤ) : mul (.int a) (.int b) = .int (a * b) := rfl

end JsNumber

/-- Equality in a database query: a string matches itself, and `null`, which is also what
the driver sends for `undefined`, matches a property that is `null` or missing. -/
def fieldMatches (stored wanted : JsString) : Bool :=
  match wanted with
  | .str _ => stored = wanted
  | _ => stored.nullish

theorem fieldMatches_eq (stored wanted : JsString) :
    fieldMatches stored wanted = decide (stored.orNull = wanted.orNull) := by
  cases stored <;> cases wanted <;> simp [fieldMatches, JsString.nullish]

/-- The error classes that the modelled code throws or tells apart. `external`
is whatever a database, a cache, an HTTP peer or another service raises. -/
inductive ErrorClass
  | external
  | error
  -- security library
  | unauthorizedError
  | forbiddenError
  -- domain-lib
  | participantNotFoundError
  | unableToGetParticipantFspIdError
  | unableToGetOracleFromOracleFinderError
  | duplicateOracleError
  | noSuchOracleAdapterError
  | unableToRemoveOracleError
  | oracleNotFoundError
  | unableToGetOracleAssociationsError
  -- implementations-lib
  | noSuchOracleError
  | oracleTypeNotSupportedError
  | unableToGetParticipantError
  | unableToInitOracleProvider
  | unableToGetOracleError
  | oracleAlreadyRegisteredError
  | unableToRegisterOracleError
  | unableToDeleteOracleError
  | unableToCloseDatabaseConnectionError
  | unableToInitOracleFinderError
  | unableToAssociateParticipantError
  | unableToDisassociateParticipantError
  | unableToGetAssociationError
  | participantAssociationAlreadyExistsError
  | unableToInitRemoteOracleProvider
  -- client-lib
  | unableToGetFspIdError
  deriving DecidableEq

/-- A thrown error: its class and its message. -/
structure JsError where
  cls : ErrorClass
  message : String
  deriving DecidableEq

/-- A call that may throw and may change the world. -/
abbrev Call (W : Type) (α : Type) : Type := W → Except JsError α × W

/-- One component of a world: it can be read and replaced. -/
structure Component (W C : Type) where
  get : W → C
  set : W → C → W
  get_set : ∀ w c, get (set w c) = c
  set_get : ∀ w, set w (get w) = w

/-- Run a call on one component of the world, leaving the rest alone. -/
def Call.on {W C α : Type} (part : Component W C) (call : Call C α) : Call W α := fun w =>
  let outcome := call (part.get w)
  (outcome.1, part.set w outcome.2)

end AccountLookup
