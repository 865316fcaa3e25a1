import DbClient.Proofs.Enumerated
import DbClient.Proofs.Number.IntegerText
import DbClient.Setting.Value

/-! Values of settings and their text. Main statements: `parse_toText_type` says that every value is
read back from its text at its type, and `type_of_parse` that a text never denotes a value of
another type than the one it is read at. -/

namespace DbClient.Setting.Value

open Text

theorem parseNumber_intText {α : Type} {noun : String}
    {read : List Char → Except Number.IntegerFault α} {n : Int} {value : α}
    (hRead : read (Number.intText n) = .ok value) :
    parseNumber noun read (.ofList (Number.intText n)) = .ok value := by
  have hTrim : trim (Number.intText n) = Number.intText n :=
    trim_of_plain fun _ hc => Number.isBlank_of_mem_intText hc
  rw [parseNumber, String.toList_ofList, hTrim, hRead]

/-- Every value is read back from its text. -/
theorem parse_toText_type (value : Value) : parse value.toText value.type = .ok value := by
  cases value with
  | flag value => cases value <;> rfl
  | int value =>
      have hRead := Number.readInt32_eq_ok_iff.mpr (Number.isIntegerText_intText value.toInt)
      rw [type, toText, parse, parseNumber_intText hRead, Except.map]
  | long value =>
      have hRead := Number.readInt64_eq_ok_iff.mpr (Number.isIntegerText_intText value.toInt)
      rw [type, toText, parse, parseNumber_intText hRead, Except.map]
  | text value => rfl
  | compression value => exact congrArg (Except.map compression) (Enumerated.parse_name value)
  | format value => exact congrArg (Except.map format) (Enumerated.parse_name value)
  | buffering value => exact congrArg (Except.map buffering) (Enumerated.parse_name value)
  | sslMode value => exact congrArg (Except.map sslMode) (Enumerated.parse_name value)

/-- A text that denotes a value denotes one of the type that it is read at. -/
theorem type_of_parse {text : String} {type : ValueType} {value : Value}
    (hParse : parse text type = .ok value) : value.type = type := by
  have hMap {α : Type} {make : α → Value} {result : Except Error α}
      (hType : ∀ element, (make element).type = type) (hResult : result.map make = .ok value) :
      value.type = type := by
    cases result with
    | error error => cases hResult
    | ok element =>
        cases hResult
        exact hType element
  cases type with
  | flag =>
      cases hParse
      rfl
  | text =>
      cases hParse
      rfl
  | int => exact hMap (fun _ => rfl) hParse
  | long => exact hMap (fun _ => rfl) hParse
  | compression => exact hMap (fun _ => rfl) hParse
  | format => exact hMap (fun _ => rfl) hParse
  | buffering => exact hMap (fun _ => rfl) hParse
  | sslMode => exact hMap (fun _ => rfl) hParse

end DbClient.Setting.Value
