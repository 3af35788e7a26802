import ProtoApi.Json.Number
import ProtoApi.Json.Tree
import ProtoApi.Text.Quoted

namespace ProtoApi

open Json (Fault Found)

/-!
# What decoders complain about

* `Json.Found.text` — how a message names what stands at a place;
* `DecodeError` — the complaints, with their wording in `DecodeError.message`.
-/

/-- The wording for what stands at a place. -/
def Json.Found.text : Found → String
  | null => "null"
  | boolean b => "boolean `" ++ (if b then "true" else "false") ++ "`"
  | number (.integer n) => "integer `" ++ String.ofList (Json.wholeChars n) ++ "`"
  | number (.float x) => "floating point `" ++ String.ofList (Json.floatChars x) ++ "`"
  | string s => "string " ++ Text.quoted s
  | sequence => "sequence"
  | map => "map"

/-- What a decoder complains about. -/
inductive DecodeError where
  | malformed (f : Fault)
  /-- A fault in a part that is passed over. -/
  | malformedPart (f : Fault)
  | invalidType (found : Found) (expected : String)
  | invalidValue (found : Found) (expected : String)
  | invalidLength (length : Nat) (expected : String)
  | missingField (label : String)
  | duplicateField (label : String)
  | unknownVariant (name : String) (known : List String)
  | noVariantMatches (type : String)
deriving Repr

/-- The wording of an error. -/
def DecodeError.message : DecodeError → String
  | malformed f => f.text
  | malformedPart f => f.skippedText
  | invalidType found expected => "invalid type: " ++ found.text ++ ", expected " ++ expected
  | invalidValue found expected => "invalid value: " ++ found.text ++ ", expected " ++ expected
  | invalidLength length expected => "invalid length " ++ toString length ++ ", expected "
    ++ expected
  | missingField label => "missing field `" ++ label ++ "`"
  | duplicateField label => "duplicate field `" ++ label ++ "`"
  | unknownVariant name known =>
    "unknown variant `" ++ name ++ "`, expected one of "
      ++ ", ".intercalate (known.map fun k => "`" ++ k ++ "`")
  | noVariantMatches type => "data did not match any variant of untagged enum " ++ type

end ProtoApi
