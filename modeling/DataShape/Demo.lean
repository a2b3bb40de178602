import DataShape.Listing.Text
import DataShape.Pattern.Regex
import DataShape.Schema.Setting

/-!
# The demonstration schema

A schema of user records that shows the main features: a bounded name, an age with producers that
name the bound, optional hobbies and a list of nested users. Beside it stand a sample input and the
explanation of the schema.
-/

namespace DataShape.Demo

/-- A message with the bound in the middle. -/
def boundMessage (front : String) (bound? : Option Value) (back : String) : ValidationError :=
  .message (front ++ (bound?.map Value.text).getD "" ++ back)

/-- A name of at most 15 characters. -/
def name : Node :=
  .ofString [.own (.maxLen 15), .error .maxLen (.literal (.message "String length exceeded."))]

/-- An age from 13 to 99. -/
def age : Node :=
  .ofNumber .integer
    [.own (.min (.ofNat 13)), .own (.max (.ofNat 99)),
      .error .max (.closure (fun c => boundMessage "Age exceeded. Max age is " c.param? "")
        (some "|v, max| format!(\"Age exceeded. Max age is \x7b\x7d\", max)")),
      .error .min (.closure (fun c => boundMessage "Age must be bigger than " c.param? ".")
        (some "|v, min| format!(\"Age must be bigger than \x7b\x7d.\", min)"))]

/-- A hobby of at least 5 characters. -/
def hobby : Node :=
  .ofString [.own (.minLen 5), .error .minLen (.closure (fun c =>
    boundMessage "Hobbies must contain more than " c.param? " characters.") none)]

/-- The schema of user records. -/
def schema : Schema :=
  .ofSettings
    [.property "name" name,
      .property "age" age,
      .property "hobbies" (.ofArray (.each hobby) [.optional]),
      .property "users" (.ofArray
        (.each (.ofObject [.own (.property "name" name), .own (.property "age" age)])) [])]

/-- A user of the sample. -/
def sampleUser (name : String) (age : Nat) : Value :=
  .ofEntries [("name", toValue name), ("age", toValue age)]

/-- A user record with several faults. -/
def sample : Value :=
  .ofEntries
    [("name", toValue "abcccccccccccccccccccccccccccccccccccc"),
      ("age", toValue 314),
      ("hobbies", toValue
        ["developer", "dev", "video games", "books", "watching movies", "idk"]),
      ("users", toValue
        [sampleUser "Google" 44, sampleUser "B" 355,
          sampleUser "Ccwedw3ewe2e2e3eed3e3dde3e3s3d3d3" 43545, sampleUser "C" 44])]

/-- The listing of the schema, followed by the errors of the sample if it is asked for. -/
def explanation (withSample : Bool) : Except Defect String := do
  let v ← schema.compile []
  let errors := (v.errors sample).map fun e => "- " ++ e.text ++ "\n"
  return v.listing ++ (if withSample then "\n" ++ String.join errors else "")

end DataShape.Demo
