import SpanWeave.Declaration

/-!
# The header of a wrapper

The lines at the top of a wrapper: the holder's copyright if one is named, the licence unless there
is none, and the type that the wrapper was made from.
-/

set_option autoImplicit false

namespace SpanWeave

/-- The licences that a wrapper can be put under. -/
inductive License where
  | apache
  | none
deriving DecidableEq, Repr

/-- What the settings say of the header. -/
structure HeaderSettings where
  holder : Option String := none
  year : Option Int := none
  license : License := .apache
deriving DecidableEq, Repr

/-- The first year that is given and not zero. -/
def firstYear (choices : List (Option Int)) (otherwise : Int) : Int :=
  (choices.findSome? fun y => y.filter (· != 0)).getD otherwise

/-- The words of the licence. -/
def apacheLines : List String :=
  ["Licensed under the Apache License, Version 2.0 (the \"License\");",
    "you may not use this file except in compliance with the License.",
    "You may obtain a copy of the License at",
    "",
    "https://www.apache.org/licenses/LICENSE-2.0",
    "",
    "Unless required by applicable law or agreed to in writing, software",
    "distributed under the License is distributed on an \"AS IS\" BASIS,",
    "WITHOUT WARRANTIES OR CONDITIONS OF ANY KIND, either express or implied.",
    "See the License for the specific language governing permissions and",
    "limitations under the License."]

/-- The lines about the holder, in the settings' own year or else in the given one. -/
def holderLines (settings : HeaderSettings) (year : Option Int) (currentYear : Int) : List String :=
  match settings.holder.filter (· != "") with
  | some holder =>
    let effective := firstYear [settings.year, year] currentYear
    ["Copyright " ++ toString effective ++ " " ++ holder, ""]
  | none => []

/-- The lines about the licence. -/
def licenseLines : License → List String
  | .apache => apacheLines ++ [""]
  | .none => []

/-- The header of the wrapper of a type. -/
def headerLines (settings : HeaderSettings) (source : TypeIdentity) (year : Option Int)
    (currentYear : Int) : List String :=
  holderLines settings year currentYear ++ licenseLines settings.license ++
    ["Generated by instrumentgen from " ++ source.qualifiedName ++ ". Do not edit."]

end SpanWeave
