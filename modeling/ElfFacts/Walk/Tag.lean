import ElfFacts.Text.Lowercase

/-!
# Tags in facts

A tag is put into lower case and every subprogram is called a function. Three kinds of entries are
treated on their own.
-/
namespace ElfFacts.Tag

def subprogram : List Char := "subprogram".toList

def function : List Char := "function".toList

/-- Every occurrence of `old` from left to right becomes `new`. The fuel is the length of the text. -/
def replaceFrom (old new : List Char) : Nat → List Char → List Char
  | 0, cs => cs
  | _ + 1, [] => []
  | fuel + 1, c :: r =>
    if old.isPrefixOf (c :: r) then new ++ replaceFrom old new fuel ((c :: r).drop old.length)
    else c :: replaceFrom old new fuel r

def replace (old new cs : List Char) : List Char := replaceFrom old new cs.length cs

def normalize (tag : String) : String :=
  String.ofList (replace subprogram function (Text.lowerChars tag.toList))

inductive Kind where
  | compileUnit
  | function
  | formalParameter
  | other
  deriving DecidableEq, Repr

def kind (tag : String) : Kind :=
  if tag = "dw_tag_compile_unit" then .compileUnit
  else if tag = "dw_tag_function" then .function
  else if tag = "dw_tag_formal_parameter" then .formalParameter
  else .other

end ElfFacts.Tag
