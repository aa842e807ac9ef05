/-!
Private names. A name that begins with two low lines belongs to the class that it is written in, and
is bound behind that class's own name, so that classes which derive from one another keep their
private names apart.
-/

namespace SchemaNaming.Plugin

/-- Two low lines in front and not at the end. -/
def isPrivate (name : String) : Bool :=
  name.startsWith "__" && !name.endsWith "__" && !name.toList.contains '.'

/-- What a name is bound as that is written inside a class. Low lines in front of the class's name
do not count, and a class whose name has nothing else keeps no private names. -/
def boundIn (cls name : String) : String :=
  let stem := cls.toList.dropWhile (· == '_')
  if isPrivate name && !stem.isEmpty then "_" ++ String.ofList stem ++ name else name

theorem boundIn_of_not_isPrivate (cls : String) {name : String} (h : isPrivate name = false) :
    boundIn cls name = name := by
  simp [boundIn, h]

end SchemaNaming.Plugin
